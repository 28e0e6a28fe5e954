import IndentTex.Proofs.ControlName
import IndentTex.Proofs.Nesting

/-!
# Raw arguments

A raw argument is read literally up to the first closing character that has no backslash before it.
`RawContent` is the grammar of what can stand inside, and `RawArgument` that of the whole argument. The
main result, `Scan.rawArgument_exact`, says that the readers of raw arguments accept these and nothing
else, what they do otherwise, and that literal text in a line is therefore copied.
-/

namespace IndentTex

variable {σ : Type} {opening close c : Char} {oneLine : Bool} {b b' w w' t tail : Text}

/-! ### The grammar -/

/-- The inside of a raw argument that ends with `close`: backslash pairs, and single characters other
than the backslash and `close`. None of them is a newline where `oneLine` is set. -/
inductive RawContent (close : Char) (oneLine : Bool) : Text → Prop where
  | nil : RawContent close oneLine []
  | pair {c : Char} {b : Text} : (oneLine → c ≠ '\n') → RawContent close oneLine b →
    RawContent close oneLine ('\\' :: c :: b)
  | char {c : Char} {b : Text} : c ≠ '\\' → c ≠ close → (oneLine → c ≠ '\n') →
    RawContent close oneLine b → RawContent close oneLine (c :: b)

/-- A raw argument with content `b`, from the blanks before it on. -/
inductive RawArgument (opening close : Char) (oneLine : Bool) (b : Text) : Text → Prop where
  | mk {blanks : Text} : blanks.isBlankLine → RawContent close oneLine b →
    RawArgument opening close oneLine b (blanks ++ opening :: b ++ [close])

namespace Scan

/-- A content is read up to the character that closes it. -/
lemma rawText?_of_rawContent (hclose : close ≠ '\\') (h : RawContent close oneLine b) (tail : Text) :
    rawText? close oneLine (b ++ close :: tail) = some b := by
  induction h with
  | nil => rw [List.nil_append, rawText?_char hclose, if_pos rfl]
  | pair hn _ ih =>
    rw [List.cons_append, List.cons_append, rawText?_pair, if_neg fun h => hn h.1 h.2, ih]
    rfl
  | char hb hc hn _ ih =>
    rw [List.cons_append, rawText?_char hb, if_neg hc, if_neg fun h => hn h.1 h.2, ih]
    rfl

/-- What is read is a content. -/
lemma rawContent_of_rawText? (h : rawText? close oneLine t = some b) : RawContent close oneLine b := by
  fun_induction rawText? close oneLine t generalizing b with
  | case1 | case2 | case4 | case6 => cases h
  | case5 =>
    cases h
    exact .nil
  | case3 c t hn ih =>
    obtain ⟨v, hv, rfl⟩ := Option.map_eq_some_iff.1 h
    exact .pair (fun ho hc => hn ⟨ho, hc⟩) (ih hv)
  | case7 c t _ hb hc hn ih =>
    obtain ⟨v, hv, rfl⟩ := Option.map_eq_some_iff.1 h
    exact .char hb hc (fun ho hc => hn ⟨ho, hc⟩) (ih hv)

end Scan

open Scan

namespace RawArgument

/-- A raw argument without blanks before it. -/
lemma unspaced (h : RawContent close oneLine b) :
    RawArgument opening close oneLine b (opening :: b ++ [close]) :=
  show RawArgument opening close oneLine b ([] ++ opening :: b ++ [close]) from .mk rfl h

/-- A text starts with one raw argument at most. -/
lemma unique (ho : isHorizontal opening = false) (hclose : close ≠ '\\')
    (h : RawArgument opening close oneLine b w) (h' : RawArgument opening close oneLine b' w')
    (hw : w <+: t) (hw' : w' <+: t) : b = b' ∧ w = w' := by
  obtain ⟨hb, hc⟩ := h
  obtain ⟨hb', hc'⟩ := h'
  obtain ⟨r, rfl⟩ := hw
  obtain ⟨r', hr⟩ := hw'
  simp only [List.append_assoc, List.cons_append, List.nil_append] at hr
  have hblanks := congrArg (List.takeWhile isHorizontal) hr
  rw [Text.takeWhile_run hb' (by simpa using ho), Text.takeWhile_run hb (by simpa using ho)] at hblanks
  subst hblanks
  have hrest := congrArg (rawText? close oneLine) (List.cons.inj (List.append_cancel_left hr)).2
  rw [rawText?_of_rawContent hclose hc', rawText?_of_rawContent hclose hc, Option.some_inj] at hrest
  exact ⟨hrest.symm, by rw [hrest]⟩

/-- Where a text starts with no raw argument, one that is opened there is not closed. -/
lemma rawText?_eq_none {blanks r : Text} (hb : blanks.isBlankLine)
    (hnone : ¬ ∃ b w, RawArgument opening close oneLine b w ∧ w <+: blanks ++ opening :: r) :
    rawText? close oneLine r = none := by
  rw [Option.eq_none_iff_forall_ne_some]
  intro b hr
  refine hnone ⟨b, _, .mk hb (rawContent_of_rawText? hr), r.drop (b.length + 1), ?_⟩
  exact Eq.trans (by simp) (congrArg (blanks ++ opening :: ·) (rawText?_eq hr).symm)

end RawArgument

/-! ### The readers -/

namespace Scan

variable {inner : Level σ} {s s' : State σ} {name : Text}

/-- Blanks are read up to a character that is none. -/
lemma skipBlanks_ok {blanks r : Text} (hs : s.cursor.rest = blanks ++ r) (hb : blanks.isBlankLine)
    (hr : r.starts isHorizontal = false) :
    skipBlanks s = .ok blanks (s.advance blanks.length) := by
  rw [skipBlanks, skipWhile_run, hs, Text.takeWhile_run hb hr]

/-- An argument is read in three steps. -/
lemma advance_enclosed (s : State σ) (blanks b : Text) (opening close : Char) :
    ((s.advance blanks.length).advance 1).advance (b.length + 1) =
      s.advance (blanks ++ opening :: b ++ [close]).length := by
  rw [State.advance_advance, State.advance_advance]
  congr 1
  simp
  omega

/-- Raw content before its closing character is read with it. -/
lemma raw_ok (hclose : close ≠ '\\') (h : RawContent close oneLine b)
    (hs : s.cursor.rest = b ++ close :: tail) :
    raw close oneLine s = .ok (some b) (s.advance (b.length + 1)) := by
  rw [raw, bind_of_ok (mark_run s), hs, rawText?_of_rawContent hclose h]
  rfl

/-- Where no raw content is closed, nothing is read. -/
lemma raw_open (h : rawText? close oneLine s.cursor.rest = none) :
    raw close oneLine s = .ok none s := by
  rw [raw, bind_of_ok (mark_run s), h]
  rfl

/-- A required argument that is opened is read with the brace behind the cursor. -/
lemma requiredArgument_open (inner : Level σ) (name : Text) (isRaw : Bool) {blanks r : Text}
    (hs : s.cursor.rest = blanks ++ '\x7b' :: r) (hb : blanks.isBlankLine) :
    requiredArgument inner name isRaw s =
      (if isRaw then rawGroup name else inner.group '\x7d') ((s.advance blanks.length).advance 1) := by
  rw [requiredArgument, bind_of_ok (skipBlanks_ok hs hb (by rfl)), bind_of_ok (peek_run _),
    State.rest_advance hs]
  dsimp only [List.head?_cons]
  rw [if_pos rfl, bind_of_ok (skip_run 1 _)]

/-- A raw argument in braces is read. -/
lemma requiredArgument_raw_ok (inner : Level σ) (name : Text)
    (h : RawArgument '\x7b' '\x7d' false b w) (hs : s.cursor.rest = w ++ tail) :
    requiredArgument inner name true s = .ok b (s.advance w.length) := by
  obtain ⟨hb, hc⟩ := h
  simp only [List.append_assoc, List.cons_append, List.nil_append] at hs
  have hraw := raw_ok (by decide) hc (State.advance_one (State.rest_advance hs))
  rw [requiredArgument_open inner name true hs hb, if_pos rfl, rawGroup, bind_of_ok hraw,
    advance_enclosed]
  rfl

/-- A required argument is missing where no brace follows the blanks. -/
lemma requiredArgument_absent (inner : Level σ) (name : Text) (isRaw : Bool)
    (h : (s.cursor.rest.dropWhile isHorizontal).head? ≠ some '\x7b') :
    ∃ e s', requiredArgument inner name isRaw s = .error e s' ∧
      e.kind = if Text.starts (· != '\x7b') (s.cursor.rest.dropWhile isHorizontal) then
        .missingArgument else .unexpectedEof := by
  rw [requiredArgument, skipBlanks, bind_of_ok (skipWhile_run _ s), bind_of_ok (peek_run _),
    s.advance_takeWhile_rest isHorizontal]
  cases hr : s.cursor.rest.dropWhile isHorizontal with
  | nil => exact ⟨_, _, rfl, rfl⟩
  | cons c r =>
    have hc : c ≠ '\x7b' := by simpa [hr] using h
    dsimp only [List.head?_cons]
    rw [if_neg hc, Text.starts_cons, if_pos (by simpa using hc)]
    exact ⟨_, _, rfl, rfl⟩

/-- Where there is no raw argument in braces, the run fails. -/
lemma requiredArgument_raw_error (inner : Level σ) (name : Text)
    (hnone : ¬ ∃ b w, RawArgument '\x7b' '\x7d' false b w ∧ w <+: s.cursor.rest) :
    ∃ e s', requiredArgument inner name true s = .error e s' ∧
      e.kind = if Text.starts (· != '\x7b') (s.cursor.rest.dropWhile isHorizontal) then
        .missingArgument else .unexpectedEof := by
  by_cases hc : (s.cursor.rest.dropWhile isHorizontal).head? = some '\x7b'
  · obtain ⟨blanks, r, hs, hb⟩ := Text.exists_of_head?_dropWhile hc
    rw [hs] at hnone
    have hraw := raw_open (s := (s.advance blanks.length).advance 1)
      ((State.advance_one (State.rest_advance hs)).symm ▸ RawArgument.rawText?_eq_none hb hnone)
    rw [requiredArgument_open inner name true hs hb, if_pos rfl, rawGroup, bind_of_ok hraw, hs,
      Text.dropWhile_run hb (by rfl)]
    exact ⟨_, _, rfl, rfl⟩
  · exact requiredArgument_absent inner name true hc

/-- What is read as a raw required argument is one in braces. -/
lemma requiredArgument_raw_iff (inner : Level σ) (name : Text) :
    requiredArgument inner name true s = .ok b s' ↔
      ∃ w, RawArgument '\x7b' '\x7d' false b w ∧ s.Consumes w s' := by
  constructor
  · intro h
    by_cases hw : ∃ b w, RawArgument '\x7b' '\x7d' false b w ∧ w <+: s.cursor.rest
    · obtain ⟨b', w, hw, tail, hs⟩ := hw
      rw [requiredArgument_raw_ok inner name hw hs.symm] at h
      cases h
      exact ⟨w, hw, .of_rest hs.symm⟩
    · obtain ⟨e, s₁, he, -⟩ := requiredArgument_raw_error inner name hw
      rw [he] at h
      cases h
  · rintro ⟨w, hw, ⟨tail, hs⟩, rfl⟩
    exact requiredArgument_raw_ok inner name hw hs.symm

/-- An optional argument that is opened is read with the bracket behind the cursor. -/
lemma optionalArgument_open (inner : Level σ) (isRaw : Bool) {blanks r : Text}
    (hs : s.cursor.rest = blanks ++ '[' :: r) (hb : blanks.isBlankLine) :
    optionalArgument inner isRaw s = orBack s.cursor (if isRaw then raw ']' true else inner.brackets)
      ((s.advance blanks.length).advance 1) := by
  rw [optionalArgument, bind_of_ok (mark_run s), bind_of_ok (skipBlanks_ok hs hb (by rfl)),
    bind_of_ok (peek_run _), State.rest_advance hs, List.head?_cons, if_pos rfl,
    bind_of_ok (skip_run 1 _)]

/-- A raw argument in brackets is read. -/
lemma optionalArgument_raw_ok (inner : Level σ) (h : RawArgument '[' ']' true b w)
    (hs : s.cursor.rest = w ++ tail) :
    optionalArgument inner true s = .ok (some b) (s.advance w.length) := by
  obtain ⟨hb, hc⟩ := h
  simp only [List.append_assoc, List.cons_append, List.nil_append] at hs
  have hraw := raw_ok (by decide) hc (State.advance_one (State.rest_advance hs))
  rw [optionalArgument_open inner true hs hb, if_pos rfl, orBack, bind_of_ok hraw, advance_enclosed]
  rfl

/-- There is no optional argument where no bracket follows the blanks. -/
lemma optionalArgument_absent (inner : Level σ) (isRaw : Bool)
    (h : (s.cursor.rest.dropWhile isHorizontal).head? ≠ some '[') :
    optionalArgument inner isRaw s = .ok none s := by
  rw [optionalArgument, bind_of_ok (mark_run s), skipBlanks, bind_of_ok (skipWhile_run _ s),
    bind_of_ok (peek_run _), s.advance_takeWhile_rest isHorizontal, if_neg h]
  rfl

/-- Where there is no raw argument in brackets, nothing is read. -/
lemma optionalArgument_raw_none (inner : Level σ)
    (hnone : ¬ ∃ b w, RawArgument '[' ']' true b w ∧ w <+: s.cursor.rest) :
    optionalArgument inner true s = .ok none s := by
  by_cases hc : (s.cursor.rest.dropWhile isHorizontal).head? = some '['
  · obtain ⟨blanks, r, hs, hb⟩ := Text.exists_of_head?_dropWhile hc
    rw [hs] at hnone
    have hraw := raw_open (s := (s.advance blanks.length).advance 1)
      ((State.advance_one (State.rest_advance hs)).symm ▸ RawArgument.rawText?_eq_none hb hnone)
    rw [optionalArgument_open inner true hs hb, if_pos rfl, orBack, bind_of_ok hraw]
    rfl
  · exact optionalArgument_absent inner true hc

/-- What is read as a raw optional argument is one in brackets. -/
lemma optionalArgument_raw_iff (inner : Level σ) :
    optionalArgument inner true s = .ok (some b) s' ↔
      ∃ w, RawArgument '[' ']' true b w ∧ s.Consumes w s' := by
  constructor
  · intro h
    by_cases hw : ∃ b w, RawArgument '[' ']' true b w ∧ w <+: s.cursor.rest
    · obtain ⟨b', w, hw, tail, hs⟩ := hw
      rw [optionalArgument_raw_ok inner hw hs.symm] at h
      cases h
      exact ⟨w, hw, .of_rest hs.symm⟩
    · rw [optionalArgument_raw_none inner hw] at h
      cases h
  · rintro ⟨w, hw, ⟨tail, hs⟩, rfl⟩
    exact optionalArgument_raw_ok inner hw hs.symm

/-! ### Literal text in a line -/

/-- Literal text with its command, after the backslash. -/
def verbText (b : Text) : Text := "verb".toList ++ ('\x7b' :: b ++ ['\x7d'])

/-- The name of the command for literal text is read. -/
lemma controlName_verb (hs : s.cursor.rest = verbText b ++ tail) :
    controlName s = .ok "verb".toList (s.advance "verb".toList.length) := by
  have hverb : "verb".toList.all isAlphabetic := by decide +kernel
  have hbrace : isAlphabetic '\x7b' = false := by decide +kernel
  have hname : Grammar.ControlName s.cursor.rest "verb".toList ('\x7b' :: b ++ ['\x7d'] ++ tail) := by
    rw [hs, verbText, List.append_assoc]
    exact .word (by decide) hverb hbrace
  exact controlName_run hname

/-- The command for literal text gives what it has read. -/
lemma customCommand_verb (inner : Level σ) (h : RawContent '\x7d' false b)
    (hs : s.cursor.rest = '\x7b' :: b ++ ['\x7d'] ++ tail) :
    customCommand inner Registry.verb s =
      .ok ('\\' :: verbText b) (s.advance ('\x7b' :: b ++ ['\x7d']).length) := by
  have hread := requiredArgument_raw_ok inner "verb".toList (.unspaced h) hs
  have hvalues : arguments inner Registry.verb.name Registry.verb.params s =
      .ok [some b] (s.advance ('\x7b' :: b ++ ['\x7d']).length) := by
    change (some <$> requiredArgument inner "verb".toList true >>= fun v =>
      (pure [] >>= fun vs => pure (v :: vs))) s = _
    rw [bind_run, map_run, hread]
    rfl
  rw [customCommand, bind_of_ok hvalues]
  simp [produce, Registry.verb, Registry.value, Markup.command, Argument.writeAll, Argument.written,
    Argument.required, verbText, Markup.control]

/-- Literal text is copied, from its name on. -/
lemma named_verb (inner : Level σ) (h : RawContent '\x7d' false b)
    (hs : s.cursor.rest = verbText b ++ tail) :
    customCommand inner Registry.verb (s.advance "verb".toList.length) =
      .ok ('\\' :: verbText b) (s.advance (verbText b).length) := by
  have hrest : (s.advance "verb".toList.length).cursor.rest = '\x7b' :: b ++ ['\x7d'] ++ tail :=
    State.rest_advance (by rw [hs, verbText, List.append_assoc])
  rw [customCommand_verb inner h hrest, State.advance_advance, ← List.length_append]
  rfl

/-- With the default definitions literal text is copied in groups and arguments. -/
lemma argumentControl_verb {S : Setup σ} (hS : S.registry = .defaults) (inner : Level σ)
    (h : RawContent '\x7d' false b) (hs : s.cursor.rest = verbText b ++ tail) :
    argumentControl S inner s = .ok ('\\' :: verbText b) (s.advance (verbText b).length) := by
  have hcommand : S.registry.command? "verb".toList = some Registry.verb := by rw [hS]; rfl
  rw [argumentControl, bind_of_ok (controlName_verb hs), hcommand]
  exact named_verb inner h hs

/-- With the default definitions literal text is copied in lines. -/
lemma lineControl_verb {S : Setup σ} (hS : S.registry = .defaults) (inner : Level σ) (level : Nat)
    (h : RawContent '\x7d' false b) (hs : s.cursor.rest = '\\' :: (verbText b ++ tail)) :
    lineControl S inner level s = .ok ('\\' :: verbText b) (s.advance ('\\' :: verbText b).length) := by
  have hfind : S.registry.find? "verb".toList = some (.command Registry.verb) := by rw [hS]; rfl
  have hrest := State.advance_one hs
  rw [lineControl, bind_of_ok (skip_run 1 s), bind_of_ok (controlName_verb hrest), hfind]
  dsimp only
  rw [named_verb inner h hrest, State.advance_advance, Nat.add_comm]
  rfl

/-- With the default definitions literal text is a fragment of its own. -/
lemma fragment_verb {S : Setup σ} (hS : S.registry = .defaults) (host : σ)
    (h : RawContent '\x7d' false b) :
    ∃ s', fragment (.outermost S) (.start ('\\' :: verbText b) host) =
      .ok ('\\' :: verbText b) s' := by
  have hs : (State.start ('\\' :: verbText b) host).cursor.rest = '\\' :: (verbText b ++ []) := by
    rw [List.append_nil]
    rfl
  have hcontrol := lineControl_sound (Level.ofRoom_sound S 127)
    (lineControl_verb hS (.ofRoom S 127) 0 h hs)
  rw [State.config_eq (State.rest_advance hs)] at hcontrol
  have hline : Grammar.Line S (Grammar.ofRoom S 127) 0 false _ _ _ := .control hcontrol (.done rfl)
  rw [List.append_nil] at hline
  obtain ⟨s', hs', -⟩ := fragment_complete (Level.ofRoom_complete S maxNesting) (.of_line hline)
    (.start ('\\' :: verbText b) host) rfl
  exact ⟨s', hs'⟩

/-! ### Raw arguments are read exactly -/

/-- A required raw argument is read where the text starts with one, and the argument is then the only
one there; otherwise the reader fails, and the kind of its error says whether a group was opened. An
optional one is read where the text starts with one, and otherwise nothing is. So literal text is
copied with the default definitions, wherever commands are read and as a fragment. -/
theorem rawArgument_exact (inner : Level σ) (s : State σ) :
    (∀ name b s', requiredArgument inner name true s = .ok b s' ↔
      ∃ w, RawArgument '\x7b' '\x7d' false b w ∧ s.Consumes w s') ∧
    (∀ b b' w w', RawArgument '\x7b' '\x7d' false b w → RawArgument '\x7b' '\x7d' false b' w' →
      w <+: s.cursor.rest → w' <+: s.cursor.rest → b = b' ∧ w = w') ∧
    (∀ name, (¬ ∃ b w, RawArgument '\x7b' '\x7d' false b w ∧ w <+: s.cursor.rest) →
      ∃ e s', requiredArgument inner name true s = .error e s' ∧
        e.kind = if Text.starts (· != '\x7b') (s.cursor.rest.dropWhile isHorizontal) then
          .missingArgument else .unexpectedEof) ∧
    (∀ b s', optionalArgument inner true s = .ok (some b) s' ↔
      ∃ w, RawArgument '[' ']' true b w ∧ s.Consumes w s') ∧
    ((¬ ∃ b w, RawArgument '[' ']' true b w ∧ w <+: s.cursor.rest) →
      optionalArgument inner true s = .ok none s) ∧
    ∀ (t : Translator σ) b, t.registry = .defaults → RawContent '\x7d' false b →
      t.translateFragment ('\\' :: verbText b) = .ok ('\\' :: verbText b) ∧
      (∀ level tail, s.cursor.rest = '\\' :: (verbText b ++ tail) →
        lineControl t.setup inner level s =
          .ok ('\\' :: verbText b) (s.advance ('\\' :: verbText b).length)) ∧
      ∀ tail, s.cursor.rest = verbText b ++ tail →
        argumentControl t.setup inner s = .ok ('\\' :: verbText b) (s.advance (verbText b).length) := by
  refine ⟨fun name _ _ => requiredArgument_raw_iff inner name, ?_,
    fun name => requiredArgument_raw_error inner name, fun _ _ => optionalArgument_raw_iff inner,
    optionalArgument_raw_none inner, ?_⟩
  · intro b b' w w' h h' hw hw'
    exact h.unique (by decide) (by decide) h' hw hw'
  · intro t b ht h
    exact ⟨Translator.run_eq_ok.2 (fragment_verb ht (t.start t.files) h),
      fun level _ hs => lineControl_verb ht inner level h hs,
      fun _ hs => argumentControl_verb ht inner h hs⟩

/-- An escaped closing character, a newline and a pair of backslashes at the end. -/
def escapedContent : Text := ['\\', '\x7d', '\n', '%', '\\', '\\']

/-- Literal text with every kind of unit, a group that only an escaped character closes, a missing
group, and a bracket that would be closed on the next line. -/
theorem rawArgument_exact_escaped :
    let t : Translator Unit := .defaults
    let inner : Level Unit := .outermost t.setup
    let unclosed : State Unit := .start [' ', '\x7b', 'a', '\\', '\x7d'] ()
    let missing : State Unit := .start ['\t', 'a', '\x7d'] ()
    let bracket : State Unit := .start [' ', '[', 'a', '\\', '\n', ']'] ()
    t.translateFragment ('\\' :: verbText escapedContent) = .ok ('\\' :: verbText escapedContent) ∧
      (∃ e s', requiredArgument inner [] true unclosed = .error e s' ∧ e.kind = .unexpectedEof) ∧
      (∃ e s', requiredArgument inner [] true missing = .error e s' ∧ e.kind = .missingArgument) ∧
      optionalArgument inner true bracket = .ok none bracket := by
  intro t inner unclosed missing bracket
  have hcontent : RawContent '\x7d' false escapedContent :=
    .pair (by decide) (.char (by decide) (by decide) (by decide)
      (.char (by decide) (by decide) (by decide) (.pair (by decide) .nil)))
  have hunclosed : ¬ ∃ b w, RawArgument '\x7b' '\x7d' false b w ∧ w <+: unclosed.cursor.rest := by
    rintro ⟨b, w, hw, hp⟩
    cases ((rawArgument_exact inner unclosed).1 [] b _).2 ⟨w, hw, hp, rfl⟩
  have hmissing : ¬ ∃ b w, RawArgument '\x7b' '\x7d' false b w ∧ w <+: missing.cursor.rest := by
    rintro ⟨b, w, hw, hp⟩
    cases ((rawArgument_exact inner missing).1 [] b _).2 ⟨w, hw, hp, rfl⟩
  have hbracket : ¬ ∃ b w, RawArgument '[' ']' true b w ∧ w <+: bracket.cursor.rest := by
    rintro ⟨b, w, hw, hp⟩
    cases ((rawArgument_exact inner bracket).2.2.2.1 b _).2 ⟨w, hw, hp, rfl⟩
  exact ⟨((rawArgument_exact inner unclosed).2.2.2.2.2 t _ rfl hcontent).1,
    (rawArgument_exact inner unclosed).2.2.1 [] hunclosed,
    (rawArgument_exact inner missing).2.2.1 [] hmissing,
    (rawArgument_exact inner bracket).2.2.2.2.1 hbracket⟩

end Scan

end IndentTex
