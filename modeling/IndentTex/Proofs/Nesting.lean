import IndentTex.Proofs.EntryPoints
import IndentTex.Proofs.Grammar.Nesting

/-!
# Fragments one level deeper

A fragment that becomes the body of an environment is translated as before, one level deeper: its
output is indented by the unit, and the executor gets the same calls. Only the room for nesting is
less by one, and the end of a one-line environment must not stand at the start of a line.
-/

namespace IndentTex

open Text

variable {σ τ : Type} {u : Text}

/-! ### Default definitions -/

/-- Arguments are indented by indenting what they contain. -/
lemma Argument.indent_writeAll (args : List (Option Argument)) :
    indent u false (writeAll args) =
        writeAll (args.map (Option.map fun a => { a with content := indentOpen u false a.content })) ∧
      lineStart false (writeAll args) = false := by
  induction args with
  | nil => exact ⟨rfl, rfl⟩
  | cons a args ih =>
    cases a with
    | none => exact ih
    | some a =>
      obtain ⟨content, optional⟩ := a
      have hcons : ∀ o c : Char, o ≠ '\n' → c ≠ '\n' →
          indent u false (o :: content ++ c :: writeAll args) =
              o :: indentOpen u false content ++ c :: indent u false (writeAll args) ∧
            lineStart false (o :: content ++ c :: writeAll args) = false := by
        intro o c ho hc
        have hf : (c == '\n') = false := by simpa using hc
        rw [List.cons_append, indent_cons ho, indent_append_cons hc, lineStart_cons,
          lineStart_append, lineStart_cons, hf]
        exact ⟨rfl, ih.2⟩
      cases optional with
      | true =>
        obtain ⟨hi, hl⟩ := hcons '[' ']' (by decide) (by decide)
        rw [ih.1] at hi
        simpa [writeAll, written] using ⟨hi, hl⟩
      | false =>
        obtain ⟨hi, hl⟩ := hcons '\x7b' '\x7d' (by decide) (by decide)
        rw [ih.1] at hi
        simpa [writeAll, written] using ⟨hi, hl⟩

namespace Registry

/-- The value of a slot, after a function of all values. -/
lemma value_map (f : Text → Text) (values : List (Option Text)) (i : Nat) :
    value (values.map (Option.map f)) i = (value values i).map f := by
  rw [value, value, List.getElem?_map]
  cases values[i]? with
  | none => rfl
  | some v => rfl

/-- A command that writes its arguments after its name. -/
lemma nests_command (name : Text) (hn : '\n' ∉ name) {c : Command}
    {args : List (Option Text) → List (Option Argument)}
    (hc : ∀ values, c.generate values = .ok (Markup.command name (args values)))
    (ha : ∀ values, args (values.map (Option.map (indentOpen u false))) =
      (args values).map (Option.map fun a => { a with content := indentOpen u false a.content })) :
    c.Nests u := by
  have hcontrol : '\n' ∉ Markup.control name := by simp [Markup.control, hn]
  refine ⟨fun {values out} h => ?_, fun {values out} h => ?_, fun {values out} h => ?_⟩
  all_goals
    rw [hc] at h
    cases h
  · rw [hc, ha, Markup.command, Markup.command, indent_line_append hcontrol,
      (Argument.indent_writeAll _).1]
  · rfl
  · rw [Markup.command, lineStart_append, lineStart_of_notMem hcontrol]
    exact (Argument.indent_writeAll (u := u) _).2

end Registry

/-- Code that is executed has an output, and the expansion goes on with it. -/
lemma Expansion.executing_ok {x : Executor σ} {interpreter : Option Text} {body out : Text}
    {next : Text → Text} {h h' : σ}
    (hrun : (Expansion.executing interpreter body next).run x h = (.ok out, h')) :
    ∃ output, (x.answer ⟨interpreter, body⟩ h).1 = .ok output ∧ next output = out := by
  rw [executing, run] at hrun
  cases ha : x.answer ⟨interpreter, body⟩ h with
  | mk answer h₁ =>
    rw [ha] at hrun
    cases answer with
    | error failure => cases hrun
    | ok output =>
      cases hrun
      exact ⟨output, rfl, rfl⟩

/-- An executor whose outputs are not empty and do not start with a newline. -/
def Executor.WritesText (x : Executor σ) : Prop :=
  ∀ call h out, (x.answer call h).1 = .ok out → out.starts (· != '\n')

namespace Registry

variable {x : Executor σ}

/-- The colon gives the same text one level deeper. -/
lemma nests_colon : colon.Nests u := by
  refine ⟨fun {values out} h => ?_, fun {values out} h => ?_, fun {values out} h => ?_⟩
  all_goals cases h
  all_goals rfl

/-- A document class gives indented text for indented values. -/
lemma nests_docclass : docclass.Nests u := by
  refine nests_command "documentclass".toList (by decide) (fun _ => rfl) fun values => ?_
  rw [value_map, value_map]
  cases value values 0 <;> cases value values 1 <;> rfl

/-- Literal text gives indented text for indented values. -/
lemma nests_verb : verb.Nests u := by
  refine nests_command "verb".toList (by decide) (fun _ => rfl) fun values => ?_
  rw [value_map]
  cases value values 0 <;> rfl

/-- A verbatim environment gives indented text for an indented body. -/
lemma nests_verbatim : verbatim.Nests x := by
  refine ⟨rfl, nofun, fun {unit body out values h h'} unit' hrun => ?_⟩
  cases hrun
  exact ⟨rfl, (Grammar.indent_environment (u := []) (by decide) rfl body).2.2⟩

/-- Dropping a newline at the end leaves the start of a text. -/
lemma starts_dropFinalNewline {t : Text} (ht : t.starts (· != '\n')) :
    (dropFinalNewline t).starts (· != '\n') := by
  rw [dropFinalNewline]
  split
  case isFalse => exact ht
  case isTrue hl =>
    obtain _ | ⟨c, _ | ⟨d, t⟩⟩ := t
    · cases ht
    · rw [List.getLast?_singleton, Option.some.injEq] at hl
      simp [hl] at ht
    · exact ht

/-- Spliced code gives indented text if executors write text. -/
lemma nests_pysplice (hx : x.WritesText) : pysplice.Nests x := by
  refine ⟨rfl, by decide, fun {unit body out values h h'} unit' hrun => ⟨hrun, ?_⟩⟩
  obtain ⟨output, ha, rfl⟩ := Expansion.executing_ok hrun
  exact starts_dropFinalNewline (hx _ h output ha)

/-- The default definitions work in the same way one level deeper. -/
lemma defaults_nests (hx : x.WritesText) : Setup.Nests u ⟨defaults, x⟩ := by
  intro name d hd
  obtain ⟨rfl, rfl | rfl | rfl | rfl | rfl⟩ := defaults_cases hd
  · exact ⟨by decide, .command nests_colon⟩
  · exact ⟨by decide, .command nests_docclass⟩
  · exact ⟨by decide, .environment (nests_pysplice hx)⟩
  · exact ⟨by decide, .command nests_verb⟩
  · exact ⟨by decide, .environment nests_verbatim⟩

end Registry

/-! ### Last lines -/

namespace Text

/-- Whether the last line of a text is not blank. -/
def endsWithText (t : Text) : Bool := (splitLines t).getLast?.any fun l => !l.isBlankLine

/-- The lines of two texts with a newline between them. -/
lemma splitLines_append_newline (x y : Text) :
    splitLines (x ++ '\n' :: y) = splitLines x ++ splitLines y := by
  induction x with
  | nil => exact splitLines_newline y
  | cons c x ih =>
    obtain ⟨l, ls, hl⟩ := List.exists_cons_of_ne_nil (splitLines_ne_nil x)
    rw [List.cons_append, splitLines, splitLines, ih, hl]
    split <;> rfl

/-- The lines of a blank text are blank. -/
lemma isBlankLine_of_mem_splitLines {t : Text} (ht : t.blankLines = t) :
    ∀ l ∈ splitLines t, l.isBlankLine := by
  rw [blankLines_eq_self_iff] at ht
  induction t with
  | nil => simp [splitLines, isBlankLine]
  | cons c t ih =>
    rw [List.all_cons, Bool.and_eq_true] at ht
    obtain ⟨l, ls, hl⟩ := List.exists_cons_of_ne_nil (splitLines_ne_nil t)
    have ih' := ih ht.2
    rw [splitLines]
    split
    · simpa [isBlankLine] using ih'
    case isFalse hc =>
      rw [hl, List.forall_mem_cons] at ih'
      rw [hl, List.forall_mem_cons]
      refine ⟨?_, ih'.2⟩
      have hh : isHorizontal c := by simp [isHorizontal, ht.1, hc]
      rw [isBlankLine, List.all_cons, hh]
      exact ih'.1

/-- Blank lines do not end with text. -/
lemma endsWithText_of_blankLines {t : Text} (ht : t.blankLines = t) : endsWithText t = false := by
  rw [endsWithText, List.getLast?_eq_some_getLast (splitLines_ne_nil t), Option.any_some,
    isBlankLine_of_mem_splitLines ht _ (List.getLast_mem _)]
  rfl

/-- Blank lines at the end of a text. -/
lemma endsWithText_append {t : Text} (ht : t.blankLines = t) (x : Text) :
    endsWithText (x ++ '\n' :: t) = false := by
  have hl := endsWithText_of_blankLines ht
  rw [endsWithText, List.getLast?_eq_some_getLast (splitLines_ne_nil t)] at hl
  rw [endsWithText, splitLines_append_newline, List.getLast?_append,
    List.getLast?_eq_some_getLast (splitLines_ne_nil t), Option.some_or, hl]

end Text

/-! ### A fragment as the body of an environment -/

namespace Grammar

variable {S : Setup σ} {n : Nat} {s out : Text} {h : σ} {k : Config σ}

/-- A block that starts without an indentation is at level 0. -/
lemma WholeBlock.exists_block {G : Grammar σ} {i : Indentation} (hs : s.isUnindented)
    (hblank : s.blankLines ≠ s) (hb : WholeBlock G ⟨s, i, h⟩ out k) :
    ∃ blank r text, s = blank ++ r ∧ (blank ++ r).blankLines = blank ∧ r ≠ [] ∧
      r.starts isHorizontal = false ∧ out = blank ++ text ∧
      Block (G.line 0 false) 0 ⟨r, i, h⟩ text k := by
  obtain ⟨blank, r, rfl, hbr, hne, hr⟩ := (isUnindented_cases hs).resolve_left hblank
  generalize hsr : blank ++ r = s at hb hbr
  cases hb with
  | blank hb => exact absurd hb (hsr ▸ hblank)
  | @lines blank' r' text level _ j _ _ hb' hne' hlevel hlines =>
    -- Both ways to cut the text are at the end of its blank lines.
    obtain rfl : blank' = blank := hb'.symm.trans hbr
    obtain rfl : r' = r := (List.append_cancel_left hsr).symm
    rw [takeWhile_of_starts hr] at hlevel
    cases hlevel
    exact ⟨_, _, _, hsr.symm, hbr, hne, hr, rfl, hlines⟩

/-- A fragment that starts without an indentation and ends with a line that is not blank is a single
block at level 0. -/
lemma Fragment.exists_block (hs : s.isUnindented) (hl : s.endsWithText)
    (hf : Fragment (tidyRoom S n) ⟨s, .unset, h⟩ out k) :
    ∃ blank r text, s = blank ++ r ∧ (blank ++ r).blankLines = blank ∧ r ≠ [] ∧
      r.starts isHorizontal = false ∧ out = blank ++ text ∧ k.rest = [] ∧
      Block ((tidyRoom S n).line 0 false) 0 ⟨r, .unset, h⟩ text k := by
  have hblank : s.blankLines ≠ s := by
    intro hb
    rw [endsWithText_of_blankLines hb] at hl
    cases hl
  cases hf with
  | last hb =>
    obtain ⟨blank, r, text, hsr, hbr, hne, hr, hout, hlines⟩ := hb.exists_block hs hblank
    exact ⟨blank, r, text, hsr, hbr, hne, hr, hout, rfl, hlines⟩
  | @more _ _ t text _ i _ hb _ =>
    -- The rest of the fragment is blank, and so is its last line.
    obtain ⟨_, _, _, -, -, -, -, -, hlines⟩ := hb.exists_block hs hblank
    have hC := Level.ofRoom_complete_tidyRoom S n
    obtain ⟨s', hrun, hk⟩ := Scan.block_complete hC hb (.start s h) rfl
    obtain ⟨w, hw, -⟩ := hC.onward.block.reaches hrun
    obtain ⟨hrest, -, -⟩ := State.config_eq_iff.1 hk
    obtain rfl : s = w ++ '\n' :: t := hrest ▸ hw
    rcases hlines.rest_of_zero with h0 | ⟨t', ht, hb'⟩
    · cases h0
    · cases ht
      rw [endsWithText_append hb'] at hl
      cases hl

/-- The block of an environment starts on a line of its own. -/
lemma Enter.newline {blank r : Text} {i j : Indentation} {level : Nat}
    (hb : (blank ++ r).blankLines = blank) (hne : r ≠ [])
    (hlevel : Indentation.levelOf (r.takeWhile isHorizontal) i = .ok (level + 1) j) :
    Enter level ⟨'\n' :: (blank ++ r), i, h⟩ ('\n' :: blank) ⟨r, j, h⟩ :=
  .mk (by rw [List.cons_append, ← List.nil_append ('\n' :: _), blankLines_line rfl, hb]; rfl)
    hne hlevel

/-- A single line that starts with a control sequence. -/
lemma Fragment.of_line {t : Text} {j : Indentation} {h' : σ}
    (hl : Line S (ofRoom S n) 0 false ⟨'\\' :: t, .unset, h⟩ out ⟨[], j, h'⟩) :
    Fragment (ofRoom S (n + 1)) ⟨'\\' :: t, .unset, h⟩ out ⟨[], j, h'⟩ := by
  have hwhole : WholeBlock (ofRoom S (n + 1)) ⟨[] ++ '\\' :: t, .unset, h⟩ _ _ :=
    .lines (blankLines_of_text (w := []) rfl (by decide) (by decide) _)
      (List.cons_ne_nil _ _) rfl (.last hl .finished)
  exact .last hwhole

/-- A block becomes the body of an environment without a definition. -/
lemma Fragment.native {w blank r text : Text} {i j : Indentation} {h' : σ} (hw : w ≠ [])
    (ha : w.all isAlphabetic) (hd : S.registry.find? w = none)
    (hb : (blank ++ r).blankLines = blank) (hne : r ≠ [])
    (hlevel : Indentation.levelOf (r.takeWhile isHorizontal) .unset = .ok 1 i)
    (hblock : Block ((ofRoom S n).line 1 false) 1 ⟨r, i, h⟩ text ⟨[], j, h'⟩) :
    Fragment (ofRoom S (n + 1)) ⟨Markup.control w ++ ':' :: '\n' :: (blank ++ r), .unset, h⟩
      (Markup.environment w [] ('\n' :: (blank ++ text) ++ ['\n'])) ⟨[], j, h'⟩ := by
  have hbody : EnvironmentBody (ofRoom S n) 0 ⟨[] ++ '\n' :: (blank ++ r), .unset, h⟩
      ⟨'\n' :: blank ++ text, true⟩ ⟨[], j, h'⟩ :=
    .block rfl (.newline hb hne hlevel) hblock
  have hcontrol := Control.native_bare hw ha hd hbody
  rw [List.nil_append] at hcontrol
  have hline : Line S (ofRoom S n) 0 false _ _ _ := .control hcontrol (.done rfl)
  rw [List.append_nil] at hline
  exact .of_line hline

/-- The fragment becomes the body of an environment without a definition. -/
lemma Fragment.nest (hu : Indentation.IsUnit u) (hS : S.Nests u) {w : Text} (hw : w ≠ [])
    (ha : w.all isAlphabetic) (hd : S.registry.find? w = none) (hs : s.isUnindented)
    (hl : s.endsWithText) (hf : Fragment (tidyRoom S n) ⟨s, .unset, h⟩ out k)
    (hk : k.indentation.Fits u 0) :
    Fragment (ofRoom S (n + 1)) ⟨Markup.control w ++ ':' :: '\n' :: indent u true s, .unset, h⟩
      (Markup.environment w [] ('\n' :: indent u true out ++ ['\n'])) ⟨[], .ofUnit u, k.host⟩ := by
  obtain ⟨blank, r, text, rfl, hbr, hne, hr, rfl, hrest, hblock⟩ := hf.exists_block hs hl
  obtain ⟨happ, hb', hne', htake⟩ := blankLines_indent hu.isBlankLine hbr hne
  have hG := tidyRoom_nests hu hS n
  have hblock' := hG.block hu hblock (Or.inr ⟨rfl, rfl⟩) hk
  have hlevel : Indentation.levelOf ((indent u true r).takeWhile isHorizontal) .unset =
      .ok 1 (.ofUnit u) := by
    rw [htake, takeWhile_of_starts hr, List.append_nil]
    exact Indentation.levelOf_unset hu
  have hout : indent u true (blank ++ text) = indent u true blank ++ indent u true text := by
    rw [indent_append, (exists_text_of_blankLines hbr hne).1.lineStart_eq]
  have hend : k.nest u false = ⟨[], .ofUnit u, k.host⟩ := by
    rw [Config.nest, hrest]
    rfl
  rw [hend] at hblock'
  rw [happ, hout]
  exact .native hw ha hd hb' hne' hlevel hblock'

end Grammar

/-! ### Runs side by side -/

namespace Lockstep

/-- The lockstep of two runs on the same text that says nothing about errors, and nothing about the
second run after an excused error of the first. -/
def alongside (host : σ → τ → Prop) (excused : Cause → Prop) : Lockstep σ τ where
  cursor := Eq
  known _ _ _ := True
  host := host
  given _ _ := True
  error _ _ _ _ := True
  excused := excused
  rest_eq h := h ▸ rfl
  advance _ h := h ▸ rfl
  levelOf_ok _ _ := trivial
  levelOf_error _ _ := trivial
  begun _ := trivial
  raised _ _ := trivial
  placed _ _ := trivial

variable {S : Setup σ}

/-- With less room for nesting there is the same run, or one that has no room left. -/
lemma alongside_ofRoom (S : Setup σ) (n : Nat) :
    (alongside Eq (· = .nestingTooDeep)).Levels (Level.ofRoom S n) (.ofRoom S (n + 1)) := by
  induction n with
  | zero =>
    exact { group := fun _ _ _ _ => .excused rfl _, brackets := fun _ _ _ => .excused rfl _,
            line := fun _ _ _ _ _ => .excused rfl _ }
  | succ n ih => exact ih.above (.refl (fun _ => trivial) (fun _ _ => Iff.rfl) S)

/-- With less room a fragment is read as before, unless it is nested too deeply. -/
lemma fragment_of_room {n : Nat} {s t : State σ} {out : Text}
    (h : Scan.fragment (.ofRoom S (n + 1)) s = .ok out t) :
    (∃ e t', Scan.fragment (.ofRoom S n) s = .error e t' ∧ e.cause = .nestingTooDeep) ∨
      ∃ t', Scan.fragment (.ofRoom S n) s = .ok out t' ∧ t'.host = t.host := by
  have ha := (alongside_ofRoom S n).fragment s s ⟨rfl, rfl, trivial, rfl⟩
  rw [h] at ha
  cases hs : Scan.fragment (.ofRoom S n) s with
  | ok o t' =>
    rw [hs] at ha
    obtain ⟨rfl, hr⟩ := ha
    exact Or.inr ⟨t', rfl, hr.host⟩
  | error e t' =>
    rw [hs] at ha
    exact Or.inl ⟨e, t', rfl, ha⟩

end Lockstep

/-! ### Recorded calls -/

/-- The executor that also keeps a list of the calls that it gets. -/
def Executor.recording (x : Executor σ) : Executor (σ × List Call) where
  answer call host := ((x.answer call host.1).1, ((x.answer call host.1).2, host.2 ++ [call]))

/-- The setup whose executor keeps a list of the calls that it gets. -/
def Setup.recording (S : Setup σ) : Setup (σ × List Call) := ⟨S.registry, S.executor.recording⟩

/-- A recording executor writes text if the executor does. -/
lemma Executor.recording_writesText {x : Executor σ} (hx : x.WritesText) :
    x.recording.WritesText :=
  fun call h out ha => hx call h.1 out ha

/-- A recording executor answers as the executor does. -/
lemma Expansion.run_recording (x : Executor σ) (e : Expansion) (p : σ × List Call) :
    (e.run x.recording p).1 = (e.run x p.1).1 ∧ (e.run x.recording p).2.1 = (e.run x p.1).2 := by
  induction e generalizing p with
  | text output => exact ⟨rfl, rfl⟩
  | error e => exact ⟨rfl, rfl⟩
  | execute call next ih => exact ih _ _

namespace Lockstep

/-- The lockstep of a run with the run that keeps a list of calls. -/
abbrev recorded (σ : Type) : Lockstep σ (σ × List Call) := alongside (fun h p => h = p.1) fun _ => True

/-- A setup corresponds to the one that records. -/
lemma recorded_setups (S : Setup σ) : (recorded σ).Setups S S.recording := by
  intro name
  change (recorded σ).Definitions _ _ (S.registry.find? name) (S.registry.find? name)
  cases S.registry.find? name with
  | none => exact .none
  | some d =>
    cases d with
    | command c =>
      refine .command rfl rfl fun values => ?_
      cases c.generate values with
      | ok t => exact .ok t
      | error e => exact .error trivial
    | environment e =>
      refine .environment rfl rfl rfl fun unit body values h p hp => ?_
      subst hp
      have hrun := Expansion.run_recording S.executor (e.generate unit body values) p
      revert hrun
      change _ → (recorded σ).Outcomes _ ((e.generate unit body values).run S.executor.recording p)
      generalize (e.generate unit body values).run S.executor p.1 = a
      generalize (e.generate unit body values).run S.executor.recording p = b
      obtain ⟨output, h⟩ := a
      obtain ⟨output', h', calls⟩ := b
      rintro ⟨rfl, rfl⟩
      cases output' with
      | ok t => exact .ok t rfl
      | error e => exact .error trivial rfl

end Lockstep

/-! ### Translation -/

namespace Scan

variable {S : Setup σ} {s out : Text} {h : σ} {fin : State σ}

/-- A tidy reading is a reading. -/
lemma fragment_of_tidy (hf : fragment (.outermostTidy S) (.start s h) = .ok out fin) :
    ∃ fin', fragment (.outermost S) (.start s h) = .ok out fin' ∧ fin'.config = fin.config :=
  fragment_complete (Level.ofRoom_complete_tidyRoom S maxNesting)
    (fragment_sound (Level.tidyRoom_sound S maxNesting) hf) (.start s h) rfl

/-- A fragment as the body of an environment without a definition. -/
lemma fragment_nest (hu : Indentation.IsUnit u) (hS : S.Nests u) {w : Text} (hw : w ≠ [])
    (ha : w.all isAlphabetic) (hd : S.registry.find? w = none) (hs : s.isUnindented)
    (hl : s.endsWithText) (hf : fragment (.outermostTidy S) (.start s h) = .ok out fin)
    (hfin : fin.indentation.Fits u 0) :
    (∃ e t, fragment (.outermost S)
        (.start (Markup.control w ++ ':' :: '\n' :: indent u true s) h) = .error e t ∧
      e.cause = .nestingTooDeep) ∨
    ∃ t, fragment (.outermost S) (.start (Markup.control w ++ ':' :: '\n' :: indent u true s) h) =
        .ok (Markup.environment w [] ('\n' :: indent u true out ++ ['\n'])) t ∧
      t.host = fin.host := by
  -- The deeper text is read with room for one more level. With the usual room there is the same run,
  -- or one that is nested too deep.
  have hread := fragment_sound (Level.tidyRoom_sound S maxNesting) hf
  have hnest := hread.nest hu hS hw ha hd hs hl hfin
  obtain ⟨t, ht, hk⟩ := fragment_complete (Level.ofRoom_complete S (maxNesting + 1)) hnest
    (.start (Markup.control w ++ ':' :: '\n' :: indent u true s) h) rfl
  obtain ⟨-, -, hhost⟩ := State.config_eq_iff.1 hk
  have hroom := Lockstep.fragment_of_room ht
  rwa [hhost] at hroom

end Scan

namespace Translator

open Scan

/-- The calls that the executor gets while a fragment is translated. -/
def calls (t : Translator σ) (source : Text) : List Call :=
  match fragment (.outermost t.setup.recording) (.start source (t.start t.files, [])) with
  | .ok _ s => s.host.2
  | .error _ s => s.host.2

/-- The calls of a run that succeeds are those that its executor has kept. -/
lemma calls_of_ok {t : Translator σ} {source o : Text} {s : State (σ × List Call)}
    (h : fragment (.outermost t.setup.recording) (.start source (t.start t.files, [])) = .ok o s) :
    t.calls source = s.host.2 := by
  rw [calls, h]

/-- The executor gets the same calls for a fragment that becomes the body of an environment. -/
lemma calls_nest {t : Translator σ} (hu : Indentation.IsUnit u) (hS : t.setup.recording.Nests u)
    {w s out o : Text} (hw : w ≠ []) (ha : w.all isAlphabetic) (hd : t.registry.find? w = none)
    (hs : s.isUnindented) (hl : s.endsWithText) {fin fin' : State σ}
    (hf : fragment (.outermostTidy t.setup) (.start s (t.start t.files)) = .ok out fin)
    (hfin : fin.indentation.Fits u 0)
    (hok : fragment (.outermost t.setup)
      (.start (Markup.control w ++ ':' :: '\n' :: indent u true s) (t.start t.files)) = .ok o fin') :
    t.calls (Markup.control w ++ ':' :: '\n' :: indent u true s) = t.calls s := by
  have hrel : ∀ source, (Lockstep.recorded σ).Related (.start source (t.start t.files))
      (.start source (t.start t.files, [])) := fun _ => ⟨rfl, rfl, trivial, rfl⟩
  have hsetups := Lockstep.recorded_setups t.setup
  -- Both readings succeed with a list of calls, too.
  obtain ⟨r, hr, hrfin⟩ := (Lockstep.Levels.tidyRoom hsetups maxNesting).fragment.ok (hrel s) hf
  obtain ⟨r', hr', hconfig⟩ := fragment_of_tidy hr
  obtain ⟨q, hq, -⟩ := (Lockstep.Levels.outermost hsetups).fragment.ok (hrel _) hok
  rw [calls_of_ok hq, calls_of_ok hr', (State.config_eq_iff.1 hconfig).2.2]
  rcases fragment_nest hu hS hw ha hd hs hl hr (hrfin.indentation_eq ▸ hfin) with
    ⟨e, q', he, -⟩ | ⟨q', hq', hhost⟩
  · rw [hq] at he
    cases he
  · rw [hq] at hq'
    cases hq'
    rw [hhost]

/-- An environment whose body is a block. -/
lemma environment_body (w body : Text) :
    Markup.environment w [] ('\n' :: body ++ ['\n']) =
      "\\begin\x7b".toList ++ w ++ '\x7d' :: '\n' :: body ++
        '\n' :: "\\end\x7b".toList ++ w ++ ['\x7d'] := by
  unfold Markup.environment
  generalize "\\begin\x7b".toList = b
  generalize "\\end\x7b".toList = e
  simp

/-- A translator with the default definitions and an executor that always gives the same output. -/
def splicing (output : Text) : Translator Unit where
  registry := .defaults
  files := []
  executor := ⟨fun _ host => (.ok output, host)⟩
  start _ := ()

/-- What a run gives, and the unit after it. -/
lemma exists_of_run {m : Scan σ Text} {s : State σ} {o : Text} {unit : Option Text}
    (h : (match m s with
      | .ok out s' => some (out, s'.indentation.unit)
      | .error _ _ => none) = some (o, unit)) :
    ∃ s', m s = .ok o s' ∧ s'.indentation.unit = unit := by
  cases hr : m s with
  | error e s' =>
    rw [hr] at h
    cases h
  | ok out s' =>
    rw [hr] at h
    cases h
    exact ⟨s', rfl, rfl⟩

/-- A fragment is translated if its outcome is an output. -/
lemma translateFragment_of_toOption {t : Translator σ} {source o : Text}
    (h : (t.translateFragment source).toOption = some o) : t.translateFragment source = .ok o :=
  run_of_toOption h

/-- A fragment that becomes the body of an environment is translated as before, one level deeper,
unless it is then nested too deep. -/
theorem translateFragment_nested (t : Translator σ) (ht : t.registry = .defaults)
    (hx : t.executor.WritesText) {u w s out : Text} (hu : Indentation.IsUnit u) (hw : w ≠ [])
    (ha : w.all isAlphabetic) (hd : t.registry.find? w = none) (hs : s.isUnindented)
    (hl : s.endsWithText) {fin : State σ}
    (hrun : fragment (.outermost t.setup) (.start s (t.start t.files)) = .ok out fin)
    (hunit : fin.indentation.unit = none ∨ fin.indentation.unit = some u)
    (htidy : ∃ o fin', fragment (.outermostTidy t.setup) (.start s (t.start t.files)) = .ok o fin') :
    (∃ l, t.translateFragment ('\\' :: w ++ ':' :: '\n' :: indented u s) =
      .error ⟨.nestingTooDeep, l⟩) ∨
    (t.translateFragment ('\\' :: w ++ ':' :: '\n' :: indented u s) =
        .ok ("\\begin\x7b".toList ++ w ++ '\x7d' :: '\n' :: indented u out ++
          '\n' :: "\\end\x7b".toList ++ w ++ ['\x7d']) ∧
      t.calls ('\\' :: w ++ ':' :: '\n' :: indented u s) = t.calls s) := by
  have hnl := newline_notMem_of_isBlankLine hu.isBlankLine
  rw [indented_eq hnl, indented_eq hnl]
  obtain ⟨o, fin', htidy⟩ := htidy
  -- The tidy reading is the reading.
  obtain ⟨fin'', hrun'', hconfig⟩ := fragment_of_tidy htidy
  rw [hrun] at hrun''
  cases hrun''
  have hfin : fin'.indentation.Fits u 0 := by
    rw [← (State.config_eq_iff.1 hconfig).2.1]
    rcases hunit with h | h
    · exact Or.inr ⟨congrArg Indentation.mk h, rfl⟩
    · exact Or.inl (congrArg Indentation.mk h)
  have hS : t.setup.Nests u := by
    rw [setup, ht]
    exact Registry.defaults_nests hx
  rcases fragment_nest hu hS hw ha hd hs hl htidy hfin with ⟨e, s', he, hcause⟩ | ⟨s', hok, -⟩
  · obtain ⟨_, l⟩ := e
    cases hcause
    exact Or.inl ⟨l, run_eq_error.2 ⟨s', he⟩⟩
  · refine Or.inr ⟨?_, ?_⟩
    · have hout := run_eq_ok.2 ⟨s', hok⟩
      rw [environment_body] at hout
      exact hout
    · have hSr : t.setup.recording.Nests u := by
        rw [Setup.recording, setup, ht]
        exact Registry.defaults_nests (Executor.recording_writesText hx)
      exact calls_nest hu hSr hw ha hd hs hl htidy hfin hok

/-- Output of code in a one-line environment, a literal block, and a group of two lines. -/
theorem translateFragment_nested_splice :
    (splicing "a\nb\n".toList).translateFragment
        "\\w:\n  \\b: \\pysplice: z\n\n  \\verbatim:\n    x\n    y\n  \x7bc\n  d\x7d".toList =
      .ok ("\\begin\x7bw\x7d\n  \\begin\x7bb\x7da\n  b\\end\x7bb\x7d\n\n".toList ++
        "  \\begin\x7bverbatim\x7d\n  x\n  y\n  \\end\x7bverbatim\x7d\n".toList ++
        "  \x7bc\n  d\x7d\n\\end\x7bw\x7d".toList) ∧
    (splicing "a\nb\n".toList).calls
        "\\w:\n  \\b: \\pysplice: z\n\n  \\verbatim:\n    x\n    y\n  \x7bc\n  d\x7d".toList =
      [⟨none, ['z']⟩] := by
  let t := splicing "a\nb\n".toList
  let s : Text := "\\b: \\pysplice: z\n\n\\verbatim:\n  x\n  y\n\x7bc\nd\x7d".toList
  let out : Text := "\\begin\x7bb\x7da\nb\\end\x7bb\x7d\n\n\\begin\x7bverbatim\x7d\nx\ny\n".toList ++
    "\\end\x7bverbatim\x7d\n\x7bc\nd\x7d".toList
  have hx : t.executor.WritesText := by
    intro call h o ha
    cases ha
    decide
  obtain ⟨fin, hrun, hunit⟩ : ∃ fin, fragment (.outermost t.setup) (.start s ()) = .ok out fin ∧
      fin.indentation.unit = some [' ', ' '] := exists_of_run (by decide +kernel)
  obtain ⟨fin', htidy, -⟩ : ∃ fin, fragment (.outermostTidy t.setup) (.start s ()) = .ok out fin ∧
      fin.indentation.unit = some [' ', ' '] := exists_of_run (by decide +kernel)
  have hnested := translateFragment_nested t rfl hx (w := ['w']) ⟨by decide, by decide⟩ (by decide)
    (by decide +kernel) (by decide +kernel) (by decide +kernel) (by decide +kernel) hrun
    (Or.inr hunit) ⟨out, fin', htidy⟩
  have hsource : '\\' :: ['w'] ++ ':' :: '\n' :: indented [' ', ' '] s =
      "\\w:\n  \\b: \\pysplice: z\n\n  \\verbatim:\n    x\n    y\n  \x7bc\n  d\x7d".toList := by
    decide +kernel
  have hout : "\\begin\x7b".toList ++ ['w'] ++ '\x7d' :: '\n' :: indented [' ', ' '] out ++
        '\n' :: "\\end\x7b".toList ++ ['w'] ++ ['\x7d'] =
      "\\begin\x7bw\x7d\n  \\begin\x7bb\x7da\n  b\\end\x7bb\x7d\n\n".toList ++
        "  \\begin\x7bverbatim\x7d\n  x\n  y\n  \\end\x7bverbatim\x7d\n".toList ++
        "  \x7bc\n  d\x7d\n\\end\x7bw\x7d".toList := by
    decide +kernel
  have hcalls : t.calls s = [⟨none, ['z']⟩] := by decide +kernel
  rw [hsource, hout, hcalls] at hnested
  rcases hnested with ⟨l, hl⟩ | hok
  · have hval : (t.translateFragment
        "\\w:\n  \\b: \\pysplice: z\n\n  \\verbatim:\n    x\n    y\n  \x7bc\n  d\x7d".toList).isOk := by
      decide +kernel
    rw [hl] at hval
    cases hval
  · exact hok

/-- Where the body of a one-line environment ends with an escaped newline before an empty line, the
end of the environment is not indented. -/
theorem not_translateFragment_nested : ¬ ∀ (t : Translator Unit) (u w s out : Text)
    (fin : State Unit), t.registry = .defaults → t.executor.WritesText → Indentation.IsUnit u →
    w ≠ [] → w.all isAlphabetic → t.registry.find? w = none → s.isUnindented → s.endsWithText →
    fragment (.outermost t.setup) (.start s (t.start t.files)) = .ok out fin →
    fin.indentation.unit = none ∨ fin.indentation.unit = some u →
    (∃ l, t.translateFragment ('\\' :: w ++ ':' :: '\n' :: indented u s) =
      .error ⟨.nestingTooDeep, l⟩) ∨
    (t.translateFragment ('\\' :: w ++ ':' :: '\n' :: indented u s) =
        .ok ("\\begin\x7b".toList ++ w ++ '\x7d' :: '\n' :: indented u out ++
          '\n' :: "\\end\x7b".toList ++ w ++ ['\x7d']) ∧
      t.calls ('\\' :: w ++ ':' :: '\n' :: indented u s) = t.calls s) := by
  intro hall
  let s : Text := "\\a: x\\\n\ny".toList
  let out : Text := "\\begin\x7ba\x7dx\\\n\\end\x7ba\x7d\ny".toList
  have hx : defaults.executor.WritesText := fun _ _ _ ha => by cases ha
  obtain ⟨fin, hrun, hunit⟩ : ∃ fin, fragment (.outermost defaults.setup) (.start s ()) = .ok out fin ∧
      fin.indentation.unit = none := exists_of_run (by decide +kernel)
  have hnested := hall defaults [' ', ' '] ['w'] s out fin rfl hx ⟨by decide, by decide⟩ (by decide)
    (by decide +kernel) (by decide +kernel) (by decide +kernel) (by decide +kernel) hrun
    (Or.inl hunit)
  have hvalue : defaults.translateFragment ('\\' :: ['w'] ++ ':' :: '\n' :: indented [' ', ' '] s) =
      .ok "\\begin\x7bw\x7d\n  \\begin\x7ba\x7dx\\\n\\end\x7ba\x7d\n  y\n\\end\x7bw\x7d".toList :=
    translateFragment_of_toOption (by decide +kernel)
  rw [hvalue] at hnested
  rcases hnested with ⟨l, hl⟩ | ⟨hok, -⟩
  · cases hl
  · exact absurd (Except.ok.inj hok) (by decide +kernel)

end Translator

end IndentTex
