import IndentTex.Proofs.Depth
import IndentTex.Proofs.Grammar.Soundness
import IndentTex.Proofs.Relocation

/-!
# What arguments consume

Readers of groups and arguments move the cursor and change nothing else, whether they succeed or fail
(`Level.ofRoom_moves`). Where no command is registered, what they give is what they have read, without
the characters around it. The main result, `Scan.arguments_exact`, says so for every reader of groups
and arguments, and that an optional argument that is not there leaves the whole state as it was.
-/

namespace IndentTex

variable {σ α β γ : Type}

/-- The text `w` is read from `s` to `s'`, and nothing but the cursor changes. -/
def State.Consumes (s : State σ) (w : Text) (s' : State σ) : Prop :=
  w <+: s.cursor.rest ∧ s' = s.advance w.length

namespace State.Consumes

variable {s s' s'' : State σ} {w w' r : Text}

/-- Reading a beginning of what is left consumes it. -/
lemma of_rest (h : s.cursor.rest = w ++ r) : s.Consumes w (s.advance w.length) :=
  ⟨⟨r, h.symm⟩, rfl⟩

/-- What is left is what is consumed and what is left after that. -/
lemma rest_eq (h : s.Consumes w s') : s.cursor.rest = w ++ s'.cursor.rest := by
  obtain ⟨⟨r, hr⟩, rfl⟩ := h
  rw [advance_rest, ← hr, List.drop_left]

/-- Two texts that are consumed one after the other are consumed together. -/
lemma trans (h : s.Consumes w s') (h' : s'.Consumes w' s'') : s.Consumes (w ++ w') s'' := by
  have hrest := h.rest_eq
  obtain ⟨⟨r, hr⟩, rfl⟩ := h'
  refine ⟨⟨r, ?_⟩, ?_⟩
  · rw [hrest, ← hr, List.append_assoc]
  · rw [h.2, advance_advance, List.length_append]

/-- The bytes that are consumed come after those before. -/
lemma offset_eq (h : s.Consumes w s') : s'.cursor.offset = s.cursor.offset + w.byteSize := by
  obtain ⟨⟨r, hr⟩, rfl⟩ := h
  simp [advance, Cursor.advance, Cursor.offset, ← hr, Nat.add_comm]

/-- Consuming does not change the text. -/
lemma text_eq (h : s.Consumes w s') : s'.cursor.text = s.cursor.text := by
  obtain ⟨⟨r, hr⟩, rfl⟩ := h
  simp [advance, Cursor.advance, Cursor.text, ← hr]

end State.Consumes

/-! ### Readers that only move the cursor -/

namespace Scan

/-- Readers that change nothing but the cursor, whether they succeed or fail. -/
def Moves (m : Scan σ α) : Prop := ∀ s, ∃ c, m.final s = { s with cursor := c }

namespace Moves

variable {m m' : Scan σ α} {f : α → Scan σ β}

/-- Where a reader that only moves succeeds, the cursor alone is another one. -/
lemma of_ok (hm : Moves m) {s s' : State σ} {a : α} (h : m s = .ok a s') :
    ∃ c, s' = { s with cursor := c } := by
  have hs := hm s
  unfold final at hs
  rwa [h] at hs

/-- A value moves nothing. -/
lemma pure (a : α) : Moves (σ := σ) (Pure.pure a) := fun s => ⟨s.cursor, rfl⟩

/-- A failure moves nothing. -/
lemma raise (cause : Cause) : Moves (σ := σ) (α := α) (Scan.raise cause) := fun s => ⟨s.cursor, rfl⟩

/-- A mark moves nothing. -/
lemma mark : Moves (σ := σ) Scan.mark := fun s => ⟨s.cursor, rfl⟩

/-- Looking at the next character moves nothing. -/
lemma peek : Moves (σ := σ) Scan.peek := fun s => ⟨s.cursor, rfl⟩

/-- Going to a cursor only moves. -/
lemma goTo (c : Cursor) : Moves (σ := σ) (Scan.goTo c) := fun _ => ⟨c, rfl⟩

/-- Reading characters only moves. -/
lemma skip (n : Nat) : Moves (σ := σ) (Scan.skip n) := fun s => ⟨s.cursor.advance n, rfl⟩

/-- Reading a run only moves. -/
lemma skipWhile (p : Char → Bool) : Moves (σ := σ) (Scan.skipWhile p) := fun _ => ⟨_, rfl⟩

/-- A loop only moves if its rounds do. -/
lemma bounded {loop : Nat → Scan σ α} (h : ∀ n, Moves (loop n)) : Moves (Scan.bounded loop) :=
  fun s => h s.cursor.rest.length s

/-- A branch only moves if both do. -/
lemma ite {p : Prop} [Decidable p] (h : Moves m) (h' : Moves m') :
    Moves (if p then m else m') := by
  split
  · exact h
  · exact h'

/-- Two steps only move if each does. -/
lemma bind (hm : Moves m) (hf : ∀ a, Moves (f a)) : Moves (m >>= f) := by
  intro s
  obtain ⟨c, hc⟩ := hm s
  unfold final at hc ⊢
  rw [bind_run]
  cases hms : m s with
  | error e s' =>
    rw [hms] at hc
    exact ⟨c, hc⟩
  | ok a s' =>
    rw [hms] at hc
    obtain rfl : s' = { s with cursor := c } := hc
    exact hf a _

/-- A function of the value moves nothing more. -/
lemma map {g : α → β} (hm : Moves m) : Moves (g <$> m) := by
  rw [map_eq_pure_bind]
  exact hm.bind fun a => .pure (g a)

/-- A round of a loop: a character, a reader, and the rounds after it. -/
lemma round {n : Scan σ β} (hm : Moves m) (hn : Moves n) (g : α → β → γ) :
    Moves (do Scan.skip 1; let a ← m; let b ← n; return g a b) :=
  bind (.skip 1) fun _ => hm.bind fun _ => hn.bind fun _ => .pure _

/-- An output moves nothing. -/
lemma produce (output : Except Error Text) : Moves (σ := σ) (Scan.produce output) := by
  intro s
  cases output with
  | ok t => exact ⟨s.cursor, rfl⟩
  | error e => exact ⟨s.cursor, rfl⟩

/-- Reading a name only moves. -/
lemma controlName : Moves (σ := σ) Scan.controlName := by
  refine bind .peek fun o => ?_
  cases o with
  | none => exact .raise _
  | some c =>
    exact bind (.skipWhile _) fun name => .ite (bind (.skip 1) fun _ => .pure _) (.pure _)

/-- Reading a comment only moves. -/
lemma comment : Moves (σ := σ) Scan.comment := bind (.skipWhile _) fun _ => .pure _

/-- Reading a literal text only moves. -/
lemma raw (close : Char) (oneLine : Bool) : Moves (σ := σ) (Scan.raw close oneLine) := by
  refine bind .mark fun c => ?_
  cases rawText? close oneLine c.rest with
  | none => exact .pure _
  | some t => exact bind (.skip _) fun _ => .pure _

/-- Reading a raw group only moves. -/
lemma rawGroup (name : Text) : Moves (σ := σ) (Scan.rawGroup name) := by
  refine bind (.raw _ _) fun o => ?_
  cases o with
  | none => exact bind (.skipWhile _) fun _ => .raise _
  | some content => exact .pure _

/-- Going back only moves. -/
lemma orBack (start : Cursor) {probe : Scan σ (Option Text)} (h : Moves probe) :
    Moves (Scan.orBack start probe) := by
  refine bind h fun o => ?_
  cases o with
  | none => exact bind (.goTo _) fun _ => .pure _
  | some content => exact .pure _

end Moves

end Scan

/-- Levels whose readers of groups and brackets change nothing but the cursor. -/
structure Level.Moves (inner : Level σ) : Prop where
  group (close : Char) : Scan.Moves (inner.group close)
  brackets : Scan.Moves inner.brackets

namespace Level.Moves

open Scan

variable {S : Setup σ} {inner : Level σ}

/-- Reading an optional argument only moves. -/
lemma optionalArgument (h : inner.Moves) (isRaw : Bool) :
    Scan.Moves (Scan.optionalArgument inner isRaw) := by
  refine .bind .mark fun start => .bind (.skipWhile _) fun _ => .bind .peek fun _ => ?_
  refine .ite (.bind (.skip 1) fun _ => .orBack start (.ite (.raw _ _) h.brackets)) ?_
  exact .bind (.goTo start) fun _ => .pure _

/-- Reading a required argument only moves. -/
lemma requiredArgument (h : inner.Moves) (name : Text) (isRaw : Bool) :
    Scan.Moves (Scan.requiredArgument inner name isRaw) := by
  refine .bind (.skipWhile _) fun _ => .bind .peek fun o => ?_
  cases o with
  | none => exact .raise _
  | some c =>
    exact .ite (.bind (.skip 1) fun _ => .ite (.rawGroup name) (h.group _)) (.raise _)

/-- Reading arguments only moves. -/
lemma arguments (h : inner.Moves) (name : Text) (params : Params) :
    Scan.Moves (Scan.arguments inner name params) := by
  induction params with
  | nil => exact .pure _
  | cons slot slots ih =>
    have hslot : Scan.Moves (argument inner name slot) :=
      .ite (h.optionalArgument _) (h.requiredArgument _ _).map
    exact .bind hslot fun _ => .bind ih fun _ => .pure _

/-- Reading a control sequence in an argument only moves. -/
lemma argumentControl (h : inner.Moves) : Scan.Moves (Scan.argumentControl S inner) := by
  refine .bind .controlName fun name => ?_
  cases S.registry.command? name with
  | none => exact .pure _
  | some c => exact .bind (h.arguments _ _) fun _ => .produce _

/-- Reading a group only moves. -/
lemma groupLoop (h : inner.Moves) (close : Char) (n : Nat) :
    Scan.Moves (Scan.groupLoop S inner close n) := by
  induction n with
  | zero => exact .raise _
  | succ n ih =>
    refine .bind (.skipWhile _) fun plain => .bind .peek fun o => ?_
    cases o with
    | none => exact .raise _
    | some c =>
      refine .ite (.bind (.skip 1) fun _ => .pure _) (.ite (.raise _) (.ite ?_ (.ite ?_ (.ite ?_ ?_))))
      · exact .round (h.group _) ih _
      · exact .round h.argumentControl ih _
      · exact .round .comment ih _
      · exact .raise _

/-- Reading brackets only moves. -/
lemma bracketLoop (h : inner.Moves) (n : Nat) : Scan.Moves (Scan.bracketLoop S inner n) := by
  induction n with
  | zero => exact .pure _
  | succ n ih =>
    refine .bind (.skipWhile _) fun plain => .bind .peek fun o => ?_
    cases o with
    | none => exact .pure _
    | some c =>
      refine .ite (.pure _) (.ite (.bind (.skip 1) fun _ => .pure _) (.ite (.raise _) (.ite ?_ (.ite ?_
        (.ite ?_ (.raise _))))))
      · exact .round (h.group _) ih _
      · exact .round (h.group _) ih _
      · exact .round h.argumentControl ih _

/-- Reading the arguments of a control sequence without a definition only moves. -/
lemma argumentText (h : inner.Moves) : Scan.Moves (Scan.argumentText inner) := by
  refine .bounded fun n => ?_
  induction n with
  | zero => exact .pure _
  | succ n ih =>
    refine .bind .mark fun before => .bind (.skipWhile _) fun space => .bind .peek fun next => ?_
    have back : Scan.Moves (σ := σ) (do goTo before; return ([] : Text)) :=
      .bind (.goTo _) fun _ => .pure _
    refine .ite ?_ (.ite ?_ back)
    · exact .round (h.group _) ih _
    · refine .bind (.skip 1) fun _ => .bind h.brackets fun o => ?_
      cases o with
      | none => exact back
      | some body => exact .bind ih fun _ => .pure _

/-- A level above one that only moves only moves. -/
lemma above (h : inner.Moves) : (Level.above S inner).Moves where
  group close := .bounded (h.groupLoop close)
  brackets := .bind .mark fun start => .orBack start (.bounded h.bracketLoop)

end Level.Moves

/-- Groups and brackets at every level change nothing but the cursor. -/
theorem Level.ofRoom_moves (S : Setup σ) (n : Nat) : (Level.ofRoom S n).Moves := by
  induction n with
  | zero => exact ⟨fun _ => .raise _, .raise _⟩
  | succ n ih => exact ih.above

/-- What a request that only moves the cursor has read, by what it leaves. -/
lemma Request.consumes {S : Setup σ} {n : Nat} (r : Request α) {s s' : State σ} {a : α} {w : Text}
    (hm : Scan.Moves (r.run S (.ofRoom S n))) (h : r.run S (.ofRoom S n) s = .ok a s')
    (hw : s.cursor.rest = w ++ s'.cursor.rest) : s.Consumes w s' := by
  have hlater := r.later S n s
  unfold Scan.final at hlater
  rw [h] at hlater
  obtain ⟨c, rfl⟩ := hm.of_ok h
  refine ⟨⟨_, hw.symm⟩, ?_⟩
  rw [State.advance, hlater.reaches.advance_eq hw]

/-! ### Texts without commands -/

/-- Levels whose groups and brackets give what they read. -/
structure Grammar.Faithful (G : Grammar σ) : Prop where
  group {close : Char} {t out r : Text} : G.group close t out r → t = out ++ close :: r
  brackets {t out r : Text} : G.brackets t (some out) r → t = out ++ ']' :: r

namespace Grammar

variable {registry : Registry} {S : Setup σ} {G : Grammar σ} {close : Char} {isRaw : Bool}
  {t out r : Text}

/-- The name of a control sequence is what is read. -/
lemma ControlName.text_eq {name : Text} (h : ControlName t name r) : t = name ++ r := by
  cases h <;> rfl

/-- Without commands, a control sequence in an argument is copied. -/
lemma ArgumentControl.text_eq (hd : ∀ name, registry.command? name = none)
    (h : ArgumentControl registry G t out r) : '\\' :: t = out ++ r := by
  cases h with
  | native hn => rw [hn.text_eq, Markup.control, List.cons_append]
  | command _ hc =>
    rw [hd] at hc
    cases hc

/-- Without commands, a group is copied. -/
lemma Group.text_eq (hd : ∀ name, registry.command? name = none) (hG : G.Faithful)
    (h : Group registry G close t out r) : t = out ++ close :: r := by
  induction h with
  | close => rfl
  | char _ _ ih => rw [ih, List.cons_append]
  | group _ hg _ ih => simp [hG.group hg, ih]
  | control _ hc _ ih => rw [hc.text_eq hd, ih, List.append_assoc]
  | comment _ _ _ _ ih => simp [ih]

/-- Without commands, the inside of brackets is copied. -/
lemma Brackets.text_eq (hd : ∀ name, registry.command? name = none) (hG : G.Faithful)
    {o : Option Text} (h : Brackets registry G t o r) (ho : o = some out) :
    t = out ++ ']' :: r := by
  induction h generalizing out with
  | stop => cases ho
  | close =>
    cases ho
    rfl
  | char _ _ ih =>
    obtain ⟨w, rfl, rfl⟩ := Option.map_eq_some_iff.1 ho
    rw [ih rfl, List.cons_append]
  | group hg _ ih | brackets hg _ ih =>
    obtain ⟨w, rfl, rfl⟩ := Option.map_eq_some_iff.1 ho
    simp [hG.group hg, ih rfl]
  | control hc _ ih =>
    obtain ⟨w, rfl, rfl⟩ := Option.map_eq_some_iff.1 ho
    rw [hc.text_eq hd, ih rfl, List.append_assoc]

/-- Without commands, arguments are copied. -/
lemma ArgumentText.text_eq (hG : G.Faithful) (h : ArgumentText G t out r) : t = out ++ r := by
  induction h with
  | stop | bracketsOpen => rfl
  | group _ hg _ ih => simp [hG.group hg, ih]
  | brackets _ hg _ ih => simp [hG.brackets hg, ih]

/-- A required argument is what stands in its braces, which blanks may precede. -/
lemma Required.text_eq (hG : G.Faithful) (h : Required G isRaw t out r) :
    ∃ blanks : Text, blanks.isBlankLine ∧ t = blanks ++ '\x7b' :: out ++ ['\x7d'] ++ r := by
  cases h with
  | raw hb => exact ⟨_, hb, by simp⟩
  | group hb hg => exact ⟨_, hb, by simp [hG.group hg]⟩

/-- An optional argument is what stands in its brackets, which blanks may precede. -/
lemma Optional.text_eq (hG : G.Faithful) (h : Optional G isRaw t (some out) r) :
    ∃ blanks : Text, blanks.isBlankLine ∧ t = blanks ++ '[' :: out ++ [']'] ++ r := by
  cases h with
  | raw hb => exact ⟨_, hb, by simp⟩
  | brackets hb hg => exact ⟨_, hb, by simp [hG.brackets hg]⟩

/-- An optional argument that is not there leaves the text as it is. -/
lemma Optional.rest_eq (h : Optional G isRaw t none r) : r = t := by
  cases h <;> rfl

/-- Without commands every level is faithful. -/
lemma ofRoom_faithful (hd : ∀ name, S.registry.command? name = none) (n : Nat) :
    (ofRoom S n).Faithful := by
  induction n with
  | zero => exact { group := False.elim, brackets := False.elim }
  | succ n ih =>
    refine { group := fun h => h.text_eq hd ih, brackets := ?_ }
    rintro t out r ⟨r, hb, rfl⟩
    exact hb.text_eq hd ih rfl

end Grammar

/-! ### Arguments -/

namespace Scan

variable {S : Setup σ} {n : Nat} {s s' : State σ} {isRaw : Bool}

/-- An optional argument that is not there leaves the state as it is. -/
lemma optionalArgument_none (h : optionalArgument (.ofRoom S n) isRaw s = .ok none s') : s' = s := by
  obtain ⟨ho, -⟩ := optionalArgument_sound (Level.ofRoom_sound S n) h
  have hc : s.Consumes [] s' := (Request.optionalArgument isRaw).consumes
    ((Level.ofRoom_moves S n).optionalArgument isRaw) h ho.rest_eq.symm
  rw [hc.2, List.length_nil, State.advance_zero]

/-- Without commands a group consumes its inside and the character that closes it, the text of
arguments consumes itself, and an argument consumes blanks, its inside and the characters around it.
With or without commands, an optional argument that is not there leaves the whole state as it was, and
the depth of nesting too. -/
theorem arguments_exact (S : Setup σ) (n : Nat) (s s' : State σ) :
    ((∀ name, S.registry.command? name = none) →
      (∀ close b, (Level.ofRoom S n).group close s = .ok b s' → s.Consumes (b ++ [close]) s') ∧
      (∀ a, argumentText (.ofRoom S n) s = .ok a s' → s.Consumes a s') ∧
      (∀ name isRaw b, requiredArgument (.ofRoom S n) name isRaw s = .ok b s' →
        ∃ blanks : Text, blanks.isBlankLine ∧ s.Consumes (blanks ++ '\x7b' :: b ++ ['\x7d']) s') ∧
      ∀ isRaw b, optionalArgument (.ofRoom S n) isRaw s = .ok (some b) s' →
        ∃ blanks : Text, blanks.isBlankLine ∧ s.Consumes (blanks ++ '[' :: b ++ [']']) s') ∧
    (∀ isRaw, optionalArgument (.ofRoom S n) isRaw s = .ok none s' → s' = s) ∧
    ∀ isRaw depth deepest t, depth ≤ maxNesting → deepest ≤ maxNesting →
      optionalArgument (.nesting S) isRaw (s.counted depth deepest) = .ok none t →
        ∃ deepest', t = s.counted depth deepest' := by
  have hsound := Level.ofRoom_sound S n
  have hmoves := Level.ofRoom_moves S n
  refine ⟨fun hd => ?_, fun isRaw => optionalArgument_none, ?_⟩
  · have hG := Grammar.ofRoom_faithful hd n
    refine ⟨?_, ?_, ?_, ?_⟩
    · intro close b h
      have ht := hG.group (hsound.group h).1
      exact (Request.group close).consumes (hmoves.group close) h (by simpa using ht)
    · intro a h
      have ht := (argumentTextLoop_sound hsound (Nat.le_refl _) h).1.text_eq hG
      exact Request.argumentText.consumes hmoves.argumentText h ht
    · intro name isRaw b h
      obtain ⟨blanks, hb, ht⟩ := (requiredArgument_sound hsound h).1.text_eq hG
      exact ⟨blanks, hb, (Request.requiredArgument name isRaw).consumes
        (hmoves.requiredArgument name isRaw) h ht⟩
    · intro isRaw b h
      obtain ⟨blanks, hb, ht⟩ := (optionalArgument_sound hsound h).1.text_eq hG
      exact ⟨blanks, hb, (Request.optionalArgument isRaw).consumes
        (hmoves.optionalArgument isRaw) h ht⟩
  · intro isRaw depth deepest t hdepth hdeepest h
    obtain ⟨deepest', -, hrun⟩ :=
      (Request.optionalArgument isRaw).run_nesting S s hdepth hdeepest
    -- The run with counters ends as the one without them, which is back at its start.
    rw [show (Request.optionalArgument isRaw).run S.counted (.nesting S) _ = .ok none t from h] at hrun
    cases hplain : (Request.optionalArgument isRaw).run S (.ofRoom S (maxNesting - depth)) s with
    | error e s' =>
      rw [hplain] at hrun
      cases hrun
    | ok o s' =>
      rw [hplain] at hrun
      cases hrun
      rw [optionalArgument_none hplain]
      exact ⟨deepest', rfl⟩

/-- The start of an optional argument and a required one. -/
def twoArguments : State Unit := .start ['[', 'a', ']', ' ', '\x7b', 'b', '\x7d', ':'] ()

/-- The start of a bracket that is not closed on its line. -/
def openBracket : State Unit := .start [' ', '[', 'a', '\n', ']'] ()

/-- The arguments are consumed one after the other and together, and the bracket is left alone. -/
theorem arguments_exact_two :
    let S : Setup Unit := ⟨.empty, .unavailable⟩
    ((Level.ofRoom S 2).group ']' twoArguments = .ok ['[', 'a'] (twoArguments.advance 3) ∧
      twoArguments.Consumes ['[', 'a', ']'] (twoArguments.advance 3)) ∧
    (argumentText (.ofRoom S 2) twoArguments =
        .ok ['[', 'a', ']', ' ', '\x7b', 'b', '\x7d'] (twoArguments.advance 7) ∧
      twoArguments.Consumes ['[', 'a', ']', ' ', '\x7b', 'b', '\x7d'] (twoArguments.advance 7)) ∧
    (requiredArgument (.ofRoom S 2) [] false (twoArguments.advance 3) =
        .ok ['b'] (twoArguments.advance 7) ∧
      ∃ blanks : Text, blanks.isBlankLine ∧ (twoArguments.advance 3).Consumes
        (blanks ++ '\x7b' :: ['b'] ++ ['\x7d']) (twoArguments.advance 7)) ∧
    (optionalArgument (.ofRoom S 2) false twoArguments =
        .ok (some ['a']) (twoArguments.advance 3) ∧
      ∃ blanks : Text, blanks.isBlankLine ∧
        twoArguments.Consumes (blanks ++ '[' :: ['a'] ++ [']']) (twoArguments.advance 3)) ∧
    optionalArgument (.ofRoom S 2) true openBracket = .ok none openBracket ∧
    ∃ deepest, optionalArgument (.nesting S) false (openBracket.counted 126 0) =
      .ok none (openBracket.counted 126 deepest) := by
  intro S
  have hd : ∀ name, S.registry.command? name = none := fun _ => rfl
  have hgroup : (Level.ofRoom S 2).group ']' twoArguments =
    .ok ['[', 'a'] (twoArguments.advance 3) := rfl
  have htext : argumentText (.ofRoom S 2) twoArguments =
    .ok ['[', 'a', ']', ' ', '\x7b', 'b', '\x7d'] (twoArguments.advance 7) := rfl
  have hrequired : requiredArgument (.ofRoom S 2) [] false (twoArguments.advance 3) =
    .ok ['b'] (twoArguments.advance 7) := rfl
  have hoptional : optionalArgument (.ofRoom S 2) false twoArguments =
    .ok (some ['a']) (twoArguments.advance 3) := rfl
  have hnone : ∃ s, optionalArgument (.ofRoom S 2) true openBracket = .ok none s := ⟨_, rfl⟩
  have hcounted : ∃ t, optionalArgument (.nesting S) false (openBracket.counted 126 0) =
    .ok none t := ⟨_, rfl⟩
  refine ⟨⟨hgroup, ?_⟩, ⟨htext, ?_⟩, ⟨hrequired, ?_⟩, ⟨hoptional, ?_⟩, ?_, ?_⟩
  · exact ((arguments_exact S 2 twoArguments _).1 hd).1 _ _ hgroup
  · exact ((arguments_exact S 2 twoArguments _).1 hd).2.1 _ htext
  · exact ((arguments_exact S 2 (twoArguments.advance 3) _).1 hd).2.2.1 _ _ _ hrequired
  · exact ((arguments_exact S 2 twoArguments _).1 hd).2.2.2 _ _ hoptional
  · obtain ⟨s, hs⟩ := hnone
    rw [hs, (arguments_exact S 2 openBracket s).2.1 _ hs]
  · obtain ⟨t, ht⟩ := hcounted
    obtain ⟨deepest, rfl⟩ := (arguments_exact S 2 openBracket openBracket).2.2 false 126 0 t
      (by decide) (by decide) ht
    exact ⟨deepest, ht⟩

end Scan

end IndentTex
