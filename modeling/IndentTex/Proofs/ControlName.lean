import IndentTex.Proofs.Consumption
import IndentTex.Proofs.Passage

/-!
# Names that can be registered and names that are read

A name is checked when its command is registered, and read where the command is used. The check counts
characters, and the reader takes a maximal run of letters or else one character. Both know the same
names, `Grammar.IsName`, except that a single blank is read and not registered
(`Grammar.isName_iff`). The main result, `Scan.controlName_registrable`, says so from every state.
-/

namespace IndentTex

/-- A text that is a single blank. -/
def Text.IsSingleBlank (t : Text) : Prop := ∃ c, isBlank c ∧ t = [c]

namespace Grammar

open Definition Text

variable {t name r : Text}

/-- What a control sequence can be named: a word, or any single character. -/
def IsName (name : Text) : Prop := (name ≠ [] ∧ name.all isAlphabetic) ∨ ∃ c, name = [c]

/-- The name of a definition is no single blank. -/
lemma not_isSingleBlank (h : isControlName name) : ¬ name.IsSingleBlank := by
  rintro ⟨c, hc, rfl⟩
  simp [isControlName, hc] at h

/-- The check for registered names leaves out single blanks and nothing else. -/
lemma isName_iff : IsName name ↔ isControlName name ∨ name.IsSingleBlank := by
  cases name with
  | nil => simp [IsName, isControlName, IsSingleBlank]
  | cons c w =>
    cases w with
    | nil => cases hc : isBlank c <;> simp [IsName, isControlName, IsSingleBlank, hc]
    | cons d w => simp [IsName, isControlName, IsSingleBlank]

/-- What is read as the name of a control sequence is a name. -/
lemma ControlName.isName (h : ControlName t name r) : IsName name := by
  cases h with
  | word hne ha _ => exact Or.inl ⟨hne, ha⟩
  | symbol _ => exact Or.inr ⟨_, rfl⟩

/-- A name is read in front of every text that does not go on with a word. -/
lemma IsName.controlName (h : IsName name) (hr : r.EndsWord) : ControlName (name ++ r) name r := by
  rcases h with ⟨hne, ha⟩ | ⟨c, rfl⟩
  · exact .word hne ha hr
  · -- A single letter is a word of its own, since no letter follows.
    cases hc : isAlphabetic c with
    | true => exact .word (List.cons_ne_nil c []) (by simp [hc]) hr
    | false => exact .symbol hc

/-- There is a name at the start of every text but the empty one. -/
lemma exists_controlName (ht : t ≠ []) : ∃ name r, ControlName t name r := by
  obtain ⟨c, u, rfl⟩ := List.exists_cons_of_ne_nil ht
  cases hc : isAlphabetic c with
  | false => exact ⟨[c], u, .symbol hc⟩
  | true =>
    have hword : (c :: u).takeWhile isAlphabetic ≠ [] := by simp [hc]
    have hname := ControlName.word hword List.all_takeWhile (starts_dropWhile isAlphabetic (c :: u))
    rw [List.takeWhile_append_dropWhile] at hname
    exact ⟨_, _, hname⟩

end Grammar

/-- The state with the text `t` still to be read. -/
def State.facing {σ : Type} (s : State σ) (t : Text) : State σ :=
  { s with cursor := ⟨s.cursor.behind, t⟩ }

namespace Scan

open Grammar Definition

variable {σ : Type} {s : State σ} {name r : Text}

/-- The name of a control sequence is read from `s`, nothing but the name is consumed, and `r` is
left. -/
def ReadsName (s : State σ) (name r : Text) : Prop :=
  ∃ s', controlName s = .ok name s' ∧ s.Consumes name s' ∧ s'.cursor.rest = r

/-- The reader takes the name that the grammar finds. -/
lemma controlName_run (h : ControlName s.cursor.rest name r) :
    controlName s = .ok name (s.advance name.length) := by
  generalize hs : s.cursor.rest = t at h
  cases h with
  | word hne ha hr =>
    obtain ⟨c, w, rfl⟩ := List.exists_cons_of_ne_nil hne
    have hword : s.cursor.rest.takeWhile isAlphabetic = c :: w := by
      rw [hs, Text.takeWhile_run ha hr]
    rw [controlName, bind_of_ok (peek_run s), hs, List.cons_append, List.head?_cons]
    dsimp only
    rw [bind_of_ok (skipWhile_run _ s), hword, if_neg hne]
    rfl
  | @symbol c r hc =>
    have hword : s.cursor.rest.takeWhile isAlphabetic = [] := by simp [hs, hc]
    rw [controlName, bind_of_ok (peek_run s), hs, List.head?_cons]
    dsimp only
    rw [bind_of_ok (skipWhile_run _ s), hword, if_pos rfl]
    rfl

/-- Which name is read depends on the text ahead only, and the grammar says which. -/
lemma readsName_iff : ReadsName s name r ↔ ControlName s.cursor.rest name r := by
  constructor
  · rintro ⟨s', h, -, rfl⟩
    exact (controlName_sound h).1
  · intro h
    exact ⟨_, controlName_run h, .of_rest h.text_eq, State.rest_advance h.text_eq⟩

/-- From every state: the names that can be registered are those that are not a single blank and that
are read, no more and no less, in front of every text that does not start with a letter. And from
every text but the empty one a name is read that can be registered or is a single blank. -/
theorem controlName_registrable (s : State σ) :
    (∀ name : Text, isControlName name ↔
      ¬ name.IsSingleBlank ∧ ∀ r : Text, r.EndsWord → ReadsName (s.facing (name ++ r)) name r) ∧
    ∀ t : Text, t ≠ [] → ∃ name r, ReadsName (s.facing t) name r ∧
      (isControlName name ∨ name.IsSingleBlank) := by
  refine ⟨fun name => ⟨fun h => ⟨not_isSingleBlank h, fun r hr => ?_⟩, ?_⟩, fun t ht => ?_⟩
  · have hname : IsName name := isName_iff.2 (Or.inl h)
    exact readsName_iff.2 (hname.controlName hr)
  · rintro ⟨hblank, hread⟩
    -- The end of the source is enough to tell.
    have hname : IsName name := (readsName_iff.1 (hread [] rfl)).isName
    exact (isName_iff.1 hname).resolve_right hblank
  · obtain ⟨name, r, h⟩ := exists_controlName ht
    exact ⟨name, r, readsName_iff.2 h, isName_iff.1 h.isName⟩

/-- A word with an umlaut can be registered and is read. A letter with a digit cannot, and is not always
read as one name. From a tab with a letter behind it a name is read, too. -/
theorem controlName_registrable_umlaut :
    let s : State Unit := .start [] ()
    isControlName ['g', 'r', 'ü', 'n'] ∧
    ReadsName (s.facing ['g', 'r', 'ü', 'n', ':']) ['g', 'r', 'ü', 'n'] [':'] ∧
    (¬ ∀ r : Text, r.EndsWord → ReadsName (s.facing (['a', '1'] ++ r)) ['a', '1'] r) ∧
    ∃ name r, ReadsName (s.facing ['\t', 'x']) name r ∧
      (isControlName name ∨ name.IsSingleBlank) := by
  intro s
  obtain ⟨hregistered, hread⟩ := controlName_registrable s
  have hgreen : isControlName ['g', 'r', 'ü', 'n'] := by decide +kernel
  refine ⟨hgreen, ?_, fun h => ?_, hread ['\t', 'x'] (List.cons_ne_nil _ _)⟩
  · exact ((hregistered _).1 hgreen).2 [':'] (show isAlphabetic ':' = false by decide +kernel)
  · have hdigit : isControlName ['a', '1'] := (hregistered _).2 ⟨?_, h⟩
    · exact absurd hdigit (by decide +kernel)
    · rintro ⟨c, -, hc⟩
      cases hc

end Scan

end IndentTex
