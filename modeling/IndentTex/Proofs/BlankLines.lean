import IndentTex.Proofs.Consumption
import IndentTex.Proofs.Text.Indent

/-!
# Where blank lines end

Blank lines are read as whole lines, and the last line of a source counts as one without a newline.
`Text.EndsBlankLines` says where to cut a text so that the blank lines at its start are in front of
the cut and no more. There is exactly one such place (`Text.blankLines_eq_iff`). The main result,
`Scan.skipBlankLines_exact`, says that reading blank lines stops there from every state.
-/

namespace IndentTex

namespace Text

variable {w r : Text}

/-- A text that is empty or ends with a newline, so that a line starts behind it. -/
def IsWhole (w : Text) : Prop := w = [] ∨ w.getLast? = some '\n'

/-- Whether there is a character other than a horizontal blank before the first newline. -/
def HasTextLine (r : Text) : Prop := ∃ c ∈ r.takeWhile (· != '\n'), isHorizontal c = false

/-- A text is cut into `w` and `r` behind its blank lines: `w` holds blanks only and is whole lines
or all there is, and `r` is nothing or starts a line that is not blank. -/
structure EndsBlankLines (w r : Text) : Prop where
  blank : ∀ c ∈ w, isBlank c
  whole : IsWhole w ∨ r = []
  text : r = [] ∨ (IsWhole w ∧ HasTextLine r)

/-- Nothing is whole. -/
lemma isWhole_nil : IsWhole [] := Or.inl rfl

/-- Whether a text ends with its line shows behind any newline in it. -/
lemma isWhole_line (w r : Text) : IsWhole (w ++ '\n' :: r) ↔ IsWhole r := by
  rcases List.eq_nil_or_concat r with rfl | ⟨u, d, rfl⟩
  · simp [IsWhole]
  · simp [IsWhole, List.getLast?_append, List.getLast?_cons]

/-- Blank lines are whole. -/
lemma BlankLines.isWhole (h : BlankLines w) : IsWhole w := by
  induction h with
  | nil => exact isWhole_nil
  | line _ _ ih => exact (isWhole_line _ _).2 ih

/-- Whole lines of blanks are blank lines. -/
lemma IsWhole.blankLines (hw : IsWhole w) (hblank : ∀ c ∈ w, isBlank c) : BlankLines w := by
  generalize hn : w.length = n
  induction n using Nat.strongRecOn generalizing w with
  | _ n ih =>
    subst hn
    rcases blank_cases w with hb | ⟨v, r, hv, rfl⟩ | ⟨v, c, r, -, hc, hcn, rfl⟩
    · rcases hw with rfl | hlast
      · exact .nil
      · exact absurd (List.mem_of_getLast? hlast) (newline_notMem_of_isBlankLine hb)
    · rw [isWhole_line] at hw
      exact .line hv (ih r.length (by simp; omega) hw (fun c hc => hblank c (by simp [hc])) rfl)
    · have hb := hblank c (by simp)
      simp [isHorizontal, hb, hcn] at hc

/-- A line that is not blank has a first character that is not. -/
lemma hasTextLine_iff : HasTextLine r ↔ ∃ (v : Text) (c : Char) (r' : Text), v.isBlankLine ∧
    isHorizontal c = false ∧ c ≠ '\n' ∧ r = v ++ c :: r' := by
  constructor
  · rintro ⟨d, hd, hh⟩
    have hnot : ∀ v : Text, v.isBlankLine → d ∉ v := fun v hv hdv => by
      rw [List.all_eq_true.1 hv d hdv] at hh
      cases hh
    rcases blank_cases r with hb | ⟨v, r', hv, rfl⟩ | h
    · exact absurd ((List.takeWhile_prefix _).subset hd) (hnot r hb)
    · rw [takeWhile_run (all_ne_of_notMem (newline_notMem_of_isBlankLine hv)) rfl] at hd
      exact absurd hd (hnot v hv)
    · exact h
  · rintro ⟨v, c, r', hv, hc, hcn, rfl⟩
    have hall := all_ne_of_notMem (newline_notMem_of_isBlankLine hv)
    refine ⟨c, ?_, hc⟩
    rw [List.takeWhile_append_of_pos (List.all_eq_true.1 hall)]
    simp [hcn]

/-- The blank lines at the start of a text are what stands before the only place where they can
end. -/
lemma blankLines_eq_iff : (w ++ r).blankLines = w ↔ EndsBlankLines w r := by
  constructor
  · intro h
    have hblank : ∀ c ∈ w, isBlank c := List.all_eq_true.1 (all_isBlank_of_blankLines h)
    by_cases hr : r = []
    · exact ⟨hblank, Or.inr hr, Or.inl hr⟩
    · obtain ⟨hlines, htext⟩ := exists_text_of_blankLines h hr
      have hwhole := hlines.isWhole
      exact ⟨hblank, Or.inl hwhole, Or.inr ⟨hwhole, hasTextLine_iff.2 htext⟩⟩
  · rintro ⟨hblank, -, rfl | ⟨hwhole, htext⟩⟩
    · rw [List.append_nil, blankLines_eq_self_iff]
      exact List.all_eq_true.2 hblank
    · obtain ⟨v, c, r, hv, hc, hcn, rfl⟩ := hasTextLine_iff.1 htext
      exact (hwhole.blankLines hblank).blankLines_text hv hc hcn r

/-- The blank lines of a text end where its first line with text starts. -/
lemma endsBlankLines_blankLines (t : Text) :
    EndsBlankLines t.blankLines (t.drop t.blankLines.length) := by
  rw [← blankLines_eq_iff, blankLines_append]

/-- Behind blank lines there are none. -/
lemma EndsBlankLines.blankLines_rest (h : EndsBlankLines w r) : r.blankLines = [] := by
  have hrest : EndsBlankLines [] r :=
    ⟨fun _ hc => absurd hc List.not_mem_nil, Or.inl isWhole_nil,
      h.text.imp_right fun ht => ⟨isWhole_nil, ht.2⟩⟩
  exact blankLines_eq_iff.2 hrest

end Text

namespace Scan

open Text

variable {σ : Type}

/-- From every state, reading blank lines consumes what it gives. It stops where blank lines end,
which is at one place only, and reading them again consumes nothing. -/
theorem skipBlankLines_exact (s : State σ) :
    ∃ w s', skipBlankLines s = .ok w s' ∧ s.Consumes w s' ∧ EndsBlankLines w s'.cursor.rest ∧
      (∀ v r, s.cursor.rest = v ++ r → EndsBlankLines v r → v = w) ∧
      skipBlankLines s' = .ok [] s' := by
  have happend := blankLines_append s.cursor.rest
  have hends := endsBlankLines_blankLines s.cursor.rest
  refine ⟨_, _, skipBlankLines_run s, .of_rest happend.symm, hends, fun v r hs hv => ?_, ?_⟩
  · rw [hs]
    exact (blankLines_eq_iff.2 hv).symm
  · rw [skipBlankLines_run, State.advance_rest, hends.blankLines_rest, List.length_nil,
      State.advance_zero]

end Scan

end IndentTex
