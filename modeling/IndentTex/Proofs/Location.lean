import IndentTex.Proofs.Relocation
import Mathlib.Data.List.Induction
import Mathlib.Data.Prod.Lex

/-!
# Lines and columns

A location gives its place twice, as an offset in bytes and as a line with a column. A text that has
been read so far consists of the lines that have ended in it and of a part of the next one
(`Text.Broken`), and both sides can be seen from there. The main result,
`Location.ofOffset_address`, says that lines with columns are addresses of the places where a text
can be cut, in the same order.
-/

namespace IndentTex

namespace Text

variable {t w r before behind : Text} {earlier later : List Text} {n : Nat}

/-! ### Lines that have ended -/

/-- Lines put together, each with its newline. -/
def endLines (ls : List Text) : Text := ls.flatMap (· ++ ['\n'])

/-- The first of several lines comes with its newline. -/
lemma endLines_cons (l : Text) (ls : List Text) :
    endLines (l :: ls) = l ++ '\n' :: endLines ls := by
  simp [endLines]

/-- The last of several lines comes with its newline. -/
lemma endLines_concat (ls : List Text) (l : Text) :
    endLines (ls ++ [l]) = endLines ls ++ l ++ ['\n'] := by
  simp [endLines]

/-- A text that consists of `earlier` lines with their newlines and of `before`, which stands on the
next line. -/
structure Broken (w : Text) (earlier : List Text) (before : Text) : Prop where
  eq_append : w = endLines earlier ++ before
  newline_notMem_lines : ∀ l ∈ earlier, '\n' ∉ l
  newline_notMem : '\n' ∉ before

namespace Broken

/-- The empty text has no line that has ended. -/
lemma nil : Broken [] [] [] := ⟨rfl, by simp, by simp⟩

/-- A newline ends the line that it stands on. -/
lemma newline (h : Broken w earlier before) : Broken (w ++ ['\n']) (earlier ++ [before]) [] where
  eq_append := by rw [h.eq_append, endLines_concat, List.append_nil]
  newline_notMem_lines := by
    simp only [List.forall_mem_append, List.forall_mem_singleton]
    exact ⟨h.newline_notMem_lines, h.newline_notMem⟩
  newline_notMem := List.not_mem_nil

/-- Any other character goes on with the line. -/
lemma char {c : Char} (h : Broken w earlier before) (hc : c ≠ '\n') :
    Broken (w ++ [c]) earlier (before ++ [c]) where
  eq_append := by rw [h.eq_append, List.append_assoc]
  newline_notMem_lines := h.newline_notMem_lines
  newline_notMem := by simp [h.newline_notMem, hc.symm]

/-- A line that stands before all others. -/
lemma cons {l : Text} (hl : '\n' ∉ l) (h : Broken w earlier before) :
    Broken (l ++ '\n' :: w) (l :: earlier) before where
  eq_append := by rw [h.eq_append, endLines_cons, List.append_assoc, List.cons_append]
  newline_notMem_lines := List.forall_mem_cons.2 ⟨hl, h.newline_notMem_lines⟩
  newline_notMem := h.newline_notMem

/-- The bytes of a text are those of the lines that have ended and of the last part. -/
lemma byteSize (h : Broken w earlier before) :
    w.byteSize = (endLines earlier).byteSize + before.byteSize := by
  rw [h.eq_append, byteSize_append]

/-- The lines that have ended are lines of every text that goes on from there. -/
lemma splitLines (h : Broken w earlier before) (r : Text) :
    splitLines (w ++ r) = earlier ++ splitLines (before ++ r) := by
  obtain ⟨rfl, hlines, -⟩ := h
  induction earlier with
  | nil => rfl
  | cons l earlier ih =>
    rw [List.forall_mem_cons] at hlines
    rw [endLines_cons, List.append_assoc, List.append_assoc, List.cons_append,
      splitLines_line hlines.1, ← List.append_assoc, ih hlines.2, List.cons_append]

end Broken

/-- Every text is made of lines that have ended and a part of the next one. -/
lemma exists_broken (w : Text) : ∃ earlier before, Broken w earlier before := by
  induction w using List.reverseRecOn with
  | nil => exact ⟨[], [], .nil⟩
  | append_singleton w c ih =>
    obtain ⟨earlier, before, h⟩ := ih
    by_cases hc : c = '\n'
    · exact ⟨earlier ++ [before], [], hc ▸ h.newline⟩
    · exact ⟨earlier, before ++ [c], h.char hc⟩

/-- A text is one line, or its first line ends with a newline. -/
lemma first_line_cases (t : Text) : '\n' ∉ t ∨ ∃ l r, '\n' ∉ l ∧ t = l ++ '\n' :: r := by
  by_cases h : '\n' ∈ t
  · obtain ⟨l, r, ht, hl⟩ := List.eq_append_cons_of_mem h
    exact Or.inr ⟨l, r, hl, ht⟩
  · exact Or.inl h

/-- A text can be cut within each of its lines. -/
lemma exists_broken_of_splitLines (h : splitLines t = earlier ++ (before ++ behind) :: later) :
    ∃ w r, t = w ++ r ∧ Broken w earlier before := by
  induction earlier generalizing t with
  | nil =>
    rcases first_line_cases t with ht | ⟨l, r, hl, rfl⟩
    · rw [splitLines_of_notMem ht, List.nil_append, List.cons.injEq] at h
      have hb : '\n' ∉ before := fun hn => ht (h.1 ▸ List.mem_append_left _ hn)
      exact ⟨before, behind, h.1, rfl, by simp, hb⟩
    · rw [splitLines_line hl, List.nil_append, List.cons.injEq] at h
      obtain ⟨rfl, -⟩ := h
      have hb : '\n' ∉ before := fun hn => hl (List.mem_append_left _ hn)
      exact ⟨before, behind ++ '\n' :: r, List.append_assoc _ _ _, rfl, by simp, hb⟩
  | cons l earlier ih =>
    rcases first_line_cases t with ht | ⟨l', r, hl, rfl⟩
    · -- one line has no earlier ones
      rw [splitLines_of_notMem ht] at h
      simp at h
    · rw [splitLines_line hl, List.cons_append, List.cons.injEq] at h
      obtain ⟨rfl, h⟩ := h
      obtain ⟨w, r', rfl, hw⟩ := ih h
      exact ⟨l' ++ '\n' :: w, r', by simp, hw.cons hl⟩

/-! ### Addresses -/

/-- A text has a place at a line and a column, both counted from one: behind the last character of a
line there is one more place. -/
def HasPlace (t : Text) (line column : Nat) : Prop :=
  1 ≤ line ∧ 1 ≤ column ∧ ∃ l, (splitLines t)[line - 1]? = some l ∧ column - 1 ≤ l.length

/-- The bytes before a column of a line: those of all earlier lines with their newlines, and those
of the characters before the column. -/
def address (t : Text) (line column : Nat) : Nat :=
  byteSize (endLines ((splitLines t).take (line - 1)))
    + byteSize (((splitLines t)[line - 1]?.getD []).take (column - 1))

/-- The place that is reached after some lines and a part of the next one. -/
lemma address_eq (h : splitLines t = earlier ++ (before ++ behind) :: later) :
    t.HasPlace (earlier.length + 1) (before.length + 1) ∧
      t.address (earlier.length + 1) (before.length + 1) =
        (endLines earlier).byteSize + before.byteSize := by
  have hline : (splitLines t)[earlier.length]? = some (before ++ behind) := by
    rw [h, List.getElem?_append_right (Nat.le_refl _), Nat.sub_self]
    rfl
  constructor
  · refine ⟨Nat.succ_pos _, Nat.succ_pos _, _, hline, ?_⟩
    rw [List.length_append, Nat.add_sub_cancel]
    exact Nat.le_add_right _ _
  · rw [address, Nat.add_sub_cancel, Nat.add_sub_cancel, hline, h, List.take_left,
      Option.getD_some, List.take_left]

/-- Every place lies behind some lines and a part of the next one. -/
lemma HasPlace.exists_splitLines {line column : Nat} (h : t.HasPlace line column) :
    ∃ earlier before behind later, splitLines t = earlier ++ (before ++ behind) :: later ∧
      line = earlier.length + 1 ∧ column = before.length + 1 := by
  obtain ⟨hline, hcolumn, l, hl, hlength⟩ := h
  obtain ⟨hlt, rfl⟩ := List.getElem?_eq_some_iff.1 hl
  refine ⟨(splitLines t).take (line - 1), (splitLines t)[line - 1].take (column - 1),
    (splitLines t)[line - 1].drop (column - 1), (splitLines t).drop (line - 1 + 1), ?_, ?_, ?_⟩
  · rw [List.take_append_drop, ← List.drop_eq_getElem_cons hlt, List.take_append_drop]
  · rw [List.length_take]
    omega
  · rw [List.length_take]
    omega

end Text

namespace Location

open Text

variable {w v before : Text} {earlier : List Text}

/-- The line and the column of a location, to be compared one after the other. -/
def position (l : Location) : Nat ×ₗ Nat := toLex (l.line, l.column)

/-- The location behind some lines and a part of the next one. -/
lemma after_broken (h : Broken w earlier before) :
    after w = ⟨w.byteSize, earlier.length + 1, before.length + 1⟩ := by
  obtain ⟨rfl, hlines, hbefore⟩ := h
  induction earlier with
  | nil =>
    have hall : before.reverse.all (· != '\n') := by
      rw [List.all_reverse]
      exact all_ne_of_notMem hbefore
    have hrun := takeWhile_run (r := []) hall rfl
    rw [List.append_nil] at hrun
    rw [endLines, List.flatMap_nil, List.nil_append, after, hrun, List.count_eq_zero.2 hbefore,
      List.length_reverse]
    rfl
  | cons l earlier ih =>
    rw [List.forall_mem_cons] at hlines
    rw [endLines_cons, List.append_assoc, List.cons_append, after_append, ih hlines.2, below_line,
      List.count_eq_zero.2 hlines.1]
    simp only [byteSize_append, Text.byteSize, List.length_cons, show '\n'.utf8Size = 1 from rfl,
      mk.injEq, and_true]
    omega

/-- One more character leads to the next column, or to the next line. -/
lemma position_after_lt (w : Text) (c : Char) :
    (after w).position < (after (w ++ [c])).position := by
  obtain ⟨earlier, before, h⟩ := exists_broken w
  rw [position, position, Prod.Lex.toLex_lt_toLex, after_broken h]
  by_cases hc : c = '\n'
  · rw [hc, after_broken h.newline]
    exact Or.inl (by simp)
  · rw [after_broken (h.char hc)]
    exact Or.inr (by simp)

/-- More text leads to a later line, or to a later column of the same line. -/
lemma position_after_append_lt (w : Text) (hv : v ≠ []) :
    (after w).position < (after (w ++ v)).position := by
  induction v using List.reverseRecOn with
  | nil => exact absurd rfl hv
  | append_singleton v c ih =>
    have hstep := position_after_lt (w ++ v) c
    rw [List.append_assoc] at hstep
    by_cases hv : v = []
    · rw [hv, List.append_nil] at hstep
      rwa [hv]
    · exact lt_trans (ih hv) hstep

/-- Locations of later boundaries are later. -/
lemma position_ofOffset_lt {t : Text} {o₁ o₂ : Nat} (h₁ : t.IsBoundary o₁) (h₂ : t.IsBoundary o₂)
    (h : o₁ < o₂) : (ofOffset t o₁).position < (ofOffset t o₂).position := by
  obtain ⟨w₁, r₁, rfl, rfl⟩ := h₁
  obtain ⟨w₂, r₂, ht, rfl⟩ := h₂
  -- both are beginnings of one text, and the one of fewer bytes is a beginning of the other
  have hcut : (w₁ ++ r₁).takeBytes w₂.byteSize = w₂ := by rw [ht, takeBytes_byteSize]
  have hprefix : w₁ <+: w₂ := hcut ▸ prefix_takeBytes (List.prefix_append w₁ r₁) (Nat.le_of_lt h)
  obtain ⟨v, rfl⟩ := hprefix
  rw [ofOffset_eq, ofOffset_eq, hcut, takeBytes_byteSize]
  refine position_after_append_lt w₁ ?_
  rintro rfl
  rw [List.append_nil] at h
  exact Nat.lt_irrefl _ h

/-- The location of an offset is that of the last boundary up to there. Its line and column are a
place of the text, and its offset is their address. Every place of the text is the location of its
address, and the places of later boundaries have later lines, or later columns of the same line. -/
theorem ofOffset_address (t : Text) (o : Nat) :
    (t.IsBoundary (ofOffset t o).offset ∧ (ofOffset t o).offset ≤ o ∧
      (ofOffset t o).offset ≤ t.byteSize ∧
      ∀ b, t.IsBoundary b → b ≤ o → b ≤ (ofOffset t o).offset) ∧
    (t.HasPlace (ofOffset t o).line (ofOffset t o).column ∧
      (ofOffset t o).offset = t.address (ofOffset t o).line (ofOffset t o).column) ∧
    (∀ line column, t.HasPlace line column →
      ofOffset t (t.address line column) = ⟨t.address line column, line, column⟩) ∧
    ∀ o₁ o₂, t.IsBoundary o₁ → t.IsBoundary o₂ → o₁ < o₂ →
      (ofOffset t o₁).position < (ofOffset t o₂).position := by
  have hbound := isBoundary_takeBytes o t
  have hoffset : (ofOffset t o).offset = (t.takeBytes o).byteSize := by
    rw [ofOffset_eq, after]
  refine ⟨hoffset ▸ ⟨hbound, byteSize_takeBytes_le o t, hbound.le_byteSize, ?_⟩, ?_, ?_, ?_⟩
  · intro b hb hle
    exact hb.le_takeBytes hle
  · obtain ⟨r, hr⟩ := takeBytes_prefix o t
    obtain ⟨earlier, before, h⟩ := exists_broken (t.takeBytes o)
    obtain ⟨l, ls, hl⟩ := List.exists_cons_of_ne_nil (splitLines_ne_nil r)
    have hlines : splitLines t = earlier ++ (before ++ l) :: ls := by
      rw [← hr, h.splitLines, splitLines_append h.newline_notMem hl]
    obtain ⟨hplace, haddress⟩ := address_eq hlines
    rw [ofOffset_eq, after_broken h]
    exact ⟨hplace, by rw [haddress, h.byteSize]⟩
  · intro line column hplace
    obtain ⟨earlier, before, behind, later, ht, rfl, rfl⟩ := hplace.exists_splitLines
    obtain ⟨w, r, rfl, h⟩ := exists_broken_of_splitLines ht
    rw [(address_eq ht).2, ← h.byteSize, ofOffset_byteSize, after_broken h]
  · intro o₁ o₂ h₁ h₂ h
    exact position_ofOffset_lt h₁ h₂ h

/-- An offset within a character, on a line behind a longer character, and the two sides of a
newline. -/
theorem ofOffset_address_within :
    let t : Text := ['é', '\n', 'x', 'é']
    ofOffset t 5 = ⟨4, 2, 2⟩ ∧ 3 ≤ (ofOffset t 5).offset ∧ t.HasPlace 2 2 ∧
      ofOffset t (t.address 2 2) = ⟨t.address 2 2, 2, 2⟩ ∧
      (ofOffset t 2).position < (ofOffset t 3).position := by
  intro t
  have hfirst : t.IsBoundary 2 := ⟨['é'], _, rfl, rfl⟩
  have hsecond : t.IsBoundary 3 := ⟨['é', '\n'], _, rfl, rfl⟩
  obtain ⟨⟨-, -, -, hlast⟩, ⟨hplace, -⟩, hback, hlt⟩ := ofOffset_address t 5
  exact ⟨rfl, hlast 3 hsecond (by decide), hplace, hback 2 2 hplace,
    hlt 2 3 hfirst hsecond (by decide)⟩

end Location

end IndentTex
