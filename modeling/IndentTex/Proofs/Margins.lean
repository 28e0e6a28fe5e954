import IndentTex.Proofs.PlainText
import IndentTex.Proofs.Reindentation

/-!
# Margins

A margin is a unit repeated as often as the level says. The first main result,
`Indentation.levelOf_margin`, says that measuring an indentation undoes the writing of a margin, and
that nothing but margins can be measured. The second one, `Text.indentTail_laws`, is about texts
that are moved to a margin: the two ways to do so agree, margins add up, and moving a block to the
left takes off what has been put before its lines.
-/

namespace IndentTex

namespace Indentation

variable {i j : Indentation} {indent u : Text} {level : Nat}

/-! ### Levels -/

/-- An indentation without a unit. -/
lemma eq_unset (h : i.unit = none) : i = unset := by rw [unset, ← h]

/-- An indentation with a unit. -/
lemma eq_ofUnit (h : i.unit = some u) : i = ofUnit u := by rw [ofUnit, ← h]

/-- With a unit, the level of an indentation is how often it repeats the unit. -/
lemma levelOf_ofUnit_iff (hu : IsUnit u) :
    levelOf indent (ofUnit u) = .ok level j ↔ indent = u.times level ∧ j = ofUnit u := by
  constructor
  · exact levelOf_ofUnit_ok hu
  · rintro ⟨rfl, rfl⟩
    exact levelOf_ofUnit hu level

/-- The margin of the level that was measured is the indentation. -/
lemma IsValid.margin_of_levelOf (hi : i.IsValid) (h : levelOf indent i = .ok level j) :
    j.margin level = indent := by
  cases hu : i.unit with
  | some u =>
    rw [eq_ofUnit hu, levelOf_ofUnit_iff (hi u hu)] at h
    obtain ⟨rfl, rfl⟩ := h
    rfl
  | none =>
    rw [eq_unset hu] at h
    rcases levelOf_unset_ok h with ⟨rfl, rfl, rfl⟩ | ⟨-, rfl, rfl⟩
    · rfl
    · simp [Text.times]

/-- Measuring an indentation and writing the margin of a level undo each other. A failure changes
nothing, and neither does a success where there is a unit: then the repetitions of the unit can be
measured and nothing else. Where there is none, spaces alone and tabs alone can be measured, and
they become the unit unless they are empty. -/
theorem levelOf_margin {i : Indentation} (hi : i.IsValid) (indent : Text) :
    (∀ level j, levelOf indent i = .ok level j →
      j.margin level = indent ∧ ∀ u, i.unit = some u → j = i) ∧
    (∀ cause j, levelOf indent i = .error cause j → j = i) ∧
    (∀ u, i.unit = some u →
      ((∃ level j, levelOf indent i = .ok level j) ↔ ∃ n, indent = u.times n) ∧
      ∀ n, levelOf (i.margin n) i = .ok n i) ∧
    (i.unit = none →
      ((∃ level j, levelOf indent i = .ok level j) ↔
        (∀ c ∈ indent, c = ' ') ∨ ∀ c ∈ indent, c = '\t') ∧
      ∀ level j, levelOf indent i = .ok level j →
        (indent = [] → level = 0 ∧ j.unit = none) ∧
        (indent ≠ [] → level = 1 ∧ j.unit = some indent)) := by
  refine ⟨fun level j h => ⟨hi.margin_of_levelOf h, fun u hu => ?_⟩,
    fun _ _ => eq_of_levelOf_error, fun u hu => ?_, fun hnone => ⟨?_, fun level j h => ?_⟩⟩
  · rw [eq_ofUnit hu, levelOf_ofUnit_iff (hi u hu)] at h
    rw [h.2, eq_ofUnit hu]
  · rw [eq_ofUnit hu]
    exact ⟨by simp [levelOf_ofUnit_iff (hi u hu)], levelOf_ofUnit (hi u hu)⟩
  · rw [← measures_iff hi]
    simp [Measures, hnone, isUniform]
  · rw [eq_unset hnone] at h
    rcases levelOf_unset_ok h with ⟨rfl, rfl, rfl⟩ | ⟨hu, rfl, rfl⟩
    · exact ⟨fun _ => ⟨rfl, rfl⟩, absurd rfl⟩
    · exact ⟨fun hnil => absurd hnil hu.ne_nil, fun _ => ⟨rfl, rfl⟩⟩

/-- Two levels of a unit of two spaces, and a tab where there is no unit yet. -/
theorem levelOf_margin_tab :
    let spaces := ofUnit [' ', ' ']
    spaces.IsValid ∧ spaces.margin 2 = [' ', ' ', ' ', ' '] ∧
      levelOf (spaces.margin 2) spaces = .ok 2 spaces ∧
      unset.IsValid ∧ levelOf ['\t'] unset = .ok 1 (ofUnit ['\t']) ∧
      (ofUnit ['\t']).margin 1 = ['\t'] := by
  intro spaces
  have hspaces : spaces.IsValid := fun u hu => by
    cases hu
    exact ⟨by decide, by decide⟩
  have htab : levelOf ['\t'] unset = .ok 1 (ofUnit ['\t']) := rfl
  obtain ⟨-, -, hset, -⟩ := levelOf_margin hspaces []
  obtain ⟨hback, -, -, -⟩ := levelOf_margin isValid_unset ['\t']
  exact ⟨hspaces, rfl, (hset _ rfl).2 2, isValid_unset, htab, (hback 1 _ htab).1⟩

end Indentation

/-! ### Lines with a margin -/

namespace Text

variable {p q t l : Text} {ls : List Text}

/-- Every text is lines put together. -/
lemma exists_lines (t : Text) : ∃ l ls, t = joinLines (l :: ls) ∧ ∀ k ∈ l :: ls, '\n' ∉ k := by
  obtain ⟨l, ls, hl⟩ := List.exists_cons_of_ne_nil (splitLines_ne_nil t)
  refine ⟨l, ls, ?_, fun k hk => newline_notMem_of_mem_splitLines (hl ▸ hk)⟩
  rw [← hl, joinLines_splitLines]

/-- A line that is indented twice is indented once with both margins. -/
lemma indentLine_indentLine (p q l : Text) :
    indentLine p (indentLine q l) = indentLine (p ++ q) l := by
  cases l with
  | nil => rfl
  | cons c l => simp [indentLine]

/-- A margin with a newline makes a line more, if there is a line to put it before. -/
lemma newline_notMem_indentLine (hl : '\n' ∉ l) : '\n' ∉ indentLine p l ↔ '\n' ∉ p ∨ l = [] := by
  by_cases hne : l = []
  · simp [hne, indentLine]
  · simp [indentLine_of_ne_nil hne, hl, hne]

/-- A margin that was put before a line is taken off again. -/
lemma dedentLine_indentLine (p l : Text) : dedentLine p (indentLine p l) = l := by
  cases l with
  | nil => exact dedentLine_nil p
  | cons c l =>
    have hdrop := dropStart?_append p [] (c :: l)
    rw [List.append_nil, dropStart?] at hdrop
    rw [indentLine_of_ne_nil (List.cons_ne_nil c l), dedentLine, hdrop]

/-- A text that begins with another is that one and a rest. -/
lemma eq_append_of_dropStart? {m r : Text} (h : dropStart? m l = some r) : l = m ++ r := by
  fun_induction dropStart? m l with
  | case1 => cases h; rfl
  | case2 => cases h
  | case3 a ps cs ih => rw [ih h]; rfl
  | case4 => cases h

/-- Moving a line to the left puts no newline into it. -/
lemma newline_notMem_dedentLine (p : Text) (hl : '\n' ∉ l) : '\n' ∉ dedentLine p l := by
  rw [dedentLine]
  split
  case h_1 r hr =>
    rw [eq_append_of_dropStart? hr] at hl
    exact fun hn => hl (List.mem_append_right p hn)
  case h_2 =>
    split
    · exact List.not_mem_nil
    · exact hl

/-! ### Texts with a margin -/

/-- A body is indented as any other text is after its first line. -/
lemma indentTail_eq_indentBody (p t : Text) : indentTail p t = indentBody p t := by
  obtain ⟨l, ls, hl⟩ := List.exists_cons_of_ne_nil (splitLines_ne_nil t)
  rw [indentTail_of_splitLines hl, indentBody_of_splitLines hl]

/-- A text whose tail is indented twice is indented once with both margins. -/
lemma indentTail_indentTail (p t : Text) (hq : '\n' ∉ q) :
    indentTail p (indentTail q t) = indentTail (p ++ q) t := by
  obtain ⟨l, ls, rfl, h⟩ := exists_lines t
  have hlines : ∀ k ∈ l :: ls.map (indentLine q), '\n' ∉ k := by
    rw [List.forall_mem_cons, List.forall_mem_map]
    rw [List.forall_mem_cons] at h
    exact ⟨h.1, fun k hk => (newline_notMem_indentLine (h.2 k hk)).2 (Or.inl hq)⟩
  rw [indentTail_joinLines h, indentTail_joinLines hlines, indentTail_joinLines h, List.map_map]
  congr 2
  exact List.map_congr_left fun k _ => indentLine_indentLine p q k

/-- Behind a newline all lines are indented. -/
lemma indentTail_newline (p : Text) (h : ∀ k ∈ l :: ls, '\n' ∉ k) :
    indentTail p ('\n' :: joinLines (l :: ls)) = '\n' :: joinLines ((l :: ls).map (indentLine p)) :=
  indentTail_joinLines (l := []) (List.forall_mem_cons.2 ⟨List.not_mem_nil, h⟩)

/-- The newlines of a text are those between its lines and those within them. -/
lemma count_joinLines (l : Text) (ls : List Text) :
    (joinLines (l :: ls)).count '\n' = ls.length + (l :: ls).flatten.count '\n' := by
  induction ls generalizing l with
  | nil => simp [joinLines]
  | cons k ls ih =>
    simp only [joinLines_cons_cons, List.count_append, List.count_cons_self, ih k,
      List.length_cons, List.flatten_cons]
    omega

/-- Lines put together have no newline exactly if none of them has one. -/
lemma count_flatten_eq_zero_iff : ls.flatten.count '\n' = 0 ↔ ∀ k ∈ ls, '\n' ∉ k := by
  simp [List.count_eq_zero, List.mem_flatten]

/-- Moving a block to the left leaves its newlines, and adds one behind it. -/
lemma count_dedentBlock (p t : Text) :
    (dedentBlock p ('\n' :: t)).count '\n' = t.count '\n' + 2 := by
  obtain ⟨l, ls, rfl, h⟩ := exists_lines t
  have hlines : ∀ k ∈ (l :: ls).map (dedentLine p), '\n' ∉ k := by
    rw [List.forall_mem_map]
    exact fun k hk => newline_notMem_dedentLine p (h k hk)
  rw [dedentBlock_joinLines p h, List.count_append, List.count_cons_self, List.map_cons,
    count_joinLines, count_joinLines, ← List.map_cons, count_flatten_eq_zero_iff.2 hlines,
    count_flatten_eq_zero_iff.2 h, List.length_map]
  simp

/-- A margin comes off again if it makes no new lines. -/
lemma dedentBlock_indentTail_iff (h : ∀ k ∈ l :: ls, '\n' ∉ k) :
    dedentBlock p (indentTail p ('\n' :: joinLines (l :: ls))) =
        '\n' :: joinLines (l :: ls) ++ ['\n'] ↔
      ∀ k ∈ l :: ls, '\n' ∉ indentLine p k := by
  rw [indentTail_newline p h]
  constructor
  · intro heq
    -- a new line would be a newline more than there are on the right
    have hcount := congrArg (List.count '\n') heq
    rw [count_dedentBlock, List.count_append, List.count_cons_self, List.map_cons, count_joinLines,
      count_joinLines, count_flatten_eq_zero_iff.2 h, List.length_map, ← List.map_cons] at hcount
    have hnone : ((l :: ls).map (indentLine p)).flatten.count '\n' = 0 := by
      simp only [List.count_singleton_self] at hcount
      omega
    rwa [count_flatten_eq_zero_iff, List.forall_mem_map] at hnone
  · intro hlines
    have hmap : ((l :: ls).map (indentLine p)).map (dedentLine p) = l :: ls := by
      rw [List.map_map]
      exact (List.map_congr_left fun k _ => dedentLine_indentLine p k).trans (List.map_id _)
    rw [List.map_cons, dedentBlock_joinLines, ← List.map_cons, hmap]
    rwa [← List.map_cons, List.forall_mem_map]

/-- A text is indented after its first line in the same way in both forms, and indenting it by two
margins is indenting it by the outer one followed by the inner one. Moving a block to the left takes
off the margin that was put before its lines. Only a margin that has a newline itself does not come
off, unless there is no line to put it before: the third law is about every margin, and for a margin
without a newline, such as every margin that is read, its right side holds. -/
theorem indentTail_laws (p q t : Text) :
    indentTail p t = indentBody p t ∧
    ('\n' ∉ q → indentTail p (indentTail q t) = indentTail (p ++ q) t) ∧
    (t.head? = some '\n' →
      (dedentBlock p (indentTail p t) = t ++ ['\n'] ↔ '\n' ∉ p ∨ ∀ l ∈ splitLines t, l = [])) := by
  refine ⟨indentTail_eq_indentBody p t, indentTail_indentTail p t, fun ht => ?_⟩
  obtain ⟨t, rfl⟩ := List.head?_eq_some_iff.1 ht
  obtain ⟨l, ls, rfl, h⟩ := exists_lines t
  have hline : ∀ k ∈ l :: ls, '\n' ∉ indentLine p k ↔ '\n' ∉ p ∨ k = [] :=
    fun k hk => newline_notMem_indentLine (h k hk)
  have hempty : (∀ k ∈ splitLines ('\n' :: joinLines (l :: ls)), k = []) ↔
      ∀ k ∈ l :: ls, k = [] := by
    rw [splitLines_newline, splitLines_joinLines h, List.forall_mem_cons]
    exact and_iff_right rfl
  rw [dedentBlock_indentTail_iff h, hempty]
  by_cases hp : '\n' ∈ p
  · simp only [hp, not_true_eq_false, false_or] at hline ⊢
    exact forall₂_congr hline
  · simp only [hp, not_false_eq_true, true_or, iff_true] at hline ⊢
    exact hline

/-- A block with an empty line, a blank one, one that starts with the margin and a newline at its
end. -/
theorem indentTail_laws_block :
    let p : Text := [' ', ' ']
    let t : Text := ['\n', 'a', '\n', '\n', ' ', '\n', ' ', ' ', 'b', '\n']
    '\n' ∉ p ∧ t.head? = some '\n' ∧
      indentTail p t = indentBody p t ∧
      indentTail ['\t'] (indentTail p t) = indentTail ['\t', ' ', ' '] t ∧
      dedentBlock p (indentTail p t) = t ++ ['\n'] := by
  intro p t
  have hp : '\n' ∉ p := by decide
  have ht : t.head? = some '\n' := rfl
  obtain ⟨hbody, -, hback⟩ := indentTail_laws p [] t
  obtain ⟨-, htwice, -⟩ := indentTail_laws ['\t'] p t
  exact ⟨hp, ht, hbody, htwice hp, (hback ht).2 (Or.inl hp)⟩

end Text

end IndentTex
