import IndentTex.Proofs.Text.Indent

/-!
# Texts on two margins

A block that is read one level deeper gives the same lines on a wider margin, but not every line of
an output has a margin: where the output of a definition breaks a line, the line goes on as it is.
`Text.Shift` relates two outputs that differ in their margins only. Lines without a margin start with
text, so moving both blocks to the left gives the same block.
-/

namespace IndentTex.Text

/-- Whether every newline of a text is followed by a character that is not a horizontal blank. -/
def settled : Text → Bool
  | [] => true
  | c :: t => (c != '\n' || starts (fun d => !isHorizontal d) t) && settled t

/-- Whether every newline of a text is followed by `m`. -/
def onMargin (m : Text) : Text → Bool
  | [] => true
  | c :: t => (c != '\n' || m.isPrefixOf t) && onMargin m t

/-- Whether a text is a single line, or a block, which starts with a newline. -/
def isLineOrBlock (t : Text) : Bool := t.starts (· == '\n') || !t.contains '\n'

/-- Two texts that differ in their margins only: `m` in the first and `u ++ m` in the second. The flag
says whether a line starts where the texts start. -/
inductive Shift (u m : Text) : Bool → Text → Text → Prop where
  | nil {start : Bool} : Shift u m start [] []
  | newline {start : Bool} {t t' : Text} : Shift u m true t t' →
    Shift u m start ('\n' :: t) ('\n' :: t')
  | char {c : Char} {t t' : Text} : c ≠ '\n' → Shift u m false t t' →
    Shift u m false (c :: t) (c :: t')
  | margin {t t' : Text} : m ++ t ≠ [] → Shift u m false t t' →
    Shift u m true (m ++ t) (u ++ m ++ t')
  | blank {w t t' : Text} : w ≠ [] → w.isBlankLine → Shift u m true t t' →
    Shift u m true (w ++ '\n' :: t) (u ++ w ++ '\n' :: t')
  | text {c : Char} {t t' : Text} : c ≠ '\n' → isHorizontal c = false → Shift u m false t t' →
    Shift u m true (c :: t) (c :: t')

variable {u m t t' : Text} {start : Bool}

/-- A line that is not empty, from its start. -/
lemma indent_line_append_start {w : Text} (hne : w ≠ []) (hw : '\n' ∉ w) (r : Text) :
    indent u true (w ++ r) = u ++ w ++ indent u false r := by
  cases w with
  | nil => exact absurd rfl hne
  | cons c w =>
    rw [List.mem_cons, not_or] at hw
    rw [List.cons_append, indent_cons (Ne.symm hw.1), indent_line_append hw.2, pad_true]
    simp

/-- A text without newlines is a line. -/
lemma isLineOrBlock_of_notMem (ht : '\n' ∉ t) : isLineOrBlock t := by
  simp [isLineOrBlock, ht]

/-- A block that was moved to the left is a block. -/
lemma isLineOrBlock_dedentBlock (m t : Text) : isLineOrBlock (dedentBlock m t) := by
  unfold isLineOrBlock dedentBlock
  cases (splitLines t).drop 1 with
  | nil => rfl
  | cons l ls => simp

/-! ### Texts without a margin -/

/-- A text within a line has no newline to settle. -/
lemma settled_of_notMem (ht : '\n' ∉ t) : settled t := by
  induction t with
  | nil => rfl
  | cons c t ih =>
    rw [List.mem_cons, not_or] at ht
    simp [settled, Ne.symm ht.1, ih ht.2]

/-- Text stands after the last newline. -/
lemma lineStart_of_settled (ht : settled t) : lineStart false t = false := by
  induction t with
  | nil => rfl
  | cons c t ih =>
    rw [settled, Bool.and_eq_true] at ht
    by_cases hc : c = '\n'
    · subst hc
      cases t with
      | nil => exact absurd ht.1 (by decide)
      | cons d t => exact ih ht.2
    · have hf : (c == '\n') = false := by simpa using hc
      rw [lineStart_cons, hf, ih ht.2]

namespace Shift

/-- A text without a margin is as it is. -/
lemma of_settled (ht : settled t) :
    Shift u m false t t ∧ (t.starts (fun d => !isHorizontal d) → Shift u m true t t) := by
  induction t with
  | nil => exact ⟨.nil, nofun⟩
  | cons c t ih =>
    rw [settled, Bool.and_eq_true] at ht
    obtain ⟨hwithin, hstart⟩ := ih ht.2
    by_cases hc : c = '\n'
    · subst hc
      have ht' := hstart (by simpa using ht.1)
      exact ⟨.newline ht', fun _ => .newline ht'⟩
    · exact ⟨.char hc hwithin, fun hh => .text hc (by simpa using hh) hwithin⟩

/-- A text within a line is as it is. -/
lemma of_notMem (ht : '\n' ∉ t) : Shift u m false t t := (of_settled (settled_of_notMem ht)).1

/-- A text that starts with a character other than a blank goes on a line or starts one. -/
lemma of_text {c : Char} (hc : c ≠ '\n') (hh : isHorizontal c = false) (start : Bool)
    (h : Shift u m false t t') : Shift u m start (c :: t) (c :: t') := by
  cases start with
  | false => exact .char hc h
  | true => exact .text hc hh h

/-- Within a line nothing differs. -/
lemma eq_of_notMem (h : Shift u m false t t') (ht : '\n' ∉ t) : t' = t := by
  generalize hs : false = start at h
  induction h with
  | nil => rfl
  | newline => simp at ht
  | char _ _ ih =>
    rw [List.mem_cons, not_or] at ht
    rw [ih ht.2 hs]
  | margin | blank | text => cases hs

/-- A text with text after each newline has no margin, so nothing differs. -/
lemma eq_of_settled (hne : m ≠ []) (hm : m.isBlankLine) (h : Shift u m start t t') (ht : settled t)
    (hstart : start = true → t.starts fun d => !isHorizontal d) : t' = t := by
  -- No line starts with a blank.
  have hblank {w x : Text} (hne : w ≠ []) (hw : w.isBlankLine) :
      starts (fun d => !isHorizontal d) (w ++ x) = false := by
    obtain ⟨c, w, rfl⟩ := List.exists_cons_of_ne_nil hne
    rw [isBlankLine, List.all_cons, Bool.and_eq_true] at hw
    rw [List.cons_append, starts_cons, hw.1]
    rfl
  induction h with
  | nil => rfl
  | newline _ ih =>
    rw [settled, Bool.and_eq_true] at ht
    rw [ih ht.2 fun _ => by simpa using ht.1]
  | char _ _ ih | text _ _ _ ih =>
    rw [settled, Bool.and_eq_true] at ht
    rw [ih ht.2 fun hf => absurd hf Bool.false_ne_true]
  | margin =>
    rw [hblank hne hm] at hstart
    exact absurd (hstart rfl) Bool.false_ne_true
  | blank hw hb =>
    rw [hblank hw hb] at hstart
    exact absurd (hstart rfl) Bool.false_ne_true

/-! ### Putting texts together -/

/-- One text after the other. -/
lemma append (hm : '\n' ∉ m) {x x' y y' : Text} (hx : Shift u m start x x')
    (hy : Shift u m (lineStart start x) y y') : Shift u m start (x ++ y) (x' ++ y') := by
  induction hx with
  | nil => exact hy
  | newline _ ih => exact .newline (ih hy)
  | @char c t t' hc _ ih =>
    have hf : (c == '\n') = false := by simpa using hc
    rw [lineStart_cons, hf] at hy
    exact .char hc (ih hy)
  | @margin t t' hne _ ih =>
    have hl : lineStart true (m ++ t) = lineStart false t := by
      cases m with
      | nil =>
        cases t with
        | nil => exact absurd rfl hne
        | cons c t => rfl
      | cons c m =>
        rw [lineStart_append, lineStart_cons]
        rw [List.mem_cons, not_or] at hm
        have hf : (c == '\n') = false := by simpa using Ne.symm hm.1
        rw [hf, lineStart_of_notMem hm.2]
    rw [hl] at hy
    rw [List.append_assoc, List.append_assoc]
    exact .margin (by simp_all) (ih hy)
  | @blank w t t' hne hw _ ih =>
    rw [lineStart_append] at hy
    simp only [List.append_assoc, List.cons_append]
    rw [← List.append_assoc u]
    exact .blank hne hw (ih hy)
  | @text c t t' hc hh _ ih =>
    have hf : (c == '\n') = false := by simpa using hc
    rw [lineStart_cons, hf] at hy
    exact .text hc hh (ih hy)

/-- The beginning of a line is the same. -/
lemma exists_append {w x : Text} (hw : '\n' ∉ w) (h : Shift u m false (w ++ t) x) :
    ∃ t', x = w ++ t' ∧ Shift u m false t t' := by
  induction w generalizing x with
  | nil => exact ⟨x, rfl, h⟩
  | cons c w ih =>
    rw [List.mem_cons, not_or] at hw
    rw [List.cons_append] at h
    generalize hy : w ++ t = y at h
    cases h with
    | newline => exact absurd rfl hw.1
    | char _ h =>
      subst hy
      obtain ⟨t', rfl, ht⟩ := ih hw.2 h
      exact ⟨t', rfl, ht⟩

/-- A line on the margin, from its start. -/
lemma of_prefix (hm : '\n' ∉ m) (h : Shift u m false t t') (ht : m <+: t) (hne : t ≠ []) :
    Shift u m true t (u ++ t') := by
  obtain ⟨y, rfl⟩ := ht
  obtain ⟨y', rfl, hy⟩ := h.exists_append hm
  rw [← List.append_assoc]
  exact .margin hne hy

/-- A narrower margin. -/
lemma narrow {x : Text} (hx : '\n' ∉ x) (hm : '\n' ∉ m) (h : Shift u (m ++ x) start t t') :
    Shift u m start t t' := by
  induction h with
  | nil => exact .nil
  | newline _ ih => exact .newline ih
  | char hc _ ih => exact .char hc ih
  | @margin t t' hne _ ih =>
    have hxt : Shift u m false (x ++ t) (x ++ t') :=
      (of_notMem hx).append hm (by rwa [lineStart_of_notMem hx])
    simp only [← List.append_assoc]
    rw [List.append_assoc m, List.append_assoc (u ++ m)]
    exact .margin (by simpa using hne) hxt
  | blank hne hw _ ih => exact .blank hne hw ih
  | text hc hh _ ih => exact .text hc hh ih

/-- The same text, moved to the two margins. -/
lemma of_indent (t : Text) : Shift u m start (indent m start t) (indent (u ++ m) start t) := by
  induction t generalizing start with
  | nil => exact .nil
  | cons c t ih =>
    by_cases hc : c = '\n'
    · subst hc
      exact .newline ih
    · rw [indent_cons hc, indent_cons hc]
      cases start with
      | false => exact .char hc ih
      | true => exact .margin (by simp) (.char hc ih)

/-- Blank lines before a line. -/
lemma blankLines {b : Text} (h : Shift u m true t t') (hb : BlankLines b) :
    Shift u m true (b ++ t) (indent u true b ++ t') := by
  induction hb with
  | nil => exact h
  | @line w b hw _ ih =>
    cases w with
    | nil => exact .newline ih
    | cons c w =>
      rw [indent_line_append_start (List.cons_ne_nil c w) (newline_notMem_of_isBlankLine hw),
        indent_newline, List.append_assoc, List.append_assoc]
      exact .blank (List.cons_ne_nil c w) hw ih

/-- Blank lines from the end of a line. -/
lemma enter {b : Text} (h : Shift u m true t t') (hb : BlankLines ('\n' :: b)) :
    Shift u m start ('\n' :: b ++ t) (indent u true ('\n' :: b) ++ t') := by
  have htail : BlankLines b := by
    generalize hx : '\n' :: b = x at hb
    cases hb with
    | nil => cases hx
    | @line w b' hw hb =>
      cases w with
      | nil =>
        cases hx
        exact hb
      | cons c w =>
        cases hx
        exact absurd hw (by simp [isBlankLine, isHorizontal])
  exact .newline (h.blankLines htail)

/-! ### Moving a block to the left -/

/-- A line that starts with text stays. -/
lemma dedentLine_text (hm : m.isBlankLine) {c : Char} (hh : isHorizontal c = false) (l : Text) :
    dedentLine m (c :: l) = c :: l := by
  have hblank : isBlankLine (c :: l) = false := by simp [isBlankLine, hh]
  cases m with
  | nil => rfl
  | cons d m =>
    have hd : d ≠ c := by
      rintro rfl
      rw [isBlankLine, List.all_cons, hh] at hm
      cases hm
    rw [dedentLine, dropStart?, if_neg hd, hblank]
    rfl

/-- What is left of the lines when they are moved to the left. Where the texts start within a line,
this line is the same. -/
lemma splitLines (hu : u.isBlankLine) (hm : m.isBlankLine) (h : Shift u m start t t') :
    ∃ l l' ls ls', Text.splitLines t = l :: ls ∧ Text.splitLines t' = l' :: ls' ∧
      ls'.map (dedentLine (u ++ m)) = ls.map (dedentLine m) ∧
      (start = true → dedentLine (u ++ m) l' = dedentLine m l) ∧ (start = false → l' = l) := by
  have hum := isBlankLine_append hu hm
  have hmn := newline_notMem_of_isBlankLine hm
  have humn := newline_notMem_of_isBlankLine hum
  have hnil : dedentLine (u ++ m) [] = dedentLine m [] := by rw [dedentLine_nil, dedentLine_nil]
  induction h with
  | nil => exact ⟨[], [], [], [], rfl, rfl, rfl, fun _ => hnil, fun _ => rfl⟩
  | newline _ ih =>
    obtain ⟨l, l', ls, ls', hl, hl', hlines, hfirst, -⟩ := ih
    refine ⟨[], [], l :: ls, l' :: ls', ?_, ?_, ?_, fun _ => hnil, fun _ => rfl⟩
    · rw [splitLines_newline, hl]
    · rw [splitLines_newline, hl']
    · rw [List.map_cons, List.map_cons, hfirst rfl, hlines]
  | @char c _ _ hc _ ih =>
    obtain ⟨l, l', ls, ls', hl, hl', hlines, -, heq⟩ := ih
    obtain rfl := heq rfl
    refine ⟨c :: l', c :: l', ls, ls', ?_, ?_, hlines, fun hf => absurd hf (by decide), fun _ => rfl⟩
    · rw [Text.splitLines, if_neg hc, hl]
    · rw [Text.splitLines, if_neg hc, hl']
  | @margin t t' _ h ih =>
    obtain ⟨l, l', ls, ls', hl, hl', hlines, -, heq⟩ := ih
    obtain rfl := heq rfl
    refine ⟨m ++ l', u ++ m ++ l', ls, ls', splitLines_append hmn hl, splitLines_append humn hl',
      hlines, fun _ => ?_, fun hf => absurd hf (by decide)⟩
    rw [List.append_assoc]
    exact dedentLine_append hu (Or.inr (List.prefix_append _ _))
  | @blank w _ _ _ hw _ ih =>
    obtain ⟨l, l', ls, ls', hl, hl', hlines, hfirst, -⟩ := ih
    have hwn := newline_notMem_of_isBlankLine hw
    have huwn := newline_notMem_of_isBlankLine (isBlankLine_append hu hw)
    refine ⟨w, u ++ w, l :: ls, l' :: ls', ?_, ?_, ?_, fun _ => ?_, fun hf => absurd hf (by decide)⟩
    · rw [splitLines_line hwn, hl]
    · rw [splitLines_line huwn, hl']
    · rw [List.map_cons, List.map_cons, hfirst rfl, hlines]
    · exact dedentLine_append hu (Or.inl hw)
  | @text c _ _ hc hh _ ih =>
    obtain ⟨l, l', ls, ls', hl, hl', hlines, -, heq⟩ := ih
    obtain rfl := heq rfl
    refine ⟨c :: l', c :: l', ls, ls', ?_, ?_, hlines, fun _ => ?_, fun hf => absurd hf (by decide)⟩
    · rw [Text.splitLines, if_neg hc, hl]
    · rw [Text.splitLines, if_neg hc, hl']
    · rw [dedentLine_text hm hh, dedentLine_text hum hh]

/-- Both blocks, moved to the left. -/
lemma dedentBlock_eq (hu : u.isBlankLine) (hm : m.isBlankLine) (h : Shift u m start t t') :
    dedentBlock (u ++ m) t' = dedentBlock m t := by
  obtain ⟨l, l', ls, ls', hl, hl', hlines, -⟩ := h.splitLines hu hm
  have hflat : ∀ (margin : Text) (lines : List Text),
      lines.flatMap (fun l => '\n' :: dedentLine margin l) =
        (lines.map (dedentLine margin)).flatMap ('\n' :: ·) := fun _ _ => by
    rw [List.flatMap_map]
  rw [dedentBlock, dedentBlock, hl, hl', hflat, hflat, List.drop_succ_cons, List.drop_succ_cons,
    List.drop_zero, List.drop_zero, hlines]

end Shift

end IndentTex.Text
