import IndentTex.Text.Blank
import Mathlib.Tactic.Lemma

/-!
# Facts about texts

How a text splits at the end of a run of characters, and after its blank lines.
-/

namespace IndentTex.Text

/-- Whether a text starts with a character that has the property `p`. -/
def starts (p : Char → Bool) (t : Text) : Bool := t.head?.any p

/-- Whether a text is empty or starts with a newline. -/
def atLineEnd (t : Text) : Bool := t.head?.all (· == '\n')

/-- The empty text starts with no character. -/
@[simp] lemma starts_nil (p : Char → Bool) : starts p [] = false := rfl

/-- A text that is not empty starts with its first character. -/
@[simp] lemma starts_cons (p : Char → Bool) (c : Char) (t : Text) : starts p (c :: t) = p c := rfl

/-- The empty text is at the end of a line. -/
@[simp] lemma atLineEnd_nil : atLineEnd [] = true := rfl

/-- A text is at the end of a line if its first character is a newline. -/
@[simp] lemma atLineEnd_cons (c : Char) (t : Text) : atLineEnd (c :: t) = (c == '\n') := rfl

variable {p : Char → Bool} {t : Text} {c : Char}

/-- What is left of a text after a run of characters. -/
lemma drop_takeWhile (p : Char → Bool) (t : Text) :
    t.drop (t.takeWhile p).length = t.dropWhile p := by
  induction t with
  | nil => rfl
  | cons a t ih => cases h : p a <;> simp [h, ih]

/-- A run of characters ends before a character that does not belong to it. -/
lemma of_head?_dropWhile (h : (t.dropWhile p).head? = some c) : p c = false := by
  have hd := List.head?_dropWhile_not p t
  rw [h] at hd
  exact hd

/-- What comes before the character that a run ends at is the run. -/
lemma exists_of_head?_dropWhile (h : (t.dropWhile p).head? = some c) :
    ∃ w r, t = w ++ c :: r ∧ w.all p := by
  obtain ⟨r, hr⟩ := List.head?_eq_some_iff.1 h
  exact ⟨t.takeWhile p, r, hr ▸ List.takeWhile_append_dropWhile.symm, List.all_takeWhile⟩

/-- The run at the start of a text ends where the text does not go on with it. -/
lemma takeWhile_run {w r : Text} (hw : w.all p) (hr : r.starts p = false) :
    (w ++ r).takeWhile p = w := by
  rw [List.takeWhile_append_of_pos (by simpa using hw)]
  cases r with
  | nil => simp
  | cons c r => simp_all

/-- A text that does not start with a run has an empty one. -/
lemma takeWhile_of_starts {r : Text} (hr : r.starts p = false) : r.takeWhile p = [] := by
  have ht := takeWhile_run (w := []) rfl hr
  rwa [List.nil_append] at ht

/-- A text without a character consists of others. -/
lemma all_ne_of_notMem {c : Char} {w : Text} (h : c ∉ w) : w.all fun d => d != c := by
  rw [List.all_eq_true]
  intro d hd
  rw [bne_iff_ne]
  rintro rfl
  exact h hd

/-- What follows the run at the start of a text. -/
lemma dropWhile_run {w r : Text} (hw : w.all p) (hr : r.starts p = false) :
    (w ++ r).dropWhile p = r := by
  rw [List.dropWhile_append_of_pos (by simpa using hw)]
  cases r with
  | nil => simp
  | cons c r => simp_all

/-- A text does not go on with the run at its start. -/
lemma starts_dropWhile (p : Char → Bool) (t : Text) : starts p (t.dropWhile p) = false := by
  cases h : t.dropWhile p with
  | nil => rfl
  | cons c r => exact of_head?_dropWhile (t := t) (by rw [h]; rfl)

/-! ### Blank lines -/

/-- Blank lines are the beginning of a text, together with the blanks before it on its line. -/
lemma blankLinesFrom_append (line t : Text) :
    ∃ r, line.reverse ++ t = blankLinesFrom line t ++ r := by
  induction t generalizing line with
  | nil => exact ⟨[], by simp [blankLinesFrom]⟩
  | cons c t ih =>
    unfold blankLinesFrom
    split
    case isTrue hc =>
      obtain ⟨r, hr⟩ := ih []
      refine ⟨r, ?_⟩
      rw [List.append_assoc, List.cons_append, ← hr, hc]
      rfl
    case isFalse =>
      split
      · obtain ⟨r, hr⟩ := ih (c :: line)
        exact ⟨r, by simpa using hr⟩
      · exact ⟨_, rfl⟩

/-- A text is its blank lines and a rest. -/
lemma blankLines_append (t : Text) : t.blankLines ++ t.drop t.blankLines.length = t := by
  obtain ⟨r, hr⟩ := blankLinesFrom_append [] t
  exact List.prefix_iff_eq_append.1 ⟨r, hr.symm⟩

/-- A blank line at the start of a text belongs to its blank lines. -/
lemma blankLinesFrom_line {w : Text} (hw : w.isBlankLine) (line r : Text) :
    blankLinesFrom line (w ++ '\n' :: r) = line.reverse ++ w ++ '\n' :: r.blankLines := by
  induction w generalizing line with
  | nil => simp [blankLinesFrom, blankLines]
  | cons c w ih =>
    simp only [isBlankLine, List.all_cons, Bool.and_eq_true] at hw
    have hc : c ≠ '\n' := by
      rintro rfl
      exact absurd hw.1 (by decide)
    rw [List.cons_append, blankLinesFrom, if_neg hc, if_pos hw.1, ih hw.2]
    simp

/-- A blank line comes before the blank lines after it. -/
lemma blankLines_line {w : Text} (hw : w.isBlankLine) (r : Text) :
    (w ++ '\n' :: r).blankLines = w ++ '\n' :: r.blankLines :=
  blankLinesFrom_line hw [] r

/-- A line that is not blank has no blank lines before it. -/
lemma blankLinesFrom_of_text {w : Text} (hw : w.isBlankLine) (hh : isHorizontal c = false)
    (hc : c ≠ '\n') (line r : Text) : blankLinesFrom line (w ++ c :: r) = [] := by
  induction w generalizing line with
  | nil => simp [blankLinesFrom, hh, hc]
  | cons a w ih =>
    simp only [isBlankLine, List.all_cons, Bool.and_eq_true] at hw
    have ha : a ≠ '\n' := by
      rintro rfl
      exact absurd hw.1 (by decide)
    rw [List.cons_append, blankLinesFrom, if_neg ha, if_pos hw.1, ih hw.2]

/-- A line with text ends the blank lines before it. -/
lemma blankLines_of_text {w : Text} (hw : w.isBlankLine) (hh : isHorizontal c = false)
    (hc : c ≠ '\n') (r : Text) : (w ++ c :: r).blankLines = [] :=
  blankLinesFrom_of_text hw hh hc [] r

/-- The first line of a text is blank and the last one, blank with more lines, or not blank. -/
lemma blank_cases (t : Text) :
    t.isBlankLine ∨ (∃ w r : Text, w.isBlankLine ∧ t = w ++ '\n' :: r) ∨
      ∃ (w : Text) (c : Char) (r : Text), w.isBlankLine ∧ isHorizontal c = false ∧ c ≠ '\n' ∧ t = w ++ c :: r := by
  have hw : (t.takeWhile isHorizontal).all isHorizontal := List.all_takeWhile
  have ht : t = t.takeWhile isHorizontal ++ t.dropWhile isHorizontal :=
    List.takeWhile_append_dropWhile.symm
  have hs := starts_dropWhile isHorizontal t
  cases hr : t.dropWhile isHorizontal with
  | nil =>
    rw [hr, List.append_nil] at ht
    rw [ht]
    exact Or.inl hw
  | cons c r =>
    rw [hr] at ht hs
    by_cases hc : c = '\n'
    · subst hc
      exact Or.inr (Or.inl ⟨_, r, hw, ht⟩)
    · exact Or.inr (Or.inr ⟨_, c, r, hw, hs, hc, ht⟩)

/-- A blank line that ends a text is read as one. -/
lemma blankLines_of_isBlankLine {w : Text} (hw : w.isBlankLine) : w.blankLines = w := by
  have hfrom : ∀ line : Text, blankLinesFrom line w = line.reverse ++ w := by
    induction w with
    | nil => simp [blankLinesFrom]
    | cons c w ih =>
      intro line
      simp only [isBlankLine, List.all_cons, Bool.and_eq_true] at hw
      have hc : c ≠ '\n' := by
        rintro rfl
        exact absurd hw.1 (by decide)
      rw [blankLinesFrom, if_neg hc, if_pos hw.1, ih hw.2]
      simp
  exact hfrom []

/-- Horizontal blanks are blanks. -/
lemma all_isBlank_of_isBlankLine {w : Text} (hw : w.isBlankLine) : w.all isBlank := by
  rw [isBlankLine, List.all_eq_true] at hw
  rw [List.all_eq_true]
  intro c hc
  have hh := hw c hc
  rw [isHorizontal, Bool.and_eq_true] at hh
  exact hh.1

/-- Blank lines hold only blanks. -/
lemma all_isBlank_blankLines (t : Text) : t.blankLines.all isBlank := by
  have hfrom : ∀ line : Text, line.all isBlank → (blankLinesFrom line t).all isBlank := by
    induction t with
    | nil =>
      intro line hl
      simpa [blankLinesFrom] using hl
    | cons c t ih =>
      intro line hl
      rw [blankLinesFrom]
      split
      · have hn : isBlank '\n' := by decide
        rw [List.all_append, List.all_reverse, hl, List.all_cons, hn, ih [] rfl]
        rfl
      · split
        case isTrue hc =>
          have hb : isBlank c := by
            rw [isHorizontal, Bool.and_eq_true] at hc
            exact hc.1
          exact ih (c :: line) (by rw [List.all_cons, hb, hl]; rfl)
        case isFalse => rfl
  exact hfrom [] rfl

/-- Blank lines consist of blanks. -/
lemma all_isBlank_of_blankLines {b : Text} (h : t.blankLines = b) : b.all isBlank :=
  h ▸ t.all_isBlank_blankLines

/-- Blank lines, each with its newline. -/
inductive BlankLines : Text → Prop where
  | nil : BlankLines []
  | line {w b : Text} : w.isBlankLine → BlankLines b → BlankLines (w ++ '\n' :: b)

/-- The blank lines before a line that is not blank. -/
lemma BlankLines.blankLines_text {b w : Text} (hb : BlankLines b) (hw : w.isBlankLine)
    (hc : isHorizontal c = false) (hn : c ≠ '\n') (r : Text) :
    (b ++ (w ++ c :: r)).blankLines = b := by
  induction hb with
  | nil => exact blankLines_of_text hw hc hn r
  | line hv _ ih =>
    rw [List.append_assoc, List.cons_append, blankLines_line hv, ih]

/-- Blank lines after a blank text belong to its blank lines. -/
lemma blankLines_append_newline {t : Text} (ht : t.blankLines = t) (r : Text) :
    (t ++ '\n' :: r).blankLines = t ++ '\n' :: r.blankLines := by
  generalize hn : t.length = n
  induction n using Nat.strongRecOn generalizing t with
  | _ n ih =>
    subst hn
    rcases blank_cases t with hb | ⟨w, s, hw, rfl⟩ | ⟨w, c, s, hw, hc, hcn, rfl⟩
    · exact blankLines_line hb r
    · rw [blankLines_line hw, List.append_right_inj, List.cons_inj_right] at ht
      rw [List.append_assoc, List.append_assoc, List.cons_append, List.cons_append,
        blankLines_line hw, ih s.length (by simp; omega) ht rfl]
    · rw [blankLines_of_text hw hc hcn] at ht
      simp at ht

/-- A text is blank, or it has a line that is not blank after its blank lines. -/
lemma blankLines_cases (t : Text) :
    t.blankLines = t ∨ ∃ (b w : Text) (c : Char) (r : Text), BlankLines b ∧ w.isBlankLine ∧
      isHorizontal c = false ∧ c ≠ '\n' ∧ t = b ++ (w ++ c :: r) := by
  generalize hn : t.length = n
  induction n using Nat.strongRecOn generalizing t with
  | _ n ih =>
    subst hn
    rcases blank_cases t with hb | ⟨w, r, hw, rfl⟩ | ⟨w, c, r, hw, hc, hcn, rfl⟩
    · exact Or.inl (blankLines_of_isBlankLine hb)
    · rcases ih r.length (by simp; omega) r rfl with hr | ⟨b, v, c, r, hb, hv, hc, hcn, rfl⟩
      · exact Or.inl (by rw [blankLines_line hw, hr])
      · exact Or.inr ⟨w ++ '\n' :: b, v, c, r, .line hw hb, hv, hc, hcn, by simp⟩
    · exact Or.inr ⟨[], w, c, r, .nil, hw, hc, hcn, rfl⟩

/-- The first line after blank lines is not blank. -/
lemma exists_text_of_blankLines {blank r : Text} (h : (blank ++ r).blankLines = blank)
    (hr : r ≠ []) : BlankLines blank ∧ ∃ (w : Text) (c : Char) (r' : Text), w.isBlankLine ∧
      isHorizontal c = false ∧ c ≠ '\n' ∧ r = w ++ c :: r' := by
  rcases blankLines_cases (blank ++ r) with ht | ⟨b, w, c, r', hb, hw, hc, hcn, ht⟩
  · rw [h] at ht
    exact absurd (List.self_eq_append_right.1 ht) hr
  · have hb' := hb.blankLines_text hw hc hcn r'
    rw [← ht, h] at hb'
    subst hb'
    exact ⟨hb, w, c, r', hw, hc, hcn, List.append_cancel_left ht⟩

/-! ### Lines -/

/-- Every text has a line. -/
lemma splitLines_ne_nil (t : Text) : splitLines t ≠ [] := by
  cases t with
  | nil => simp [splitLines]
  | cons c t =>
    rw [splitLines]
    split
    · simp
    · split <;> simp

/-- A newline at the start of a text ends an empty line. -/
lemma splitLines_newline (t : Text) : splitLines ('\n' :: t) = [] :: splitLines t := by
  simp [splitLines]

/-- Characters before the first newline belong to the first line. -/
lemma splitLines_append {w : Text} (hw : '\n' ∉ w) {t l : Text} {ls : List Text}
    (ht : splitLines t = l :: ls) : splitLines (w ++ t) = (w ++ l) :: ls := by
  induction w with
  | nil => exact ht
  | cons c w ih =>
    rw [List.mem_cons, not_or] at hw
    rw [List.cons_append, splitLines, if_neg (Ne.symm hw.1), ih hw.2]
    rfl

/-- The first line of a text ends at its first newline. -/
lemma splitLines_line {w : Text} (hw : '\n' ∉ w) (t : Text) :
    splitLines (w ++ '\n' :: t) = w :: splitLines t := by
  rw [splitLines_append hw (splitLines_newline t), List.append_nil]

/-- A text without a newline is a single line. -/
lemma splitLines_of_notMem {w : Text} (hw : '\n' ∉ w) : splitLines w = [w] := by
  have hl : splitLines (w ++ []) = [w ++ []] := splitLines_append hw rfl
  rwa [List.append_nil] at hl

/-- A blank line holds no newline. -/
lemma newline_notMem_of_isBlankLine {w : Text} (hw : w.isBlankLine) : '\n' ∉ w := by
  intro hn
  rw [isBlankLine, List.all_eq_true] at hw
  exact absurd (hw _ hn) (by decide)

/-- Whether a text is blank or its first line that is not blank is not indented. -/
def isUnindented (t : Text) : Bool :=
  ((splitLines t).find? fun l => !l.isBlankLine).all fun l => !l.starts isHorizontal

/-- An unindented text is not indented after its blank lines. -/
lemma starts_drop_blankLines (t : Text) :
    starts isHorizontal (t.drop t.blankLines.length) = !t.isUnindented := by
  generalize hn : t.length = n
  induction n using Nat.strongRecOn generalizing t with
  | _ n ih =>
    subst hn
    rcases blank_cases t with hb | ⟨w, r, hw, rfl⟩ | ⟨w, c, r, hw, hc, hcn, rfl⟩
    · have hl := splitLines_of_notMem (newline_notMem_of_isBlankLine hb)
      rw [blankLines_of_isBlankLine hb, List.drop_length, isUnindented, hl]
      simp [hb]
    · have hl := splitLines_line (newline_notMem_of_isBlankLine hw) r
      have hdrop : (w ++ '\n' :: r).drop (w ++ '\n' :: r).blankLines.length =
          r.drop r.blankLines.length := by
        rw [blankLines_line hw, List.length_append, List.length_cons, List.drop_length_add_append,
          List.drop_succ_cons]
      rw [hdrop, ih r.length (by simp; omega) r rfl, isUnindented, isUnindented, hl]
      simp [hw]
    · obtain ⟨l, ls, hr⟩ := List.exists_cons_of_ne_nil (splitLines_ne_nil r)
      have hcr : splitLines (c :: r) = (c :: l) :: ls := by
        rw [splitLines, if_neg hcn, hr]
      have hl := splitLines_append (newline_notMem_of_isBlankLine hw) hcr
      have hnb : (w ++ c :: l).isBlankLine = false := by simp [isBlankLine, hc]
      rw [blankLines_of_text hw hc hcn, isUnindented, hl, List.find?_cons, hnb]
      cases w <;> simp

/-- An unindented text is blank or has text without an indentation after its blank lines. -/
lemma isUnindented_cases {t : Text} (ht : t.isUnindented) :
    t.blankLines = t ∨ ∃ blank r, t = blank ++ r ∧ (blank ++ r).blankLines = blank ∧ r ≠ [] ∧
      starts isHorizontal r = false := by
  have happ := blankLines_append t
  have hs := starts_drop_blankLines t
  rw [ht, Bool.not_true] at hs
  by_cases hr : t.drop t.blankLines.length = []
  · rw [hr, List.append_nil] at happ
    exact Or.inl happ
  · exact Or.inr ⟨_, _, happ.symm, by rw [happ], hr, hs⟩

end IndentTex.Text
