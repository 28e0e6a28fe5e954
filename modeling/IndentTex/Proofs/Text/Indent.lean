import IndentTex.Definition
import IndentTex.Proofs.Text

/-!
# Indented texts

A text is indented by putting a unit before each of its lines that is not empty. `Text.indent` does
so in one pass. Its flag says whether a line starts where the text starts, so that it can also be
applied to a part of a text that starts within a line.
-/

namespace IndentTex.Text

/-- The text with `u` put before every line that is not empty. -/
def indented (u t : Text) : Text :=
  joinLines ((splitLines t).map fun l => if l.isEmpty then l else u ++ l)

/-- What is put before a character that may be the first one of its line. -/
def pad (u : Text) (start : Bool) : Text := if start then u else []

/-- The text with `u` put before every line that starts in it and is not empty. -/
def indent (u : Text) : Bool → Text → Text
  | _, [] => []
  | start, c :: t =>
    if c = '\n' then '\n' :: indent u true t
    else pad u start ++ c :: indent u false t

/-- Whether a line starts after a text. -/
def lineStart : Bool → Text → Bool
  | start, [] => start
  | _, c :: t => lineStart (c == '\n') t

/-- What is put before the rest of a text: `u`, if a line starts there that is not empty. -/
def lead (u : Text) (start : Bool) (r : Text) : Text := if r.atLineEnd then [] else pad u start

/-- An indented text whose last line goes on. -/
def indentOpen (u : Text) (start : Bool) (t : Text) : Text :=
  indent u start t ++ pad u (lineStart start t)

variable {u t : Text} {start : Bool} {c : Char}

/-- The start of a line is padded with the unit. -/
@[simp] lemma pad_true : pad u true = u := rfl

/-- Within a line nothing is padded. -/
@[simp] lemma pad_false : pad u false = [] := rfl

/-- The empty text has no line to indent. -/
@[simp] lemma indent_nil : indent u start [] = [] := rfl

/-- A newline is not indented, and a line starts after it. -/
@[simp] lemma indent_newline : indent u start ('\n' :: t) = '\n' :: indent u true t := rfl

/-- The first character of a line is indented, and those after it are not. -/
lemma indent_cons (hc : c ≠ '\n') :
    indent u start (c :: t) = pad u start ++ c :: indent u false t := by
  rw [indent, if_neg hc]

/-- Within a line a character stays, and a newline starts the next line. -/
lemma indent_cons_within : indent u false (c :: t) = c :: indent u (c == '\n') t := by
  by_cases hc : c = '\n'
  · subst hc
    rfl
  · have hf : (c == '\n') = false := by simpa using hc
    rw [indent_cons hc, hf]
    rfl

/-- Where nothing is read, a line starts if one has started before. -/
@[simp] lemma lineStart_nil : lineStart start [] = start := rfl

/-- The last character alone decides whether a line starts after a text. -/
@[simp] lemma lineStart_cons : lineStart start (c :: t) = lineStart (c == '\n') t := rfl

/-- Whether a line starts after two texts is seen from the first to the second. -/
lemma lineStart_append (x y : Text) :
    lineStart start (x ++ y) = lineStart (lineStart start x) y := by
  induction x generalizing start with
  | nil => rfl
  | cons c x ih => exact ih

/-- Two texts are indented one after the other. -/
lemma indent_append (x y : Text) :
    indent u start (x ++ y) = indent u start x ++ indent u (lineStart start x) y := by
  induction x generalizing start with
  | nil => rfl
  | cons c x ih =>
    by_cases hc : c = '\n'
    · subst hc
      simp [ih]
    · have hf : (c == '\n') = false := by simpa using hc
      rw [List.cons_append, indent_cons hc, indent_cons hc, ih, lineStart_cons, hf]
      simp

/-- Indentation goes before the rest of a text, and into it. -/
lemma indent_eq_lead (r : Text) : indent u start r = lead u start r ++ indent u false r := by
  cases r with
  | nil => simp [lead]
  | cons c r =>
    by_cases hc : c = '\n'
    · subst hc
      simp [lead]
    · simp [lead, indent_cons hc, hc]

/-- Nothing leads to a line that is empty. -/
lemma lead_of_atLineEnd {r : Text} (hr : r.atLineEnd) : lead u start r = [] := by
  simp [lead, hr]

/-- At the end of a line nothing depends on how it started. -/
lemma indent_of_atLineEnd (start : Bool) {r : Text} (hr : r.atLineEnd) :
    indent u start r = indent u false r := by
  rw [indent_eq_lead, lead_of_atLineEnd hr, List.nil_append]

/-- Within a line nothing changes. -/
lemma indent_of_notMem {w : Text} (hw : '\n' ∉ w) : indent u false w = w := by
  induction w with
  | nil => rfl
  | cons c w ih =>
    rw [List.mem_cons, not_or] at hw
    rw [indent_cons (Ne.symm hw.1), ih hw.2]
    rfl

/-- No line starts within a text without newlines. -/
lemma lineStart_of_notMem {w : Text} (hw : '\n' ∉ w) : lineStart false w = false := by
  induction w with
  | nil => rfl
  | cons c w ih =>
    rw [List.mem_cons, not_or] at hw
    have hc : (c == '\n') = false := by simpa using Ne.symm hw.1
    rw [lineStart_cons, hc, ih hw.2]

/-- A line that has started goes on without the unit. -/
lemma indent_line_append {w : Text} (hw : '\n' ∉ w) (r : Text) :
    indent u false (w ++ r) = w ++ indent u false r := by
  rw [indent_append, indent_of_notMem hw, lineStart_of_notMem hw]

/-- Indenting a line puts no newline into it. -/
lemma newline_notMem_indent (hu : '\n' ∉ u) {w : Text} (hw : '\n' ∉ w) : '\n' ∉ indent u start w := by
  cases w with
  | nil => simp
  | cons c w =>
    rw [List.mem_cons, not_or] at hw
    have hpad : '\n' ∉ pad u start := by cases start <;> simp [hu]
    rw [indent_cons (Ne.symm hw.1), indent_of_notMem hw.2]
    simp [hpad, hw.1, hw.2]

/-- A text that starts within a line starts with the same character. -/
lemma starts_indent (p : Char → Bool) (t : Text) : starts p (indent u false t) = starts p t := by
  cases t with
  | nil => rfl
  | cons c t =>
    by_cases hc : c = '\n'
    · subst hc
      rfl
    · rw [indent_cons hc]
      rfl

/-- Indenting keeps a text at the end of its line. -/
lemma atLineEnd_indent (t : Text) : atLineEnd (indent u false t) = atLineEnd t := by
  cases t with
  | nil => rfl
  | cons c t =>
    by_cases hc : c = '\n'
    · subst hc
      rfl
    · rw [indent_cons hc]
      rfl

/-- A text that does not start with a newline, at the start of a line. -/
lemma indent_of_starts (start : Bool) (ht : t.starts (· != '\n')) :
    indent u start t = pad u start ++ indent u false t ∧
      lineStart start t = lineStart false t := by
  cases t with
  | nil => cases ht
  | cons c t =>
    have hc : c ≠ '\n' := by simpa using ht
    rw [indent_cons hc, indent_cons hc]
    exact ⟨rfl, rfl⟩

/-! ### Texts whose last line goes on -/

/-- An open line is padded even if it is empty. -/
@[simp] lemma indentOpen_nil : indentOpen u start [] = pad u start := rfl

/-- A newline is not indented, and an open line starts after it. -/
@[simp] lemma indentOpen_newline :
    indentOpen u start ('\n' :: t) = '\n' :: indentOpen u true t := rfl

/-- The first character of an open line is indented, and those after it are not. -/
lemma indentOpen_cons (hc : c ≠ '\n') :
    indentOpen u start (c :: t) = pad u start ++ c :: indentOpen u false t := by
  have hf : (c == '\n') = false := by simpa using hc
  simp [indentOpen, indent_cons hc, hf]

/-- Within an open line a character stays, and a newline starts the next line. -/
lemma indentOpen_cons_within : indentOpen u false (c :: t) = c :: indentOpen u (c == '\n') t := by
  rw [indentOpen, indent_cons_within, List.cons_append]
  rfl

/-- Of two texts only the second can end with an open line. -/
lemma indentOpen_append (x y : Text) :
    indentOpen u start (x ++ y) = indent u start x ++ indentOpen u (lineStart start x) y := by
  rw [indentOpen, indentOpen, indent_append, lineStart_append, List.append_assoc]

/-- Where a line goes on, it does so with any character but a newline. -/
lemma indent_append_cons (hc : c ≠ '\n') (x y : Text) :
    indent u start (x ++ c :: y) = indentOpen u start x ++ c :: indent u false y := by
  rw [indent_append, indent_cons hc, indentOpen, List.append_assoc]

/-- A character ends the padding of an open line. -/
lemma indentOpen_append_cons (hc : c ≠ '\n') (x y : Text) :
    indentOpen u start (x ++ c :: y) = indentOpen u start x ++ c :: indentOpen u false y := by
  rw [indentOpen_append, indentOpen_cons hc, ← List.append_assoc]
  rfl

/-- A line without newlines is indented as a whole. -/
lemma indentOpen_of_notMem {w : Text} (hw : '\n' ∉ w) :
    indentOpen u start w = pad u start ++ w := by
  cases w with
  | nil => simp
  | cons c w =>
    rw [List.mem_cons, not_or] at hw
    rw [indentOpen_cons (Ne.symm hw.1), indentOpen, indent_of_notMem hw.2, lineStart_of_notMem hw.2]
    simp

/-- Indenting by a margin and then by a unit is indenting by both. -/
lemma indent_indent {m : Text} (hm : '\n' ∉ m) (t : Text) :
    indent u start (indent m start t) = indent (u ++ m) start t := by
  induction t generalizing start with
  | nil => rfl
  | cons c t ih =>
    by_cases hc : c = '\n'
    · subst hc
      simp [ih]
    · rw [indent_cons hc, indent_cons hc, ← ih]
      cases start with
      | false => simp [indent_cons hc]
      | true =>
        rw [pad_true, pad_true, indent_append_cons hc, indentOpen_of_notMem hm]
        simp

/-! ### Lines -/

/-- Two lines are joined by a newline. -/
lemma joinLines_cons_cons (l m : Text) (ls : List Text) :
    joinLines (l :: m :: ls) = l ++ '\n' :: joinLines (m :: ls) := rfl

/-- The lines after the first one are each put behind a newline. -/
lemma joinLines_cons (l : Text) (ls : List Text) :
    joinLines (l :: ls) = l ++ ls.flatMap ('\n' :: ·) := by
  induction ls generalizing l with
  | nil => simp [joinLines]
  | cons m ls ih =>
    rw [joinLines_cons_cons, ih, List.flatMap_cons]
    rfl

/-- The lines of a text make up the text. -/
lemma joinLines_splitLines (t : Text) : joinLines (splitLines t) = t := by
  induction t with
  | nil => rfl
  | cons c t ih =>
    obtain ⟨l, ls, hl⟩ := List.exists_cons_of_ne_nil (splitLines_ne_nil t)
    rw [splitLines]
    split
    case isTrue hc =>
      rw [hl, joinLines, ← hl, ih, hc]
      · rfl
      · simp
    case isFalse hc =>
      rw [hl] at ih ⊢
      cases ls with
      | nil => rw [← ih]; rfl
      | cons l' ls => rw [← ih]; rfl

/-- The lines of an indented text. -/
lemma splitLines_indent (hu : '\n' ∉ u) {t l : Text} {ls : List Text}
    (ht : splitLines t = l :: ls) :
    splitLines (indent u start t) =
      (if start && !l.isEmpty then u ++ l else l) ::
        ls.map fun l => if l.isEmpty then l else u ++ l := by
  induction t generalizing start l ls with
  | nil =>
    cases ht
    simp [splitLines]
  | cons c t ih =>
    obtain ⟨k, ks, hk⟩ := List.exists_cons_of_ne_nil (splitLines_ne_nil t)
    rw [splitLines, hk] at ht
    split at ht
    case isTrue hc =>
      subst hc
      cases ht
      rw [indent_newline, splitLines_newline, ih hk]
      cases k <;> simp
    case isFalse hc =>
      cases ht
      have hw : '\n' ∉ pad u start := by cases start <;> simp [hu]
      have hcons : splitLines (c :: indent u false t) =
          (c :: k) :: ls.map fun l => if l.isEmpty then l else u ++ l := by
        rw [splitLines, if_neg hc, ih hk]
        rfl
      rw [indent_cons hc, splitLines_append hw hcons]
      cases start <;> rfl

/-- Indenting line by line is indenting character by character. -/
lemma indented_eq (hu : '\n' ∉ u) (t : Text) : indented u t = indent u true t := by
  obtain ⟨l, ls, hl⟩ := List.exists_cons_of_ne_nil (splitLines_ne_nil t)
  rw [← joinLines_splitLines (indent u true t), splitLines_indent hu hl, indented, hl, List.map_cons]
  cases l <;> rfl

/-- A line with `u` before it; an empty line stays empty. -/
def indentLine (u l : Text) : Text := if l.isEmpty then l else u ++ l

/-- Lines with a number above 0 are added each with a newline and, if there is something on it, with the
margin. -/
lemma foldl_addLine (m out : Text) (ls : List Text) (n : Nat) :
    (ls.zipIdx (n + 1)).foldl (addLine m) out =
      out ++ (ls.map (indentLine m)).flatMap ('\n' :: ·) := by
  induction ls generalizing out n with
  | nil => simp
  | cons l ls ih =>
    rw [List.zipIdx_cons, List.foldl_cons, ih, List.map_cons, List.flatMap_cons, addLine,
      if_pos (Nat.succ_pos n)]
    cases l <;> simp [indentLine]

/-- A text is indented after its first line line by line. -/
lemma indentTail_of_splitLines {m t l : Text} {ls : List Text} (ht : splitLines t = l :: ls) :
    indentTail m t = joinLines (l :: ls.map (indentLine m)) := by
  rw [indentTail]
  split
  case isTrue hm =>
    -- The shorter way for the empty margin gives the same.
    have hid : indentLine m = id := by
      funext k
      cases k <;> simp [indentLine, List.isEmpty_iff.1 hm]
    rw [hid, List.map_id, ← ht, joinLines_splitLines]
  case isFalse =>
    rw [ht, List.zipIdx_cons, List.foldl_cons, foldl_addLine, joinLines_cons]
    rfl

/-- A body is indented line by line, too. -/
lemma indentBody_of_splitLines {u t l : Text} {ls : List Text} (ht : splitLines t = l :: ls) :
    indentBody u t = joinLines (l :: ls.map (indentLine u)) := by
  have hrest : ls.mapIdx (fun i line => if (i + 1 = 0 || line.isEmpty) then line else u ++ line) =
      ls.map (indentLine u) := by
    refine List.ext_getElem (by simp) fun i hi _ => ?_
    simp [indentLine]
  rw [indentBody, ht, List.mapIdx_cons, hrest]
  rfl

/-- Indenting after the first line is indenting from the first newline on. -/
lemma indentTail_eq (hu : '\n' ∉ u) (t : Text) : indentTail u t = indent u false t := by
  obtain ⟨l, ls, hl⟩ := List.exists_cons_of_ne_nil (splitLines_ne_nil t)
  rw [← joinLines_splitLines (indent u false t), splitLines_indent hu hl,
    indentTail_of_splitLines hl]
  rfl

/-! ### Blank lines -/

/-- A text is all blank lines exactly if it is all blanks. -/
lemma blankLines_eq_self_iff : t.blankLines = t ↔ t.all isBlank := by
  constructor
  · intro h
    rw [← h]
    exact t.all_isBlank_blankLines
  · intro h
    rcases blankLines_cases t with hb | ⟨b, w, c, r, -, -, hc, hn, rfl⟩
    · exact hb
    · simp only [List.all_append, List.all_cons, Bool.and_eq_true] at h
      have hb := h.2.2.1
      simp [isHorizontal, hb, hn] at hc

/-- Two blank parts make up a blank line. -/
lemma isBlankLine_append {w : Text} (hu : u.isBlankLine) (hw : w.isBlankLine) :
    (u ++ w).isBlankLine := by
  rw [isBlankLine, List.all_append, Bool.and_eq_true]
  exact ⟨hu, hw⟩

/-- Padding with a blank unit is blank. -/
lemma isBlankLine_pad (hu : u.isBlankLine) (start : Bool) : (pad u start).isBlankLine := by
  cases start with
  | false => rfl
  | true => exact hu

/-- What leads to a line is blank. -/
lemma isBlankLine_lead (hu : u.isBlankLine) (start : Bool) (r : Text) :
    (lead u start r).isBlankLine := by
  rw [lead]
  split
  · rfl
  · exact isBlankLine_pad hu start

/-- A blank text stays blank. -/
lemma indent_of_blankLines (hu : u.isBlankLine) (ht : t.blankLines = t) :
    (indent u start t).blankLines = indent u start t := by
  rw [blankLines_eq_self_iff] at ht ⊢
  induction t generalizing start with
  | nil => rfl
  | cons c t ih =>
    rw [List.all_cons, Bool.and_eq_true] at ht
    have hlead : (pad u start).all isBlank := all_isBlank_of_isBlankLine (isBlankLine_pad hu start)
    rw [indent]
    split
    · rw [List.all_cons, ih ht.2]
      decide
    · rw [List.all_append, hlead, List.all_cons, ht.1, ih ht.2]
      rfl

/-- Blanks within a line stay as they are. -/
lemma indent_blanks {w : Text} (hw : w.isBlankLine) (r : Text) :
    indent u false (w ++ r) = w ++ indent u false r :=
  indent_line_append (newline_notMem_of_isBlankLine hw) r

/-- A line starts after blank lines. -/
lemma BlankLines.lineStart_eq {b : Text} (hb : BlankLines b) : lineStart true b = true := by
  induction hb with
  | nil => rfl
  | line _ _ ih =>
    rw [lineStart_append]
    exact ih

/-- Blank lines stay blank when they are indented. -/
lemma BlankLines.indent (hu : u.isBlankLine) {b : Text} (hb : BlankLines b) :
    BlankLines (indent u true b) := by
  induction hb with
  | nil => exact .nil
  | @line w b hw _ ih =>
    have hn := newline_notMem_of_isBlankLine hw
    rw [indent_append]
    cases w with
    | nil => exact .line rfl ih
    | cons c w =>
      rw [List.mem_cons, not_or] at hn
      rw [indent_cons (Ne.symm hn.1), indent_of_notMem hn.2, pad_true]
      exact .line (isBlankLine_append hu hw) ih

/-- The first line that is not blank, indented. -/
lemma indent_text {w : Text} (hw : w.isBlankLine) (hc : c ≠ '\n') (r : Text) :
    indent u true (w ++ c :: r) = (u ++ w) ++ c :: indent u false r := by
  rw [indent_append_cons hc, indentOpen_of_notMem (newline_notMem_of_isBlankLine hw), pad_true]

/-- Blank lines and the indentation of the line after them. -/
lemma blankLines_indent (hu : u.isBlankLine) {blank r : Text}
    (hb : (blank ++ r).blankLines = blank) (hr : r ≠ []) :
    indent u true (blank ++ r) = indent u true blank ++ indent u true r ∧
      (indent u true blank ++ indent u true r).blankLines = indent u true blank ∧
      indent u true r ≠ [] ∧
      (indent u true r).takeWhile isHorizontal = u ++ r.takeWhile isHorizontal := by
  obtain ⟨hblank, w, c, r, hw, hc, hn, rfl⟩ := exists_text_of_blankLines hb hr
  have huw := isBlankLine_append hu hw
  have hs : ∀ t : Text, starts isHorizontal (c :: t) = false := fun _ => hc
  refine ⟨?_, ?_, ?_, ?_⟩
  · rw [indent_append, hblank.lineStart_eq]
  · rw [indent_text hw hn]
    exact (hblank.indent hu).blankLines_text huw hc hn _
  · rw [indent_text hw hn]
    simp
  · rw [indent_text hw hn, takeWhile_run huw (hs _), takeWhile_run hw (hs _)]

/-- The lines of a text after blank lines. -/
lemma BlankLines.splitLines_append {b : Text} (hb : BlankLines b) {y l : Text}
    (hl : l ∈ splitLines (b ++ y)) : l.isBlankLine ∨ l ∈ splitLines y := by
  induction hb with
  | nil => exact Or.inr hl
  | line hw _ ih =>
    rw [List.append_assoc, List.cons_append, splitLines_line (newline_notMem_of_isBlankLine hw),
      List.mem_cons] at hl
    rcases hl with rfl | hl
    · exact Or.inl hw
    · exact ih hl

/-! ### Moving a block to the left -/

/-- A common start of two texts can be left out before one is taken off the other. -/
lemma dropStart?_append (u m l : Text) : dropStart? (u ++ m) (u ++ l) = dropStart? m l := by
  induction u with
  | nil => rfl
  | cons c u ih => simpa [dropStart?] using ih

/-- A beginning of a text can be taken off it. -/
lemma dropStart?_of_prefix {m l : Text} (h : m <+: l) : ∃ r, dropStart? m l = some r := by
  obtain ⟨r, rfl⟩ := h
  exact ⟨r, by simpa [dropStart?] using dropStart?_append m [] r⟩

/-- An empty line has no margin. -/
lemma dedentLine_nil (m : Text) : dedentLine m [] = [] := by
  cases m <;> rfl

/-- A line that is indented by more loses more. -/
lemma dedentLine_append (hu : u.isBlankLine) {m l : Text} (hl : l.isBlankLine ∨ m <+: l) :
    dedentLine (u ++ m) (u ++ l) = dedentLine m l := by
  rw [dedentLine, dedentLine, dropStart?_append]
  rcases hl with hl | hl
  · rw [if_pos (isBlankLine_append hu hl), if_pos hl]
  · obtain ⟨r, hr⟩ := dropStart?_of_prefix hl
    rw [hr]

/-- A block that is indented by more, moved to the left by more. -/
lemma dedentBlock_indent (hu : u.isBlankLine) {m t : Text}
    (ht : ∀ l ∈ splitLines t, l.isBlankLine ∨ m <+: l) :
    dedentBlock (u ++ m) (indent u start t) = dedentBlock m t := by
  obtain ⟨l, ls, hl⟩ := List.exists_cons_of_ne_nil (splitLines_ne_nil t)
  rw [hl] at ht
  rw [dedentBlock, dedentBlock, splitLines_indent (newline_notMem_of_isBlankLine hu) hl, hl,
    List.drop_succ_cons, List.drop_succ_cons, List.drop_zero, List.drop_zero, List.flatMap_map]
  rw [List.flatMap_def, List.flatMap_def, List.map_congr_left fun k hk => ?_]
  rw [List.cons_inj_right]
  cases k with
  | nil => rw [dedentLine_nil]; exact dedentLine_nil _
  | cons c k => exact dedentLine_append hu (ht _ (List.mem_cons_of_mem _ hk))

end IndentTex.Text
