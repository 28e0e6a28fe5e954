import IndentTex.Proofs.Composition
import IndentTex.Proofs.Nesting

/-!
# Lines at one margin

The lines of a block have one margin in common, and blank lines may stand between them.
`Text.Aligned` are such lines, and every text that is not blank starts with as many of them as can
be (`Text.exists_aligned`). A block whose lines are read one by one as they stand ends with them:
what becomes of it is decided where the next line is looked for (`Scan.linesLoop_aligned`).
-/

namespace IndentTex

variable {σ : Type}

namespace Text

/-- A line that is not blank, with its margin. -/
structure IsRow (margin line : Text) : Prop where
  newline_notMem : '\n' ∉ line
  takeWhile_eq : line.takeWhile isHorizontal = margin
  not_blank : line.isBlankLine = false

/-- Lines at one margin, with blank lines in between. -/
inductive Aligned (margin : Text) : Text → Prop where
  | last {l : Text} : IsRow margin l → Aligned margin l
  | more {l b t : Text} : IsRow margin l → BlankLines b → Aligned margin t →
    Aligned margin (l ++ '\n' :: (b ++ t))

/-- What follows the last of some lines at one margin. -/
inductive Stops (margin : Text) : Text → Prop where
  | blank {t : Text} : t.atLineEnd → t.blankLines = t → Stops margin t
  | other {b w r : Text} {c : Char} : BlankLines b → w.isBlankLine → isHorizontal c = false →
    c ≠ '\n' → w ≠ margin → Stops margin ('\n' :: (b ++ (w ++ c :: r)))

variable {margin l t b w r : Text} {c : Char}

/-- A text behind a newline is all blank lines if the text is. -/
lemma blankLines_newline : blankLines ('\n' :: t) = '\n' :: t ↔ t.blankLines = t := by
  have hline : blankLines ('\n' :: t) = '\n' :: t.blankLines := blankLines_line (w := []) rfl t
  rw [hline, List.cons_inj_right]

/-- The blanks before a character that is none are the indentation. -/
lemma takeWhile_text (hw : w.isBlankLine) (hc : isHorizontal c = false) :
    (w ++ c :: r).takeWhile isHorizontal = w :=
  takeWhile_run hw hc

/-- A line with text behind its blanks. -/
lemma IsRow.of_text (hw : w.isBlankLine) (hc : isHorizontal c = false) (hn : c ≠ '\n')
    (hr : '\n' ∉ r) : IsRow w (w ++ c :: r) where
  newline_notMem := by
    simp only [List.mem_append, List.mem_cons, not_or]
    exact ⟨newline_notMem_of_isBlankLine hw, Ne.symm hn, hr⟩
  takeWhile_eq := takeWhile_text hw hc
  not_blank := by simp [isBlankLine, hc]

/-- A row is its margin and text. -/
lemma IsRow.exists_text (h : IsRow margin l) :
    margin.isBlankLine ∧ ∃ c r, isHorizontal c = false ∧ c ≠ '\n' ∧ l = margin ++ c :: r := by
  rcases blank_cases l with hb | ⟨w, r, -, rfl⟩ | ⟨w, c, r, hw, hc, hn, rfl⟩
  · rw [h.not_blank] at hb
    cases hb
  · exact absurd h.newline_notMem (by simp)
  · obtain rfl := h.takeWhile_eq
    rw [takeWhile_text hw hc]
    exact ⟨hw, c, r, hc, hn, rfl⟩

/-- Lines at one margin start with the margin and some text. -/
lemma Aligned.exists_text (h : Aligned margin t) :
    margin.isBlankLine ∧ ∃ c r, isHorizontal c = false ∧ c ≠ '\n' ∧ t = margin ++ c :: r := by
  cases h with
  | last hl => exact hl.exists_text
  | @more l b t hl =>
    obtain ⟨hm, c, r, hc, hn, rfl⟩ := hl.exists_text
    exact ⟨hm, c, r ++ '\n' :: (b ++ t), hc, hn, by simp⟩

/-- Aligned lines are not nothing. -/
lemma Aligned.ne_nil (h : Aligned margin t) : t ≠ [] := by
  obtain ⟨-, c, r, -, -, rfl⟩ := h.exists_text
  simp

/-- The blank lines before lines at one margin. -/
lemma Aligned.blankLines_append (h : Aligned margin t) (hb : BlankLines b) (r : Text) :
    (b ++ (t ++ r)).blankLines = b := by
  obtain ⟨hm, c, x, hc, hn, rfl⟩ := h.exists_text
  rw [List.append_assoc, List.cons_append]
  exact hb.blankLines_text hm hc hn (x ++ r)

/-- The indentation of aligned lines is their margin. -/
lemma Aligned.takeWhile_append (h : Aligned margin t) (r : Text) :
    (t ++ r).takeWhile isHorizontal = margin := by
  obtain ⟨hm, c, x, hc, -, rfl⟩ := h.exists_text
  rw [List.append_assoc, List.cons_append]
  exact takeWhile_text hm hc

/-- A text that stops a block is at the end of a line. -/
lemma Stops.atLineEnd (h : Stops margin t) : t.atLineEnd := by
  cases h with
  | blank h => exact h
  | other => rfl

/-- A text ends, or its first line does. -/
lemma exists_line (t : Text) : ∃ l r, t = l ++ r ∧ '\n' ∉ l ∧ r.atLineEnd := by
  refine ⟨t.takeWhile (· != '\n'), t.dropWhile (· != '\n'),
    List.takeWhile_append_dropWhile.symm, ?_, ?_⟩
  · intro hn
    simpa using List.all_eq_true.1 List.all_takeWhile _ hn
  · cases hd : t.dropWhile (· != '\n') with
    | nil => rfl
    | cons c r =>
      have hc := of_head?_dropWhile (p := (· != '\n')) (t := t) (c := c) (by rw [hd]; rfl)
      simpa using hc

/-- The lines at the margin of the first one, as many as there are. -/
lemma exists_aligned (hw : w.isBlankLine) (hc : isHorizontal c = false) (hn : c ≠ '\n') (r : Text) :
    ∃ t y, w ++ c :: r = t ++ y ∧ Aligned w t ∧ Stops w y := by
  generalize hm : r.length = m
  induction m using Nat.strongRecOn generalizing c r with
  | _ m ih =>
    subst hm
    obtain ⟨l, y, rfl, hl, hy⟩ := exists_line r
    have hrow : IsRow w (w ++ c :: l) := .of_text hw hc hn hl
    cases y with
    | nil => exact ⟨w ++ c :: l, [], by simp, .last hrow, .blank rfl rfl⟩
    | cons d y =>
      obtain rfl : d = '\n' := by simpa using hy
      rcases blankLines_cases y with hb | ⟨b, v, d, x, hb, hv, hd, hdn, rfl⟩
      · exact ⟨w ++ c :: l, '\n' :: y, by simp, .last hrow, .blank rfl (blankLines_newline.2 hb)⟩
      · by_cases hvw : v = w
        · -- The next line has the same margin, so the lines go on.
          subst hvw
          obtain ⟨t, z, ht, ha, hz⟩ := ih x.length (by simp; omega) hd hdn x rfl
          refine ⟨v ++ c :: l ++ '\n' :: (b ++ t), z, ?_, .more hrow hb ha, hz⟩
          rw [ht]
          simp
        · exact ⟨w ++ c :: l, '\n' :: (b ++ (v ++ d :: x)), by simp, .last hrow,
            .other hb hv hd hdn hvw⟩

end Text

/-! ### Reading lines one by one -/

/-- What has been read. -/
def State.before (s : State σ) : Text := s.cursor.behind.reverse

namespace State

variable {s : State σ} {w r : Text}

/-- The place of the cursor is the one after what has been read. -/
lemma location_eq (s : State σ) : s.cursor.location = .after s.before := s.cursor.location_eq

/-- The source is what has been read and what is left. -/
lemma text_eq (s : State σ) : s.cursor.text = s.before ++ s.cursor.rest := rfl

/-- Reading does not change the source. -/
@[simp] lemma text_advance (s : State σ) (n : Nat) : (s.advance n).cursor.text = s.cursor.text := by
  simp [advance, Cursor.text, Cursor.advance]

/-- What has been read after some more text. -/
lemma before_advance (hs : s.cursor.rest = w ++ r) :
    (s.advance w.length).before = s.before ++ w := by
  simp [before, advance, Cursor.advance, hs]

end State

namespace Scan

open Text

variable {s : State σ} {level next n : Nat} {i j : Indentation} {margin b w t r : Text} {c : Char}
  {cause : Cause}

/-- What `indentLevel` answers, by the indentation of the line. -/
lemma indentLevel_of_ok
    (hl : Indentation.levelOf (s.cursor.rest.takeWhile isHorizontal) s.indentation = .ok next j) :
    indentLevel s = .ok next { s with indentation := j } := by
  rw [indentLevel, Cursor.indentation, Cursor.run, hl]

/-- Where an indentation has no level, the run fails at the start of its line. -/
lemma indentLevel_of_error
    (hl : Indentation.levelOf (s.cursor.rest.takeWhile isHorizontal) s.indentation =
      .error cause j) :
    indentLevel s = .error ⟨cause, some (.after s.before)⟩ { s with indentation := j } := by
  rw [indentLevel, Cursor.indentation, Cursor.run, hl, State.location_eq]

/-- There is no next line where only blank lines follow. -/
lemma nextLine_blank (he : s.cursor.rest.atLineEnd)
    (hb : s.cursor.rest.blankLines = s.cursor.rest) (level : Nat) :
    nextLine level s = .ok none s := by
  cases hs : s.cursor.rest with
  | nil => exact nextLine_end hs level
  | cons c t =>
    obtain rfl : c = '\n' := by simpa [hs] using he
    have ht : blankLines t = t := blankLines_newline.1 (hs ▸ hb)
    have hskip : skipBlankLines (s.advance 1) = .ok t ((s.advance 1).advance t.length) := by
      rw [skipBlankLines_run, State.advance_one hs, ht]
    have hrest : ((s.advance 1).advance t.length).cursor.rest = [] := by simp [hs]
    rw [nextLine, bind_of_ok (mark_run s), bind_of_ok (isFinished_run s), ite_run, hs,
      List.isEmpty_cons, if_neg Bool.false_ne_true, bind_of_ok (skip_run 1 s), bind_of_ok hskip,
      bind_of_ok (isFinished_run _), ite_run, hrest]
    rfl

/-- Over blank lines to a line that is not blank: what is measured there decides. -/
lemma nextLine_measured (hs : s.cursor.rest = '\n' :: (b ++ r)) (hb : (b ++ r).blankLines = b)
    (hr : r ≠ []) (level : Nat) :
    nextLine level s =
      (do
        let next ← indentLevel
        if next < level then
          goTo s.cursor
          return none
        else if level < next then
          raise .strayIndentation
        else
          return some b) (s.advance (b.length + 1)) := by
  have h1 := State.advance_one hs
  have hskip : skipBlankLines (s.advance 1) = .ok b (s.advance (b.length + 1)) := by
    rw [skipBlankLines_run, h1, hb, State.advance_advance, Nat.add_comm]
  have hrest : (s.advance (b.length + 1)).cursor.rest = r := by simp [hs]
  rw [nextLine, bind_of_ok (mark_run s), bind_of_ok (isFinished_run s), ite_run, hs,
    List.isEmpty_cons, if_neg Bool.false_ne_true, bind_of_ok (skip_run 1 s), bind_of_ok hskip,
    bind_of_ok (isFinished_run _), ite_run, hrest, if_neg (by simpa using hr)]

/-- A line at the level of the block. -/
lemma nextLine_same (hs : s.cursor.rest = '\n' :: (b ++ r)) (hb : (b ++ r).blankLines = b)
    (hr : r ≠ [])
    (hl : Indentation.levelOf (r.takeWhile isHorizontal) s.indentation = .ok level j) :
    nextLine level s = .ok (some b) { s.advance (b.length + 1) with indentation := j } := by
  have hrest : (s.advance (b.length + 1)).cursor.rest = r := by simp [hs]
  rw [nextLine_measured hs hb hr, bind_of_ok (indentLevel_of_ok (by rw [hrest]; exact hl)), ite_run,
    if_neg (Nat.lt_irrefl level), ite_run, if_neg (Nat.lt_irrefl level)]
  rfl

/-- A line at a lower level, where the block ends. -/
lemma nextLine_lower (hs : s.cursor.rest = '\n' :: (b ++ r)) (hb : (b ++ r).blankLines = b)
    (hr : r ≠ []) (hl : Indentation.levelOf (r.takeWhile isHorizontal) s.indentation = .ok next j)
    (hlt : next < level) : nextLine level s = .ok none { s with indentation := j } := by
  have hrest : (s.advance (b.length + 1)).cursor.rest = r := by simp [hs]
  rw [nextLine_measured hs hb hr, bind_of_ok (indentLevel_of_ok (by rw [hrest]; exact hl)), ite_run,
    if_pos hlt, bind_of_ok (goTo_run _ _)]
  rfl

/-- A line at a higher level, which is an error. -/
lemma nextLine_deeper (hs : s.cursor.rest = '\n' :: (b ++ r)) (hb : (b ++ r).blankLines = b)
    (hr : r ≠ []) (hl : Indentation.levelOf (r.takeWhile isHorizontal) s.indentation = .ok next j)
    (hlt : level < next) :
    nextLine level s = .error ⟨.strayIndentation, some (.after (s.before ++ '\n' :: b))⟩
      { s.advance (b.length + 1) with indentation := j } := by
  have hrest : (s.advance (b.length + 1)).cursor.rest = r := by simp [hs]
  have hbefore : (s.advance (b.length + 1)).before = s.before ++ '\n' :: b :=
    State.before_advance (w := '\n' :: b) hs
  rw [nextLine_measured hs hb hr, bind_of_ok (indentLevel_of_ok (by rw [hrest]; exact hl)), ite_run,
    if_neg (Nat.lt_asymm hlt), ite_run, if_pos hlt, raise_run, State.location_eq, ← hbefore]
  rfl

/-- A line whose indentation has no level. -/
lemma nextLine_unmeasured (hs : s.cursor.rest = '\n' :: (b ++ r)) (hb : (b ++ r).blankLines = b)
    (hr : r ≠ [])
    (hl : Indentation.levelOf (r.takeWhile isHorizontal) s.indentation = .error cause j) :
    nextLine level s = .error ⟨cause, some (.after (s.before ++ '\n' :: b))⟩
      { s.advance (b.length + 1) with indentation := j } := by
  have hrest : (s.advance (b.length + 1)).cursor.rest = r := by simp [hs]
  have hbefore : (s.advance (b.length + 1)).before = s.before ++ '\n' :: b :=
    State.before_advance (w := '\n' :: b) hs
  rw [nextLine_measured hs hb hr, bind_run, indentLevel_of_error (by rw [hrest]; exact hl), hbefore]

/-- Readers that read a line of characters with the property `p` as it stands. -/
def CopiesLines (p : Char → Prop) (line : Scan σ Text) : Prop :=
  ∀ (s : State σ) (l r : Text), s.cursor.rest = l ++ r → (∀ c ∈ l, p c) → '\n' ∉ l → r.atLineEnd →
    line s = .ok l (s.advance l.length)

/-- A line that is read literally is read as it stands. -/
lemma skipLine_copies : CopiesLines (σ := σ) (fun _ => True) skipLine := by
  intro s l r hs _ hl hr
  have hline : s.cursor.rest.takeWhile (fun c => !(c == '\n')) = l :=
    Cursor.restOfLine_eq hs hl hr
  rw [skipLine, skipUntil, skipWhile_run, hline]

/-- Lines at the margin of a block are read as they stand. Behind them it is decided how the block
ends. -/
lemma linesLoop_aligned {p : Char → Prop} {line : Scan σ Text} (hline : CopiesLines p line)
    (ht : Aligned margin t) (hp : ∀ c ∈ t, p c) (hs : s.cursor.rest = t ++ r) (hr : r.atLineEnd)
    (hm : Indentation.levelOf margin s.indentation = .ok level s.indentation)
    (hx : ∀ blank s', nextLine level (s.advance t.length) ≠ .ok (some blank) s')
    (hn : t.length ≤ n) :
    linesLoop line level n s = (nextLine level >>= fun _ => pure t) (s.advance t.length) := by
  induction ht generalizing s n with
  | @last l hl =>
    obtain ⟨n, rfl⟩ : ∃ m, n = m + 1 := by
      have hne := List.length_pos_iff.2 (Aligned.last hl).ne_nil
      exact ⟨n - 1, by omega⟩
    rw [linesLoop, bind_of_ok (hline s l r hs hp hl.newline_notMem hr), bind_run, bind_run]
    cases h : nextLine level (s.advance l.length) with
    | error e s' => rfl
    | ok o s' =>
      cases o with
      | none => rfl
      | some blank => exact absurd h (hx blank s')
  | @more l b t hl hb ht ih =>
    obtain ⟨n, rfl⟩ : ∃ m, n = m + 1 := by
      have hne := List.length_pos_iff.2 (Aligned.more hl hb ht).ne_nil
      exact ⟨n - 1, by omega⟩
    have hs' : s.cursor.rest = l ++ '\n' :: (b ++ (t ++ r)) := by simpa using hs
    have hrest := State.rest_advance hs'
    have hread := hline s l _ hs' (fun c hc => hp c (by simp [hc])) hl.newline_notMem rfl
    have hnext : nextLine level (s.advance l.length) =
        .ok (some b) (s.advance (l.length + (b.length + 1))) := by
      have htake : Indentation.levelOf ((t ++ r).takeWhile isHorizontal)
          (s.advance l.length).indentation = .ok level s.indentation := by
        rw [ht.takeWhile_append]
        exact hm
      rw [nextLine_same hrest (ht.blankLines_append hb r) (by simp [ht.ne_nil]) htake,
        State.advance_advance]
      rfl
    have hlength : l.length + (b.length + 1) + t.length = (l ++ '\n' :: (b ++ t)).length := by
      simp
      omega
    have hmore := ih (s := s.advance (l.length + (b.length + 1))) (n := n)
      (fun c hc => hp c (by simp [hc])) (by simp [hs', List.drop_append]) hm
      (by rw [State.advance_advance, hlength]; exact hx) (by simp at hn; omega)
    rw [State.advance_advance, hlength] at hmore
    rw [linesLoop, bind_of_ok hread, bind_of_ok hnext]
    dsimp only
    rw [bind_run, hmore, bind_run, bind_run]
    cases nextLine level (s.advance (l ++ '\n' :: (b ++ t)).length) with
    | error e s' => rfl
    | ok o s' => simp

end Scan

end IndentTex
