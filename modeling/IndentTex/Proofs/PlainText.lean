import IndentTex.Proofs.Aligned

/-!
# The indentation of plain text

Text without control sequences and groups is copied line by line, and only its indentation can be
wrong: no environment opens, so no line may be deeper than the line before it. The main result,
`Translator.translateFragment_plain`, says which texts are accepted and where and why the others
fail.
-/

namespace IndentTex

variable {σ : Type}

/-! ### Indentations of whole texts -/

/-- A space is a unit. -/
lemma Indentation.isUnit_space : IsUnit [' '] := ⟨List.cons_ne_nil _ _, rfl⟩

namespace Text

/-- Text without control sequences and groups. -/
def IsPlain (t : Text) : Prop := ∀ c ∈ t, c ≠ '\\' ∧ c ≠ '\x7b' ∧ c ≠ '\x7d'

/-- The indentations of the lines that are not blank. -/
def indents (t : Text) : List Text :=
  ((splitLines t).filter fun l => !l.isBlankLine).map fun l => l.takeWhile isHorizontal

/-- The unit that the lines of a text establish: the first indentation that is not empty. -/
def unit? (t : Text) : Option Text := t.indents.find? fun w => w ≠ []

/-- Some lines with one and the same indentation and then some lines without one, blank lines
aside. -/
def IsRegular (t : Text) : Prop :=
  ∃ u m n, Indentation.IsUnit u ∧ t.indents = List.replicate m u ++ List.replicate n []

variable {margin l t b w r x y : Text} {c : Char}

/-- The first part of a plain text is plain. -/
lemma IsPlain.left (h : IsPlain (x ++ y)) : IsPlain x := fun c hc => h c (by simp [hc])

/-- The second part of a plain text is plain. -/
lemma IsPlain.right (h : IsPlain (x ++ y)) : IsPlain y := fun c hc => h c (by simp [hc])

/-- The indentations of two texts with a newline between them. -/
lemma indents_append_newline (x y : Text) : indents (x ++ '\n' :: y) = indents x ++ indents y := by
  simp [indents, splitLines_append_newline]

/-- Blank lines have no indentations. -/
lemma indents_of_blankLines (ht : t.blankLines = t) : indents t = [] := by
  rw [indents, List.map_eq_nil_iff, List.filter_eq_nil_iff]
  intro l hl
  rw [isBlankLine_of_mem_splitLines ht l hl]
  simp

/-- Blank lines before a text have no indentations. -/
lemma BlankLines.indents_append (hb : BlankLines b) (t : Text) : indents (b ++ t) = indents t := by
  induction hb with
  | nil => rfl
  | line hw _ ih =>
    rw [List.append_assoc, List.cons_append, indents_append_newline,
      indents_of_blankLines (blankLines_of_isBlankLine hw), ih, List.nil_append]

/-- A row has its margin for an indentation. -/
lemma IsRow.indents_eq (h : IsRow margin l) : indents l = [margin] := by
  simp [indents, splitLines_of_notMem h.newline_notMem, h.not_blank, h.takeWhile_eq]

/-- Aligned lines have their margin for indentations. -/
lemma Aligned.indents_eq (h : Aligned margin t) :
    ∃ k, indents t = List.replicate (k + 1) margin := by
  induction h with
  | last hl => exact ⟨0, hl.indents_eq⟩
  | more hl hb _ ih =>
    obtain ⟨k, hk⟩ := ih
    exact ⟨k + 1, by rw [indents_append_newline, hl.indents_eq, hb.indents_append, hk]; rfl⟩

/-- Blank lines alone have no indentations. -/
lemma BlankLines.indents_eq (hb : BlankLines b) : indents b = [] := by
  rw [← List.append_nil b, hb.indents_append]
  exact indents_of_blankLines rfl

/-- A line starts behind a newline and blank lines. -/
lemma BlankLines.lineStart_append_newline (hb : BlankLines b) (x : Text) :
    lineStart true (x ++ '\n' :: b) := by
  rw [lineStart_append]
  exact hb.lineStart_eq

/-- The indentations of a text and of what follows it on new lines. -/
lemma indents_append (hx : lineStart true x) (y : Text) :
    indents (x ++ y) = indents x ++ indents y := by
  rcases List.eq_nil_or_concat x with rfl | ⟨x, c, rfl⟩
  · rfl
  · obtain rfl : c = '\n' := by
      rw [List.concat_eq_append, lineStart_append] at hx
      simpa using hx
    rw [List.concat_eq_append, List.append_assoc, List.singleton_append, indents_append_newline,
      indents_append_newline, indents_of_blankLines (t := []) rfl, List.append_nil]

/-- Blank lines behind a text add no indentation. -/
lemma indents_append_blank (hy : y.atLineEnd) (hb : y.blankLines = y) :
    indents (x ++ y) = indents x := by
  cases y with
  | nil => rw [List.append_nil]
  | cons c y =>
    obtain rfl : c = '\n' := by simpa using hy
    rw [indents_append_newline, indents_of_blankLines (blankLines_newline.1 hb), List.append_nil]

/-- Lines without an indentation establish no unit. -/
lemma unit?_eq {k : Nat} (h : indents y = indents x ++ List.replicate k []) :
    y.unit? = x.unit? := by
  simp [unit?, h, List.find?_append]

/-- A text without indentations is regular. -/
lemma IsRegular.of_indents_nil (h : indents t = []) : IsRegular t :=
  ⟨[' '], 0, 0, Indentation.isUnit_space, h⟩

/-- The beginning of a text with a regular indentation has one. -/
lemma IsRegular.of_append (h : IsRegular (x ++ y)) (hy : y.atLineEnd) : IsRegular x := by
  obtain ⟨u, m, n, hu, he⟩ := h
  cases y with
  | nil => exact ⟨u, m, n, hu, by simpa using he⟩
  | cons c y =>
    obtain rfl : c = '\n' := by simpa using hy
    rw [indents_append_newline] at he
    have htake := congrArg (List.take (indents x).length) he
    rw [List.take_left, List.take_append, List.take_replicate, List.take_replicate] at htake
    exact ⟨u, _, _, hu, htake⟩

/-- Where the last line is indented, all lines are, in the same way. -/
lemma IsRegular.of_row (h : IsRegular (t ++ l)) (hl : IsRow w l) (ht : lineStart true t)
    (hw : w ≠ []) : Indentation.IsUnit w ∧ ∀ v ∈ indents t, v = w := by
  obtain ⟨u, m, n, hu, he⟩ := h
  rw [indents_append ht, hl.indents_eq] at he
  cases n with
  | succ n =>
    rw [List.replicate_succ', ← List.append_assoc] at he
    exact absurd (List.append_inj_right' he rfl) (by simpa using hw)
  | zero =>
    have hall := List.eq_replicate_iff.1 (he.trans (List.append_nil _))
    obtain rfl : w = u := hall.2 w (by simp)
    exact ⟨hu, fun v hv => hall.2 v (by simp [hv])⟩

/-- The unit of lines that are indented alike. -/
lemma unit?_of_indents {k : Nat} (hw : w ≠ []) (h : indents t = List.replicate (k + 1) w) :
    t.unit? = some w := by
  simp [unit?, h, List.replicate_succ, hw]

/-- The first line of a text whose indentation does not fit. -/
structure IsFirstMisfit (s before line after : Text) : Prop where
  text_eq : s = before ++ (line ++ after)
  starts_line : lineStart true before
  newline_notMem : '\n' ∉ line
  atLineEnd : after.atLineEnd
  regular : before.IsRegular
  irregular : ¬ (before ++ line).IsRegular

/-- A line that is indented although another line before it is not, or is indented in another
way. -/
lemma IsFirstMisfit.of_text (hx : lineStart true x) (hr : IsRegular x) (hw : w.isBlankLine)
    (hc : isHorizontal c = false) (hn : c ≠ '\n') (hne : w ≠ [])
    (hbad : Indentation.IsUnit w → ∃ v ∈ indents x, v ≠ w) (r : Text) :
    ∃ line after, IsFirstMisfit (x ++ (w ++ c :: r)) x line after ∧
      line.takeWhile isHorizontal = w := by
  obtain ⟨l, after, rfl, hl, ha⟩ := exists_line r
  have hrow : IsRow w (w ++ c :: l) := .of_text hw hc hn hl
  refine ⟨w ++ c :: l, after, ⟨by simp, hx, hrow.newline_notMem, ha, hr, ?_⟩, hrow.takeWhile_eq⟩
  intro hregular
  obtain ⟨hu, hall⟩ := hregular.of_row hrow hx hne
  obtain ⟨v, hv, hvw⟩ := hbad hu
  exact hvw (hall v hv)

end Text

/-! ### Measuring -/

namespace Indentation

/-- Whether an indentation can be measured: it is all spaces or all tabs, and a repetition of the
unit if there is one. -/
def Measures (unit : Option Text) (indent : Text) : Prop :=
  isUniform indent ∧ ∀ u, unit = some u → ∃ n, indent = u.times n

variable {i j : Indentation} {indent u : Text} {cause : Cause}

/-- A repetition of a unit is uniform. -/
lemma IsUnit.isUniform_times (hu : IsUnit u) (n : Nat) : isUniform (u.times n) := by
  obtain ⟨a, m, ha, rfl⟩ := hu.exists_replicate
  rw [times_replicate]
  exact isUniform_iff.2 ⟨a, ha, by rw [List.length_replicate]⟩

/-- What is measured has a level, and nothing else has one. -/
lemma measures_iff (hi : i.IsValid) (indent : Text) :
    Measures i.unit indent ↔ ∃ level j, levelOf indent i = .ok level j := by
  obtain ⟨_ | u⟩ := i
  · constructor
    · intro h
      by_cases hne : indent = []
      · subst hne
        exact ⟨0, _, rfl⟩
      · exact ⟨1, _, levelOf_unset ⟨hne, h.1⟩⟩
    · rintro ⟨level, j, h⟩
      refine ⟨?_, nofun⟩
      rcases levelOf_unset_ok h with ⟨rfl, -, -⟩ | ⟨hu, -, -⟩
      · rfl
      · exact hu.uniform
  · have hu : IsUnit u := hi u rfl
    constructor
    · rintro ⟨-, h⟩
      obtain ⟨n, rfl⟩ := h u rfl
      exact ⟨n, _, levelOf_ofUnit hu n⟩
    · rintro ⟨level, j, h⟩
      obtain ⟨rfl, -⟩ := levelOf_ofUnit_ok hu h
      refine ⟨hu.isUniform_times level, ?_⟩
      rintro _ ⟨⟩
      exact ⟨level, rfl⟩

/-- The unit itself is at level 1. -/
lemma IsUnit.levelOf_one (hu : IsUnit u) : levelOf u (ofUnit u) = .ok 1 (ofUnit u) := by
  simpa [Text.times] using levelOf_ofUnit hu 1

/-- A unit is valid once it is set. -/
lemma IsUnit.isValid (hu : IsUnit u) : (ofUnit u).IsValid := by
  rintro _ ⟨⟩
  exact hu

/-- An indentation without a level is invalid. -/
lemma kind_of_levelOf_error (h : levelOf indent i = .error cause j) :
    cause.kind = .invalidIndentation := by
  rw [levelOf_run] at h
  repeat' split at h
  all_goals cases h
  all_goals rfl

/-- An indentation that is at the level of another one is the same. -/
lemma eq_of_levelOf {level : Nat} {w : Text} {k : Indentation} (hi : i.IsValid)
    (h : levelOf indent i = .ok level i) (hw : levelOf w i = .ok level k) : w = indent := by
  obtain ⟨_ | u⟩ := i
  · rcases levelOf_unset_ok h with ⟨rfl, rfl, -⟩ | ⟨-, -, hj⟩
    · exact eq_nil_of_levelOf hw
    · cases hj
  · have hu : IsUnit u := hi u rfl
    rw [(levelOf_ofUnit_ok hu h).1, (levelOf_ofUnit_ok hu hw).1]

end Indentation

/-! ### Reading plain lines -/

/-- The outermost level never goes back. -/
lemma Level.outermost_onward (S : Setup σ) : (Level.outermost S).Onward :=
  Level.ofRoom_onward S maxNesting

namespace Scan

open Text

variable {S : Setup σ} {inner : Level σ} {s : State σ} {level next n : Nat} {j : Indentation}
  {margin b l w t r y : Text} {c : Char}

/-- The end of a line ends a plain run. -/
lemma starts_of_atLineEnd (hr : r.atLineEnd) : r.starts (fun c => !endsLineRun c) = false := by
  cases r with
  | nil => rfl
  | cons c r =>
    obtain rfl : c = '\n' := by simpa using hr
    rfl

/-- Nothing is left to read at the end of a line. -/
lemma lineLoop_end (hs : s.cursor.rest.atLineEnd) (n : Nat) :
    lineLoop S inner level false n s = .ok [] s := by
  cases n with
  | zero => rfl
  | succ n =>
    have hskip : skipWhile (fun c => !endsLineRun c) s = .ok [] s := by
      rw [skipWhile_run, takeWhile_of_starts (starts_of_atLineEnd hs)]
      exact congrArg _ s.advance_zero
    rw [lineLoop, skipUntil, bind_of_ok hskip, bind_of_ok (peek_run s)]
    cases hr : s.cursor.rest with
    | nil => rfl
    | cons c r =>
      obtain rfl : c = '\n' := by simpa [hr] using hs
      rfl

/-- A plain line is copied, with the comment that may stand on it. -/
lemma lineLoop_plain (hs : s.cursor.rest = l ++ r) (hp : IsPlain l) (hl : '\n' ∉ l)
    (hr : r.atLineEnd) (hn : l.length ≤ n) :
    lineLoop S inner level false n s = .ok l (s.advance l.length) := by
  cases n with
  | zero =>
    obtain rfl : l = [] := List.eq_nil_of_length_eq_zero (Nat.le_zero.1 hn)
    rw [lineLoop_end (by rw [hs]; exact hr), List.length_nil, State.advance_zero]
  | succ n =>
    obtain ⟨w, x, rfl, hw, hx⟩ : ∃ w x, l = w ++ x ∧ (w.all fun c => !endsLineRun c) ∧
        x.starts (fun c => !endsLineRun c) = false :=
      ⟨_, _, List.takeWhile_append_dropWhile.symm, List.all_takeWhile, starts_dropWhile _ l⟩
    have hstart : (x ++ r).starts (fun c => !endsLineRun c) = false := by
      cases x with
      | nil => exact starts_of_atLineEnd hr
      | cons c x => exact hx
    have hs' : s.cursor.rest = w ++ (x ++ r) := by rw [hs, List.append_assoc]
    have hskip : skipWhile (fun c => !endsLineRun c) s = .ok w (s.advance w.length) := by
      rw [skipWhile_run, hs', takeWhile_run hw hstart]
    have hrest := State.rest_advance hs'
    rw [lineLoop, skipUntil, bind_of_ok hskip, bind_of_ok (peek_run _), hrest]
    cases x with
    | nil =>
      rw [List.append_nil, List.nil_append]
      cases r with
      | nil => rfl
      | cons c r =>
        obtain rfl : c = '\n' := by simpa using hr
        rfl
    | cons d x =>
      -- Of the characters that end a run only the percent sign can stand on a plain line.
      obtain rfl : d = '%' := by
        obtain ⟨h1, h2, h3⟩ := hp d (by simp)
        have h4 : d ≠ '\n' := fun h => hl (by simp [h])
        simpa [endsLineRun, h1, h2, h3, h4] using hx
      have hnote : '\n' ∉ x := fun h => hl (by simp [h])
      have hcomment := skipLine_copies ((s.advance w.length).advance 1) x r
        (State.advance_one hrest) (fun _ _ => trivial) hnote hr
      have hend : (((s.advance w.length).advance 1).advance x.length).cursor.rest = r :=
        State.rest_advance (State.advance_one hrest)
      rw [List.cons_append, List.head?_cons]
      dsimp only
      rw [if_neg (by decide), if_pos rfl, bind_of_ok (skip_run 1 _), comment, bind_run,
        bind_of_ok hcomment, pure_run]
      dsimp only
      rw [bind_of_ok (lineLoop_end (by rw [hend]; exact hr) n), State.advance_advance,
        State.advance_advance, pure_run, List.append_nil, List.length_append, List.length_cons]
      congr 2
      omega

/-- Plain lines are copied at every level that has room for a line. -/
lemma line_copies (S : Setup σ) (room level : Nat) :
    CopiesLines (fun c => c ≠ '\\' ∧ c ≠ '\x7b' ∧ c ≠ '\x7d')
      ((Level.ofRoom S (room + 1)).line level false) := by
  intro s l r hs hp hl hr
  exact lineLoop_plain hs hp hl hr (by rw [hs, List.length_append]; exact Nat.le_add_right _ _)

/-- Plain lines at one margin are copied, and what follows decides whether the block ends. -/
lemma blockLines_plain (S : Setup σ) (ht : Aligned margin t) (hp : IsPlain t)
    (hs : s.cursor.rest = t ++ r) (hr : r.atLineEnd)
    (hm : Indentation.levelOf margin s.indentation = .ok level s.indentation)
    (hx : ∀ blank s', nextLine level (s.advance t.length) ≠ .ok (some blank) s') :
    blockLines (.outermost S) level s =
      (nextLine level >>= fun _ => pure t) (s.advance t.length) := by
  rw [blockLines, bounded_run, blockLoop_eq_linesLoop]
  refine linesLoop_aligned (line_copies S 127 level) ht hp hs hr hm hx ?_
  rw [hs, List.length_append]
  exact Nat.le_add_right _ _

/-- Plain lines are a block if there is no next line. -/
lemma blockLines_plain_none (S : Setup σ) (ht : Aligned margin t) (hp : IsPlain t)
    (hs : s.cursor.rest = t ++ r) (hr : r.atLineEnd)
    (hm : Indentation.levelOf margin s.indentation = .ok level s.indentation)
    (hx : nextLine level (s.advance t.length) = .ok none (s.advance t.length)) :
    blockLines (.outermost S) level s = .ok t (s.advance t.length) := by
  rw [blockLines_plain S ht hp hs hr hm (by simp [hx]), bind_of_ok hx, pure_run]

/-- Plain lines fail as the way to the next line does. -/
lemma blockLines_plain_error (S : Setup σ) (ht : Aligned margin t) (hp : IsPlain t)
    (hs : s.cursor.rest = t ++ r) (hr : r.atLineEnd)
    (hm : Indentation.levelOf margin s.indentation = .ok level s.indentation) {e : Error}
    {s' : State σ} (hx : nextLine level (s.advance t.length) = .error e s') :
    blockLines (.outermost S) level s = .error e s' := by
  rw [blockLines_plain S ht hp hs hr hm (by simp [hx]), bind_run, hx]

/-! ### Where the indentation is wrong -/

/-- The error of a line that is out of place: its kind says whether the indentation can be
measured. -/
structure Misplaced (unit : Option Text) (indent before : Text) (e : Error) : Prop where
  location_eq : e.location = some (.after before)
  unexpected : Indentation.Measures unit indent → e.kind = .unexpectedIndentation
  invalid : ¬ Indentation.Measures unit indent → e.kind = .invalidIndentation

/-- A line that is neither at the level of the block nor at a lower one is out of place. -/
lemma nextLine_misplaced (hi : s.indentation.IsValid)
    (hs : s.cursor.rest = '\n' :: (b ++ (w ++ c :: r))) (hb : BlankLines b) (hw : w.isBlankLine)
    (hc : isHorizontal c = false) (hn : c ≠ '\n') (hne : w ≠ margin)
    (hm : Indentation.levelOf margin s.indentation = .ok level s.indentation)
    (hlow : ∀ next j, Indentation.levelOf w s.indentation = .ok next j → level ≤ next) :
    ∃ e s', nextLine level s = .error e s' ∧ s'.host = s.host ∧
      Misplaced s.indentation.unit w (s.before ++ '\n' :: b) e := by
  have hblank := hb.blankLines_text hw hc hn r
  have htake := takeWhile_text (r := r) hw hc
  have htext : w ++ c :: r ≠ [] := by simp
  cases hl : Indentation.levelOf w s.indentation with
  | ok next j =>
    have hmeasured := (Indentation.measures_iff hi w).2 ⟨next, j, hl⟩
    have hlt : level < next := by
      refine Nat.lt_of_le_of_ne (hlow next j hl) ?_
      rintro rfl
      exact hne (Indentation.eq_of_levelOf hi hm hl)
    exact ⟨_, _, nextLine_deeper hs hblank htext (htake ▸ hl) hlt, rfl,
      ⟨rfl, fun _ => rfl, fun h => absurd hmeasured h⟩⟩
  | error cause j =>
    have hnot : ¬ Indentation.Measures s.indentation.unit w := by
      intro h
      obtain ⟨next, k, hk⟩ := (Indentation.measures_iff hi w).1 h
      rw [hl] at hk
      cases hk
    exact ⟨_, _, nextLine_unmeasured hs hblank htext (htake ▸ hl), rfl,
      ⟨rfl, fun h => absurd h hnot, fun _ => Indentation.kind_of_levelOf_error hl⟩⟩

/-- A block whose first line is indented in a mixed way. -/
lemma block_unmeasured {inner : Level σ} {cause : Cause} (hs : s.cursor.rest = b ++ r)
    (hb : (b ++ r).blankLines = b) (hne : r ≠ [])
    (hl : Indentation.levelOf (r.takeWhile isHorizontal) s.indentation = .error cause j) :
    block inner s = .error ⟨cause, some (.after (s.before ++ b))⟩
      { s.advance b.length with indentation := j } := by
  have hrest := State.rest_advance hs
  have hskip : skipBlankLines s = .ok b (s.advance b.length) := by
    rw [skipBlankLines_run, hs, hb]
  rw [block, bind_of_ok hskip, bind_of_ok (isFinished_run _), ite_run, hrest,
    if_neg (by simpa using hne), bind_run, indentLevel_of_error (by rw [hrest]; exact hl),
    State.before_advance hs]

/-- The rest of a text is copied and its indentation is right, or the run fails at the first line
that does not fit. -/
def Judged (S : Setup σ) (s : State σ) : Prop :=
  (s.cursor.text.IsRegular ∧ ∃ s', fragment (.outermost S) s = .ok s.cursor.rest s') ∨
    ∃ before line after e s', IsFirstMisfit s.cursor.text before line after ∧
      Misplaced before.unit? (line.takeWhile isHorizontal) before e ∧
      fragment (.outermost S) s = .error e s'

/-- Once a line is not indented, no line may be. -/
lemma judged_unindented (S : Setup σ) {u : Text} {m : Nat} (hu : Indentation.IsUnit u)
    (hi : s.indentation.IsValid) (hunit : s.indentation.unit = s.before.unit?)
    (hbefore : lineStart true s.before) (hind : s.before.indents = List.replicate m u)
    (hp : IsPlain s.cursor.rest) (hs : s.cursor.rest = b ++ c :: r) (hb : BlankLines b)
    (hc : isHorizontal c = false) (hn : c ≠ '\n') : Judged S s := by
  obtain ⟨t, y, hty, ht, hy⟩ := exists_aligned (w := []) rfl hc hn r
  rw [List.nil_append] at hty
  rw [hty] at hs
  rw [hs] at hp
  obtain ⟨k, hk⟩ := ht.indents_eq
  have hrest := State.rest_advance hs
  have hrest' := State.rest_advance hrest
  have hm : Indentation.levelOf [] (s.advance b.length).indentation =
    .ok 0 (s.advance b.length).indentation := rfl
  have hstart : (t ++ y).starts isHorizontal = false := by
    rw [← hty]
    exact hc
  have hfragment := fragment_unindented (Level.outermost_sound S) hs (ht.blankLines_append hb y)
    (by simp [ht.ne_nil]) hstart
  cases hy with
  | blank he hyb =>
    have hnext := nextLine_blank (s := (s.advance b.length).advance t.length)
      (by rw [hrest']; exact he) (by rw [hrest', hyb]) 0
    rw [blockLines_plain_none S ht hp.right.left hrest he hm hnext] at hfragment
    dsimp only at hfragment
    rw [hrest', List.append_assoc, ← hs] at hfragment
    refine Or.inl ⟨⟨u, m, k + 1, hu, ?_⟩, _, hfragment⟩
    rw [State.text_eq, hs, indents_append hbefore, hb.indents_append, indents_append_blank he hyb,
      hind, hk]
  | @other b' w r' c' hb' hw hc' hn' hne =>
    obtain ⟨e, s', hnext, -, he⟩ := nextLine_misplaced
      (s := (s.advance b.length).advance t.length) hi hrest' hb' hw hc' hn' hne hm
      (fun _ _ _ => Nat.zero_le _)
    rw [blockLines_plain_error S ht hp.right.left hrest rfl hm hnext] at hfragment
    rw [State.before_advance hrest, State.before_advance hs] at he
    -- The line that does not fit follows the lines without an indentation.
    have hx : indents (s.before ++ b ++ t ++ '\n' :: b') =
        s.before.indents ++ List.replicate (k + 1) [] := by
      rw [indents_append_newline, hb'.indents_eq, List.append_nil, List.append_assoc,
        indents_append hbefore, hb.indents_append, hk]
    obtain ⟨line, after, hmisfit, hindent⟩ := IsFirstMisfit.of_text
      (hb'.lineStart_append_newline _) ⟨u, m, k + 1, hu, by rw [hx, hind]⟩ hw hc' hn' hne
      (fun _ => ⟨[], by rw [hx]; simp, Ne.symm hne⟩) r'
    have htext : s.cursor.text = s.before ++ b ++ t ++ '\n' :: b' ++ (w ++ c' :: r') := by
      simp [State.text_eq, hs]
    refine Or.inr ⟨_, line, after, e, s', htext ▸ hmisfit, ?_, hfragment⟩
    rw [hindent, unit?_eq hx, ← hunit]
    exact he

/-- Blank lines are copied. -/
lemma judged_blank (S : Setup σ) (hr : s.cursor.text.IsRegular)
    (hs : s.cursor.rest.blankLines = s.cursor.rest) : Judged S s :=
  Or.inl ⟨hr, _, fragmentLoop_blank hs _⟩

/-- A fragment fails where its first block does. -/
lemma fragment_of_block_error {e : Error} {s' : State σ}
    (h : block (.outermost S) s = .error e s') : fragment (.outermost S) s = .error e s' := by
  rw [fragment_unfold (Level.outermost_onward S), bind_run, h]

/-- A fragment ends where its first block does, or goes on behind it. -/
lemma fragment_of_block {s₁ : State σ} (hblock : block (.outermost S) s = .ok t s₁) :
    fragment (.outermost S) s =
      if s₁.cursor.rest.isEmpty then .ok t s₁
      else ((t ++ '\n' :: ·) <$> fragment (.outermost S)) (s₁.advance 1) := by
  rw [fragment_unfold (Level.outermost_onward S), bind_of_ok hblock, bind_of_ok (isFinished_run _),
    ite_run]
  rfl

/-- A block that is copied can be left out. -/
lemma Judged.of_block {s₁ : State σ} (hblock : block (.outermost S) s = .ok t s₁)
    (hs : s.cursor.rest = t ++ '\n' :: y) (hrest : s₁.cursor.rest = '\n' :: y)
    (htext : s₁.cursor.text = s.cursor.text) (h : Judged S (s₁.advance 1)) : Judged S s := by
  have hfragment := fragment_of_block hblock
  rw [hrest, List.isEmpty_cons, if_neg Bool.false_ne_true, map_run] at hfragment
  rw [Judged, State.text_advance, htext, State.advance_one hrest] at h
  rcases h with ⟨hr, s', hs'⟩ | ⟨before, line, after, e, s', hmisfit, he, hs'⟩
  · refine Or.inl ⟨hr, s', ?_⟩
    rw [hfragment, hs', hs]
  · refine Or.inr ⟨before, line, after, e, s', hmisfit, he, ?_⟩
    rw [hfragment, hs']

/-- A run that starts with lines indented by `w`, and its state behind them. -/
structure Opens (S : Setup σ) (w t : Text) (s s₁ : State σ) : Prop where
  isUnit : Indentation.IsUnit w
  rest_eq : s.cursor.rest = t ++ s₁.cursor.rest
  before_eq : s₁.before = t
  text_eq : s₁.cursor.text = s.cursor.text
  indentation_eq : s₁.indentation = .ofUnit w
  indents_eq : ∃ k, t.indents = List.replicate (k + 1) w
  isPlain : IsPlain s₁.cursor.rest
  block_eq : (∀ blank s', nextLine 1 s₁ ≠ .ok (some blank) s') →
    block (.outermost S) s = (nextLine 1 >>= fun _ => pure t) s₁

/-- A first line that is indented gives the unit. -/
lemma Opens.of_aligned (S : Setup σ) (hu : Indentation.IsUnit w) (hi : s.indentation = .unset)
    (hbefore : s.before = []) (hp : IsPlain s.cursor.rest) (hs : s.cursor.rest = b ++ (t ++ y))
    (hb : BlankLines b) (ht : Aligned w t) (hy : y.atLineEnd) :
    ∃ s₁, s₁.cursor.rest = y ∧ Opens S w (b ++ t) s s₁ := by
  obtain ⟨s₁, hs₁⟩ : ∃ s₁ : State σ, s₁ = { s.advance b.length with indentation := .ofUnit w } :=
    ⟨_, rfl⟩
  rw [hs] at hp
  have hrest : s₁.cursor.rest = t ++ y := by
    rw [hs₁]
    exact State.rest_advance hs
  have hbefore₁ : s₁.before = s.before ++ b := by
    rw [hs₁]
    exact State.before_advance hs
  have htext : s₁.cursor.text = s.cursor.text := by
    rw [hs₁]
    exact State.text_advance s b.length
  have hi₁ : s₁.indentation = .ofUnit w := by rw [hs₁]
  have hrest₁ := State.rest_advance hrest
  refine ⟨s₁.advance t.length, hrest₁, hu, ?_, ?_, ?_, hi₁, ?_, ?_, fun hx => ?_⟩
  · rw [hrest₁, hs, List.append_assoc]
  · rw [State.before_advance hrest, hbefore₁, hbefore, List.nil_append]
  · rw [State.text_advance, htext]
  · rw [hb.indents_append]
    exact ht.indents_eq
  · rw [hrest₁]
    exact hp.right.right
  · have hm : Indentation.levelOf w s₁.indentation = .ok 1 s₁.indentation := by
      rw [hi₁]
      exact hu.levelOf_one
    have hblock : block (.outermost S) s = ((b ++ ·) <$> blockLines (.outermost S) 1) s₁ := by
      rw [hs₁]
      refine block_run hs (ht.blankLines_append hb y) (by simp [ht.ne_nil]) ?_
      rw [ht.takeWhile_append, hi]
      exact Indentation.levelOf_unset hu
    rw [hblock, map_run, blockLines_plain S ht hp.right.left hrest hy hm hx, bind_run, bind_run]
    cases nextLine 1 (s₁.advance t.length) <;> rfl

namespace Opens

variable {s₁ : State σ}

/-- A block of plain lines is all of its lines if there is no next one. -/
lemma block_of_none (h : Opens S w t s s₁) (hx : nextLine 1 s₁ = .ok none s₁) :
    block (.outermost S) s = .ok t s₁ := by
  rw [h.block_eq (by simp [hx]), bind_of_ok hx, pure_run]

/-- Nothing but blank lines follows. -/
lemma judged_of_blank (h : Opens S w t s s₁) (he : s₁.cursor.rest.atLineEnd)
    (hb : s₁.cursor.rest.blankLines = s₁.cursor.rest) : Judged S s := by
  obtain ⟨k, hk⟩ := h.indents_eq
  have hregular : s.cursor.text.IsRegular := by
    refine ⟨w, k + 1, 0, h.isUnit, ?_⟩
    rw [← h.text_eq, State.text_eq, h.before_eq, indents_append_blank he hb, hk]
    exact (List.append_nil _).symm
  have hblock := h.block_of_none (nextLine_blank he hb 1)
  have hrest := h.rest_eq
  cases hy : s₁.cursor.rest with
  | nil =>
    refine Or.inl ⟨hregular, s₁, ?_⟩
    rw [fragment_of_block hblock, hrest, hy, List.append_nil]
    rfl
  | cons d y =>
    obtain rfl : d = '\n' := by simpa [hy] using he
    rw [hy] at hrest hb
    refine .of_block hblock hrest hy h.text_eq (judged_blank S ?_ ?_)
    · rw [State.text_advance, h.text_eq]
      exact hregular
    · rw [State.advance_one hy]
      exact blankLines_newline.1 hb

/-- A line that is not indented follows: the block ends, and the next one is not indented. -/
lemma judged_of_unindented (h : Opens S w t s s₁) (hs : s₁.cursor.rest = '\n' :: (b ++ c :: r))
    (hb : BlankLines b) (hc : isHorizontal c = false) (hn : c ≠ '\n') : Judged S s := by
  obtain ⟨k, hk⟩ := h.indents_eq
  have hlow : nextLine 1 s₁ = .ok none s₁ :=
    nextLine_lower hs (hb.blankLines_text (w := []) rfl hc hn r) (by simp)
      (by rw [List.takeWhile_cons_of_neg (by simp [hc])]; rfl) Nat.zero_lt_one
  have hbefore : (s₁.advance 1).before = t ++ ['\n'] := by
    rw [← h.before_eq]
    exact State.before_advance (w := ['\n']) hs
  have hindents : indents (t ++ ['\n']) = List.replicate (k + 1) w := by
    rw [indents_append_newline, hk, BlankLines.nil.indents_eq, List.append_nil]
  have hplain : IsPlain (s₁.advance 1).cursor.rest := by
    have hp := h.isPlain
    rw [hs] at hp
    rw [State.advance_one hs]
    exact hp.right (x := ['\n'])
  refine .of_block (h.block_of_none hlow) (hs ▸ h.rest_eq) hs h.text_eq ?_
  refine judged_unindented S (m := k + 1) h.isUnit ?_ ?_ ?_ ?_ hplain (State.advance_one hs) hb hc
    hn
  · rw [State.advance_indentation, h.indentation_eq]
    exact h.isUnit.isValid
  · rw [State.advance_indentation, h.indentation_eq, hbefore,
      unit?_of_indents h.isUnit.ne_nil hindents]
    rfl
  · rw [hbefore]
    exact BlankLines.nil.lineStart_append_newline t
  · rw [hbefore, hindents]

/-- A line that is indented in another way follows. -/
lemma judged_of_indented (h : Opens S w t s s₁) {v : Text}
    (hs : s₁.cursor.rest = '\n' :: (b ++ (v ++ c :: r))) (hb : BlankLines b) (hv : v.isBlankLine)
    (hc : isHorizontal c = false) (hn : c ≠ '\n') (hne : v ≠ w) (hv' : v ≠ []) : Judged S s := by
  obtain ⟨k, hk⟩ := h.indents_eq
  have hm : Indentation.levelOf w s₁.indentation = .ok 1 s₁.indentation := by
    rw [h.indentation_eq]
    exact h.isUnit.levelOf_one
  obtain ⟨e, s', hx, -, he⟩ := nextLine_misplaced
    (by rw [h.indentation_eq]; exact h.isUnit.isValid) hs hb hv hc hn hne hm
    (fun next _ hl => Nat.pos_of_ne_zero fun hz => hv' (Indentation.eq_nil_of_levelOf (hz ▸ hl)))
  have hfragment : fragment (.outermost S) s = .error e s' := by
    apply fragment_of_block_error
    rw [h.block_eq (by simp [hx]), bind_run, hx]
  have hindents : indents (t ++ '\n' :: b) = List.replicate (k + 1) w := by
    rw [indents_append_newline, hk, hb.indents_eq, List.append_nil]
  obtain ⟨line, after, hmisfit, hindent⟩ := IsFirstMisfit.of_text
    (hb.lineStart_append_newline t) ⟨w, k + 1, 0, h.isUnit, by rw [hindents]; simp⟩ hv hc hn hv'
    (fun _ => ⟨w, by rw [hindents]; simp, Ne.symm hne⟩) r
  have htext : s.cursor.text = t ++ '\n' :: b ++ (v ++ c :: r) := by
    rw [← h.text_eq, State.text_eq, hs, h.before_eq]
    simp
  refine Or.inr ⟨_, line, after, e, s', htext ▸ hmisfit, ?_, hfragment⟩
  rw [h.before_eq, h.indentation_eq] at he
  rw [hindent, unit?_of_indents h.isUnit.ne_nil hindents]
  exact he

end Opens

/-- A first line that is indented in a mixed way is reported. -/
lemma judged_mixed (S : Setup σ) (hbefore : s.before = [])
    (hs : s.cursor.rest = b ++ (w ++ c :: r)) (hb : BlankLines b) (hw : w.isBlankLine)
    (hc : isHorizontal c = false) (hn : c ≠ '\n') (hne : w ≠ []) (hu : ¬ Indentation.IsUnit w) :
    Judged S s := by
  have hmixed : Indentation.isUniform w = false := by
    rw [← Bool.not_eq_true]
    exact fun h => hu ⟨hne, h⟩
  have hlevel : Indentation.levelOf ((w ++ c :: r).takeWhile isHorizontal) s.indentation =
      .error .mixedIndentation s.indentation := by
    rw [takeWhile_text hw hc, Indentation.levelOf_run, if_pos hmixed]
  have hfragment := fragment_of_block_error (S := S)
    (block_unmeasured hs (hb.blankLines_text hw hc hn r) (by simp) hlevel)
  obtain ⟨line, after, hmisfit, hindent⟩ := IsFirstMisfit.of_text hb.lineStart_eq
    (IsRegular.of_indents_nil hb.indents_eq) hw hc hn hne (fun h => absurd h hu) r
  have htext : s.cursor.text = b ++ (w ++ c :: r) := by
    rw [State.text_eq, hbefore, hs, List.nil_append]
  refine Or.inr ⟨b, line, after, _, _, htext ▸ hmisfit, ?_, hfragment⟩
  rw [hbefore, List.nil_append, hindent]
  exact ⟨rfl, fun h => absurd h.1 (by rw [hmixed]; exact Bool.false_ne_true), fun _ => rfl⟩

/-- A plain text is copied, or its first line that does not fit is reported. -/
lemma judged_start (S : Setup σ) (hp : IsPlain t) (h : σ) : Judged S (.start t h) := by
  rcases blankLines_cases t with hb | ⟨b, w, c, r, hb, hw, hc, hn, rfl⟩
  · exact judged_blank S (IsRegular.of_indents_nil (indents_of_blankLines hb)) hb
  by_cases hne : w = []
  · subst hne
    exact judged_unindented S (m := 0) Indentation.isUnit_space Indentation.isValid_unset rfl rfl
      rfl hp rfl hb hc hn
  by_cases hu : Indentation.IsUnit w
  · obtain ⟨t, y, hty, ht, hy⟩ := exists_aligned hw hc hn r
    rw [hty] at hp ⊢
    obtain ⟨s₁, hs₁, ho⟩ := Opens.of_aligned (s := .start (b ++ (t ++ y)) h) S hu rfl rfl hp rfl hb
      ht hy.atLineEnd
    cases hy with
    | blank he hyb =>
      rw [← hs₁] at he hyb
      exact ho.judged_of_blank he hyb
    | @other b' v r' c' hb' hv hc' hn' hvw =>
      by_cases hv' : v = []
      · subst hv'
        exact ho.judged_of_unindented hs₁ hb' hc' hn'
      · exact ho.judged_of_indented hs₁ hb' hv hc' hn' hvw hv'
  · exact judged_mixed S rfl rfl hb hw hc hn hne hu

end Scan

open Scan Text

/-- Text without control sequences and groups is copied exactly if its lines are indented alike and
then not at all. Otherwise the first line that does not fit is reported, and the kind of the error
says whether its indentation can be measured with the unit of the lines before it. -/
theorem Translator.translateFragment_plain (t : Translator σ) {s : Text} (hs : s.IsPlain) :
    (t.translateFragment s = .ok s ↔ s.IsRegular) ∧
      (¬ s.IsRegular → ∃ before line after e, s.IsFirstMisfit before line after ∧
        Misplaced before.unit? (line.takeWhile isHorizontal) before e ∧
        t.translateFragment s = .error e) := by
  have hjudged := judged_start t.setup hs (t.start t.files)
  rcases hjudged with ⟨hr, s', hs'⟩ | ⟨before, line, after, e, s', hmisfit, he, hs'⟩
  · have hok : t.translateFragment s = .ok s := run_eq_ok.2 ⟨s', hs'⟩
    exact ⟨⟨fun _ => hr, fun _ => hok⟩, fun hn => absurd hr hn⟩
  · have herror : t.translateFragment s = .error e := run_eq_error.2 ⟨s', hs'⟩
    have hirregular : ¬ s.IsRegular := by
      intro hr
      have hs := hmisfit.text_eq
      rw [← List.append_assoc] at hs
      exact hmisfit.irregular (.of_append (hs ▸ hr) hmisfit.atLineEnd)
    refine ⟨⟨fun hok => ?_, fun hr => absurd hr hirregular⟩, fun _ =>
      ⟨before, line, after, e, hmisfit, he, herror⟩⟩
    rw [herror] at hok
    cases hok

/-- Two units where one was opened, behind a line that is not indented. -/
theorem Translator.translateFragment_plain_stray :
    IsPlain "\ta\n\nb % c\n\t\td\n e".toList ∧
      ∃ before line after e, IsFirstMisfit "\ta\n\nb % c\n\t\td\n e".toList before line after ∧
        Misplaced before.unit? (line.takeWhile isHorizontal) before e ∧
        defaults.translateFragment "\ta\n\nb % c\n\t\td\n e".toList = .error e := by
  have hplain : IsPlain "\ta\n\nb % c\n\t\td\n e".toList := by simp [IsPlain]
  obtain ⟨hok, herror⟩ := translateFragment_plain defaults hplain
  refine ⟨hplain, herror fun hregular => ?_⟩
  have hval : (defaults.translateFragment "\ta\n\nb % c\n\t\td\n e".toList).isOk = false := by
    decide +kernel
  rw [hok.2 hregular] at hval
  cases hval

end IndentTex
