import IndentTex.Proofs.PlainText
import IndentTex.Proofs.Text.Shift

/-!
# Literal blocks

The body of a literal environment is a block whose lines are not read as markup. A
`LiteralBlock` says how such a block is written and what the environment is given of it. The main
result, `Scan.customEnvironment_literal`, says that the environment is expanded once, with exactly
this body, and that the block ends before the first line that is not part of it.
-/

namespace IndentTex

variable {σ : Type}

/-! ### Lines and blocks -/

/-- The text of a line behind its indentation. -/
structure LineText where
  text : Text
  ne_nil : text ≠ []
  starts_eq : text.starts isHorizontal = false
  newline_notMem : '\n' ∉ text

/-- A line of a literal block: a blank one, or text behind the margin. -/
inductive LiteralLine where
  | blank (w : Text) : w.isBlankLine → LiteralLine
  | text (t : LineText) : LiteralLine

/-- The lines of a literal block. The last one is not blank. -/
structure LiteralBlock where
  init : List LiteralLine
  last : LineText

namespace LiteralLine

/-- A line as it is written. -/
def source (margin : Text) : LiteralLine → Text
  | blank w _ => w
  | text t => margin ++ t.text

/-- A line as the environment gets it: without the margin. A blank line that lacks the margin is
empty. -/
def delivered (margin : Text) : LiteralLine → Text
  | blank w _ => (Text.dropStart? margin w).getD []
  | text t => t.text

variable {margin : Text}

/-- A literal line has no newline in the source. -/
lemma newline_notMem_source (hm : margin.isBlankLine) (l : LiteralLine) :
    '\n' ∉ l.source margin := by
  cases l with
  | blank w hw => exact Text.newline_notMem_of_isBlankLine hw
  | text t =>
    simp only [source, List.mem_append, not_or]
    exact ⟨Text.newline_notMem_of_isBlankLine hm, t.newline_notMem⟩

/-- A literal line is delivered without its margin. -/
lemma dedentLine_source (l : LiteralLine) :
    Text.dedentLine margin (l.source margin) = l.delivered margin := by
  cases l with
  | blank w hw =>
    rw [source, delivered, Text.dedentLine]
    cases Text.dropStart? margin w with
    | none => exact if_pos hw
    | some r => rfl
  | text t =>
    have hdrop := Text.dropStart?_append margin [] t.text
    rw [List.append_nil] at hdrop
    rw [source, delivered, Text.dedentLine, hdrop]
    rfl

end LiteralLine

/-- The line of a text behind its margin. -/
lemma LineText.isRow {margin : Text} (hm : margin.isBlankLine) (t : LineText) :
    Text.IsRow margin (margin ++ t.text) := by
  obtain ⟨_ | ⟨c, x⟩, hne, hs, hn⟩ := t
  · exact absurd rfl hne
  · have hc : c ≠ '\n' := fun h => hn (by simp [h])
    exact .of_text hm hs hc fun h => hn (List.mem_cons_of_mem _ h)

namespace Text

/-- Lines put together and taken apart again. -/
lemma splitLines_joinLines {l : Text} {ls : List Text} (h : ∀ m ∈ l :: ls, '\n' ∉ m) :
    splitLines (joinLines (l :: ls)) = l :: ls := by
  induction ls generalizing l with
  | nil => exact splitLines_of_notMem (h l List.mem_cons_self)
  | cons m ls ih =>
    rw [joinLines_cons_cons, splitLines_line (h l List.mem_cons_self),
      ih fun k hk => h k (List.mem_cons_of_mem l hk)]

/-- Lines that each come behind a newline, joined. -/
lemma flatMap_newline (f : Text → Text) (l : Text) (ls : List Text) :
    (l :: ls).flatMap (fun m => '\n' :: f m) = '\n' :: joinLines ((l :: ls).map f) := by
  rw [List.map_cons, joinLines_cons, List.flatMap_map, List.flatMap_cons]
  rfl

/-- A block below a line, moved to the left margin. -/
lemma dedentBlock_joinLines (margin : Text) {l : Text} {ls : List Text}
    (h : ∀ m ∈ l :: ls, '\n' ∉ m) :
    dedentBlock margin ('\n' :: joinLines (l :: ls)) =
      '\n' :: joinLines ((l :: ls).map (dedentLine margin)) ++ ['\n'] := by
  rw [dedentBlock, splitLines_newline, splitLines_joinLines h, List.drop_succ_cons, List.drop_zero,
    flatMap_newline]

end Text

namespace LiteralBlock

open Text

def lines (B : LiteralBlock) : List LiteralLine := B.init ++ [.text B.last]

/-- A block as it is written. -/
def source (margin : Text) (B : LiteralBlock) : Text :=
  joinLines (B.lines.map (LiteralLine.source margin))

/-- The body that the environment gets. -/
def body (margin : Text) (B : LiteralBlock) : Text :=
  '\n' :: joinLines (B.lines.map (LiteralLine.delivered margin)) ++ ['\n']

variable {margin : Text}

/-- A literal block has a line. -/
lemma exists_cons (B : LiteralBlock) : ∃ l ls, B.lines = l :: ls :=
  List.exists_cons_of_ne_nil (by simp [lines])

/-- A block is moved to the left margin line by line. -/
lemma dedentBlock_source (hm : margin.isBlankLine) (B : LiteralBlock) :
    dedentBlock margin ('\n' :: B.source margin) = B.body margin := by
  obtain ⟨l, ls, hl⟩ := B.exists_cons
  have hlines : ∀ m ∈ (l :: ls).map (LiteralLine.source margin), '\n' ∉ m := by
    intro m hmem
    obtain ⟨k, -, rfl⟩ := List.mem_map.1 hmem
    exact k.newline_notMem_source hm
  rw [List.map_cons] at hlines
  rw [source, body, hl, List.map_cons, dedentBlock_joinLines margin hlines, ← List.map_cons,
    List.map_map]
  congr 4
  funext k
  exact k.dedentLine_source

/-- A block is blank lines and then lines at the margin. -/
lemma exists_aligned (hm : margin.isBlankLine) (B : LiteralBlock) :
    ∃ b t, B.source margin = b ++ t ∧ BlankLines b ∧ Aligned margin t := by
  obtain ⟨init, last⟩ := B
  induction init with
  | nil => exact ⟨[], _, rfl, .nil, .last (last.isRow hm)⟩
  | cons l init ih =>
    obtain ⟨b, t, hbt, hb, ht⟩ := ih
    obtain ⟨m, ms, hms⟩ := exists_cons ⟨init, last⟩
    have hcons : source margin ⟨l :: init, last⟩ = l.source margin ++ '\n' :: (b ++ t) := by
      rw [source, hms, List.map_cons] at hbt
      rw [source, lines, List.cons_append, List.map_cons, ← hbt]
      exact congrArg (fun ls => joinLines (l.source margin :: ls)) (congrArg _ hms)
    rw [hcons]
    cases l with
    | blank w hw => exact ⟨w ++ '\n' :: b, t, by simp [LiteralLine.source], .line hw hb, ht⟩
    | text x => exact ⟨[], _, rfl, .nil, .more (x.isRow hm) hb ht⟩

end LiteralBlock

/-! ### Reading literal blocks -/

namespace Scan

open Text

variable {S : Setup σ} {inner : Level σ} {s : State σ} {level : Nat} {u gap b t y : Text}

/-- What ends a block below a line at `level`: the end of the text, blank lines up to it, or a line
at `level` or a lower one. -/
inductive EndsBlock (u : Text) (level : Nat) : Text → Prop where
  | blank {y : Text} : y.atLineEnd → y.blankLines = y → EndsBlock u level y
  | lower {b r : Text} {c : Char} {j : Nat} : BlankLines b → j ≤ level → isHorizontal c = false →
    c ≠ '\n' → EndsBlock u level ('\n' :: (b ++ (u.times j ++ c :: r)))

/-- What an expansion does to a state. -/
lemma expand_run (executor : Executor σ) (x : Expansion) (s : State σ) :
    expand executor x s =
      match x.run executor s.host with
      | (.ok out, h) => .ok out { s with host := h }
      | (.error e, h) => .error (e.orAt s.cursor.location) { s with host := h } := by
  unfold expand
  obtain ⟨_ | _, _⟩ := x.run executor s.host <;> rfl

/-- The way to a block one level deeper. -/
lemma enterBlock_aligned (hu : Indentation.IsUnit u) (hi : s.indentation.Fits u level)
    (hs : s.cursor.rest = '\n' :: (b ++ (t ++ y))) (hb : BlankLines b)
    (ht : Aligned (u.times (level + 1)) t) :
    enterBlock level s =
      .ok ('\n' :: b) { s.advance ('\n' :: b).length with indentation := .ofUnit u } := by
  have hs' : s.cursor.rest = ('\n' :: b) ++ (t ++ y) := hs
  have hrest := State.rest_advance hs'
  have hskip : skipBlankLines s = .ok ('\n' :: b) (s.advance ('\n' :: b).length) := by
    have hblank := ht.blankLines_append (.line (w := []) rfl hb) y
    rw [skipBlankLines_run, hs']
    rw [List.nil_append] at hblank
    rw [hblank]
  have hlevel : indentLevel (s.advance ('\n' :: b).length) =
      .ok (level + 1) { s.advance ('\n' :: b).length with indentation := .ofUnit u } := by
    refine indentLevel_of_ok ?_
    rw [hrest, ht.takeWhile_append]
    exact hi.levelOf_succ hu
  rw [enterBlock, bind_of_ok hskip, bind_of_ok (isFinished_run _), ite_run, hrest,
    if_neg (by simp [ht.ne_nil]), bind_of_ok hlevel, ite_run, if_pos rfl]
  rfl

/-- The body of a literal environment up to the end of its last line, where it is decided how the
block ends. -/
lemma rawBody_aligned (hu : Indentation.IsUnit u) (hi : s.indentation.Fits u level)
    (hs : s.cursor.rest = gap ++ '\n' :: (b ++ (t ++ y))) (hgap : gap.isBlankLine)
    (hb : BlankLines b) (ht : Aligned (u.times (level + 1)) t) (hy : y.atLineEnd) {s₁ : State σ}
    (hs₁ : s₁ = { s.advance (gap ++ '\n' :: (b ++ t)).length with indentation := .ofUnit u })
    (hx : ∀ blank s', nextLine (level + 1) s₁ ≠ .ok (some blank) s') :
    rawBody level s =
      (nextLine (level + 1) >>= fun _ => pure ⟨'\n' :: (b ++ t), true⟩) s₁ := by
  obtain ⟨s₀, hs₀⟩ : ∃ s₀ : State σ,
      s₀ = { (s.advance gap.length).advance ('\n' :: b).length with indentation := .ofUnit u } :=
    ⟨_, rfl⟩
  have hgaprest := State.rest_advance hs
  have hrest : s₀.cursor.rest = t ++ y := by
    rw [hs₀]
    exact State.rest_advance (w := '\n' :: b) hgaprest
  have hend : s₀.advance t.length = s₁ := by
    rw [hs₀, hs₁]
    simp only [State.advance, Cursor.advance_advance]
    congr 2
    simp
    omega
  have hblanks : skipBlanks s = .ok gap (s.advance gap.length) := by
    rw [skipBlanks, skipWhile_run, hs, takeWhile_run hgap rfl]
  have henter : enterBlock level (s.advance gap.length) = .ok ('\n' :: b) s₀ := by
    rw [hs₀]
    exact enterBlock_aligned hu hi hgaprest hb ht
  have hm : Indentation.levelOf (u.times (level + 1)) s₀.indentation =
      .ok (level + 1) s₀.indentation := by
    rw [hs₀]
    exact Indentation.levelOf_ofUnit hu (level + 1)
  have hlines : rawLines (level + 1) s₀ =
      (nextLine (level + 1) >>= fun _ => pure t) s₁ := by
    rw [rawLines, bounded_run, rawLinesLoop_eq_linesLoop, ← hend]
    refine linesLoop_aligned skipLine_copies ht (fun _ _ => trivial) hrest hy hm (hend ▸ hx) ?_
    rw [hrest, List.length_append]
    exact Nat.le_add_right _ _
  rw [rawBody, bind_of_ok hblanks, bind_of_ok (peek_run _), hgaprest, List.head?_cons]
  dsimp only
  rw [if_pos rfl, bind_of_ok henter, bind_run, hlines, bind_run, bind_run]
  cases nextLine (level + 1) s₁ <;> rfl

/-- The body of a literal environment, moved to the left margin. -/
lemma customBody_literal (inner : Level σ) {e : Environment} (hraw : e.raw)
    (hu : Indentation.IsUnit u) (hi : s.indentation.Fits u level) (hgap : gap.isBlankLine)
    (B : LiteralBlock)
    (hs : s.cursor.rest = gap ++ '\n' :: (B.source (u.times (level + 1)) ++ y)) (hy : y.atLineEnd)
    {s₁ : State σ}
    (hs₁ : s₁ = { s.advance (gap ++ '\n' :: B.source (u.times (level + 1))).length with
      indentation := .ofUnit u })
    (hx : ∀ blank s', nextLine (level + 1) s₁ ≠ .ok (some blank) s') :
    customBody inner e level s = (do
      let _ ← nextLine (level + 1)
      return dedentBlock (← margin (level + 1)) ('\n' :: B.source (u.times (level + 1)))) s₁ := by
  obtain ⟨b, t, hbt, hb, ht⟩ := B.exists_aligned (hu.isBlankLine_times (level + 1))
  rw [hbt] at hs hs₁ ⊢
  have hbody := rawBody_aligned hu hi (by rw [hs, List.append_assoc]) hgap hb ht hy hs₁ hx
  rw [customBody, if_pos hraw, bind_run, hbody, bind_run, bind_run]
  cases nextLine (level + 1) s₁ <;> rfl

/-- A block that ends is delivered. -/
lemma customBody_literal_none (inner : Level σ) {e : Environment} (hraw : e.raw)
    (hu : Indentation.IsUnit u) (hi : s.indentation.Fits u level) (hgap : gap.isBlankLine)
    (B : LiteralBlock)
    (hs : s.cursor.rest = gap ++ '\n' :: (B.source (u.times (level + 1)) ++ y)) (hy : y.atLineEnd)
    {s₁ : State σ}
    (hs₁ : s₁ = { s.advance (gap ++ '\n' :: B.source (u.times (level + 1))).length with
      indentation := .ofUnit u })
    (hx : nextLine (level + 1) s₁ = .ok none s₁) :
    customBody inner e level s = .ok (B.body (u.times (level + 1))) s₁ := by
  have hi₁ : s₁.indentation = .ofUnit u := by rw [hs₁]
  rw [customBody_literal inner hraw hu hi hgap B hs hy hs₁ (by simp [hx]), bind_of_ok hx,
    bind_of_ok (margin_run _ _), pure_run, hi₁, Indentation.margin_ofUnit,
    B.dedentBlock_source (hu.isBlankLine_times (level + 1))]

/-- Where a line starts with text, no blanks are read. -/
lemma skipBlanks_of_starts (h : s.cursor.rest.starts isHorizontal = false) :
    skipBlanks s = .ok [] s := by
  rw [skipBlanks, skipWhile_run, takeWhile_of_starts h, List.length_nil, State.advance_zero]

/-- An environment without parameters, from its colon on. -/
lemma customEnvironment_colon {e : Environment} (hp : e.params = []) {r : Text}
    (hs : s.cursor.rest = ':' :: r) :
    customEnvironment S inner e level s = (do
      let body ← customBody inner e level
      let unit := (← get).indentation.unitText
      let output ← expand S.executor (e.generate unit body [])
      return indentTail (← margin level) output) (s.advance 1) := by
  have hblanks : skipBlanks s = .ok [] s := skipBlanks_of_starts (by rw [hs]; rfl)
  rw [customEnvironment, hp, arguments, bind_of_ok (pure_run [] s), bind_of_ok hblanks,
    bind_of_ok (peek_run s), hs, List.head?_cons]
  dsimp only
  rw [if_pos rfl, bind_of_ok (skip_run 1 s)]

/-- What an environment makes of a body that has been read. -/
lemma expand_indentTail {e : Environment} (hi : s.indentation = .ofUnit u) (body : Text) :
    (do
      let unit := (← get).indentation.unitText
      let output ← expand S.executor (e.generate unit body [])
      return indentTail (← margin level) output : Scan σ Text) s =
      match (e.generate u body []).run S.executor s.host with
      | (.ok out, h) => .ok (indentTail (u.times level) out) { s with host := h }
      | (.error err, h) => .error (err.orAt (.after s.before)) { s with host := h } := by
  have hunit : s.indentation.unitText = u := by rw [hi]; rfl
  rw [bind_of_ok (get_run s), bind_run, expand_run, hunit]
  cases (e.generate u body []).run S.executor s.host with
  | mk output h =>
    cases output with
    | ok out =>
      dsimp only
      rw [bind_of_ok (margin_run _ _), pure_run, hi, Indentation.margin_ofUnit]
    | error err =>
      dsimp only
      rw [State.location_eq]

/-- A text that ends a block is at the end of a line. -/
lemma EndsBlock.atLineEnd (h : EndsBlock u level y) : y.atLineEnd := by
  cases h with
  | blank h => exact h
  | lower => rfl

/-- A block ends where nothing of it follows. -/
lemma nextLine_ends (hu : Indentation.IsUnit u) (hi : s.indentation = .ofUnit u)
    (hs : s.cursor.rest = y) (h : EndsBlock u level y) : nextLine (level + 1) s = .ok none s := by
  cases h with
  | blank he hb => exact nextLine_blank (by rw [hs]; exact he) (by rw [hs, hb]) (level + 1)
  | @lower b r c j hb hj hc hn =>
    have hblank := hu.isBlankLine_times j
    have hlevel : Indentation.levelOf ((u.times j ++ c :: r).takeWhile isHorizontal) s.indentation =
        .ok j s.indentation := by
      rw [takeWhile_text hblank hc, hi]
      exact Indentation.levelOf_ofUnit hu j
    exact nextLine_lower hs (hb.blankLines_text hblank hc hn r) (by simp) hlevel
      (Nat.lt_succ_of_le hj)

/-- A line that is not at a level of the block or a lower one is out of place. -/
lemma nextLine_stray (hu : Indentation.IsUnit u) (hi : s.indentation = .ofUnit u) {w r : Text}
    {c : Char} (hs : s.cursor.rest = '\n' :: (b ++ (w ++ c :: r))) (hb : BlankLines b)
    (hw : w.isBlankLine) (hc : isHorizontal c = false) (hn : c ≠ '\n')
    (hlevel : ∀ j ≤ level, w ≠ u.times j) :
    ∃ e s', nextLine level s = .error e s' ∧ s'.host = s.host ∧
      Misplaced (some u) w (s.before ++ '\n' :: b) e := by
  have hvalid : s.indentation.IsValid := by
    rw [hi]
    exact hu.isValid
  have hm : Indentation.levelOf (u.times level) s.indentation = .ok level s.indentation := by
    rw [hi]
    exact Indentation.levelOf_ofUnit hu level
  obtain ⟨e, s', hx, hhost, he⟩ := nextLine_misplaced hvalid hs hb hw hc hn
    (hlevel level (Nat.le_refl _)) hm fun next j hl => by
      rw [hi] at hl
      exact Nat.le_of_not_lt fun h =>
        hlevel next (Nat.le_of_lt h) (Indentation.levelOf_ofUnit_ok hu hl).1
  rw [hi] at he
  exact ⟨e, s', hx, hhost, he⟩

/-- A literal environment without parameters is expanded once, with the lines of its block moved to
the left margin, whatever stands in them, and the cursor is left behind the last of them. A line
that is deeper than the block, or whose indentation cannot be measured, is reported instead, and
nothing is expanded. -/
theorem customEnvironment_literal (S : Setup σ) (inner : Level σ) {e : Environment} (hraw : e.raw)
    (hp : e.params = []) {u : Text} (hu : Indentation.IsUnit u) {level : Nat} {s : State σ}
    (hi : s.indentation.Fits u level) (gap y : Text) {read : Text} (hgap : gap.isBlankLine)
    (B : LiteralBlock) (hread : read = ':' :: (gap ++ '\n' :: B.source (u.times (level + 1))))
    (hs : s.cursor.rest = read ++ y) :
    (EndsBlock u level y →
      customEnvironment S inner e level s =
        match (e.generate u (B.body (u.times (level + 1))) []).run S.executor s.host with
        | (.ok out, h) => .ok (indentTail (u.times level) out)
          ⟨s.cursor.advance read.length, .ofUnit u, s.inDocument, h⟩
        | (.error err, h) => .error (err.orAt (.after (s.before ++ read)))
          ⟨s.cursor.advance read.length, .ofUnit u, s.inDocument, h⟩) ∧
    (∀ b w c r, y = '\n' :: (b ++ (w ++ c :: r)) → BlankLines b → w.isBlankLine →
      isHorizontal c = false → c ≠ '\n' → (∀ j ≤ level + 1, w ≠ u.times j) →
      ∃ err s', customEnvironment S inner e level s = .error err s' ∧ s'.host = s.host ∧
        Misplaced (some u) w (s.before ++ read ++ '\n' :: b) err) := by
  -- The state behind the last line of the block.
  obtain ⟨s₁, hs₁⟩ : ∃ s₁ : State σ,
      s₁ = ⟨s.cursor.advance read.length, .ofUnit u, s.inDocument, s.host⟩ := ⟨_, rfl⟩
  have hrest : s₁.cursor.rest = y := by
    rw [hs₁]
    exact State.rest_advance hs
  have hbefore : s₁.before = s.before ++ read := by
    rw [hs₁]
    exact State.before_advance hs
  have hi₁ : s₁.indentation = .ofUnit u := by rw [hs₁]
  have hcolon : s.cursor.rest = ':' :: (gap ++ '\n' :: (B.source (u.times (level + 1)) ++ y)) := by
    rw [hs, hread]
    simp
  have hrest₁ := State.advance_one hcolon
  have hadvance : s₁ = { (s.advance 1).advance
      (gap ++ '\n' :: B.source (u.times (level + 1))).length with indentation := .ofUnit u } := by
    rw [hs₁, hread, State.advance_advance, List.length_cons, Nat.add_comm]
    rfl
  rw [customEnvironment_colon hp hcolon]
  constructor
  · intro hends
    have hx := nextLine_ends hu hi₁ hrest hends
    have hbody := customBody_literal_none inner (s := s.advance 1) hraw hu hi hgap B hrest₁
      hends.atLineEnd hadvance hx
    rw [bind_of_ok hbody, expand_indentTail hi₁, hbefore, hs₁]
  · rintro b w c r rfl hb hw hc hn hlevel
    obtain ⟨err, s', hx, hhost, herr⟩ := nextLine_stray hu hi₁ hrest hb hw hc hn hlevel
    rw [hbefore] at herr
    refine ⟨err, s', ?_, by rw [hhost, hs₁], herr⟩
    have hbody := customBody_literal inner (s := s.advance 1) hraw hu hi hgap B hrest₁
      rfl hadvance (by simp [hx])
    rw [bind_run, hbody, bind_run, hx]

/-- Markup in a literal block at level 1, with a blank line that is longer than the margin and a
line at level 1 behind the block. -/
theorem customEnvironment_literal_markup :
    Indentation.IsUnit [' ', ' '] ∧
      customEnvironment ⟨.empty, .unavailable⟩ .exhausted
        ⟨['v'], [], true, fun _ body _ => .text body⟩ 1
        ⟨.start ":\t\n\n    \\a\x7b\n     \n    b%\n  c".toList, .ofUnit [' ', ' '], true, ()⟩ =
      .ok "\n\n  \\a\x7b\n   \n  b%\n".toList
        ⟨(Cursor.start ":\t\n\n    \\a\x7b\n     \n    b%\n  c".toList).advance 24,
          .ofUnit [' ', ' '], true, ()⟩ := by
  have hu : Indentation.IsUnit [' ', ' '] := ⟨List.cons_ne_nil _ _, rfl⟩
  let B : LiteralBlock := ⟨[.blank [] rfl, .text ⟨['\\', 'a', '\x7b'], by simp, rfl, by simp⟩,
    .blank [' ', ' ', ' ', ' ', ' '] rfl], ⟨['b', '%'], by simp, rfl, by simp⟩⟩
  have hends : EndsBlock [' ', ' '] 1 ['\n', ' ', ' ', 'c'] :=
    .lower (b := []) (r := []) (c := 'c') (j := 1) .nil (Nat.le_refl 1) (by decide) (by decide)
  exact ⟨hu, (customEnvironment_literal ⟨.empty, .unavailable⟩ .exhausted
    (e := ⟨['v'], [], true, fun _ body _ => .text body⟩) rfl rfl hu (Or.inl rfl) ['\t']
    ['\n', ' ', ' ', 'c'] rfl B rfl rfl).1 hends⟩

end Scan

end IndentTex
