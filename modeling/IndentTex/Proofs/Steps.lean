import IndentTex.Proofs.Text
import IndentTex.Scan.Document

/-!
# Single steps of a run

What each elementary step does to a state, as an equation. The lemmas `bind_run` and `map_run` take
a run apart at its first step, and `bind_ok` inverts a run that succeeds. Everything that is proved
about longer runs goes through these equations.
-/

namespace IndentTex

variable {σ α β : Type}

/-- The state with the cursor `n` characters further. -/
def State.advance (s : State σ) (n : Nat) : State σ := { s with cursor := s.cursor.advance n }

/-- What is left after some characters. -/
@[simp] lemma Cursor.advance_rest (c : Cursor) (n : Nat) : (c.advance n).rest = c.rest.drop n := rfl

/-- Reading nothing leaves a cursor where it is. -/
@[simp] lemma Cursor.advance_zero (c : Cursor) : c.advance 0 = c := by
  simp [Cursor.advance]

/-- Reading twice is reading once and further. -/
lemma Cursor.advance_advance (c : Cursor) (m n : Nat) :
    (c.advance m).advance n = c.advance (m + n) := by
  simp [Cursor.advance, List.take_add]

/-- The rest of a line, from the text before the cursor. -/
lemma Cursor.restOfLine_eq {c : Cursor} {w tail : Text} (hc : c.rest = w ++ tail) (hw : '\n' ∉ w)
    (ht : tail.atLineEnd) : c.restOfLine = w := by
  rw [restOfLine, run, hc]
  refine Text.takeWhile_run (Text.all_ne_of_notMem hw) ?_
  cases tail with
  | nil => rfl
  | cons a r => simpa using ht

namespace State

/-- What is left of the source after some characters. -/
@[simp] lemma advance_rest (s : State σ) (n : Nat) :
    (s.advance n).cursor.rest = s.cursor.rest.drop n := rfl

/-- What is left after the text before the cursor. -/
lemma rest_advance {s : State σ} {w r : Text} (hs : s.cursor.rest = w ++ r) :
    (s.advance w.length).cursor.rest = r := by
  simp [hs]

/-- What is left of the source after a run of characters. -/
@[simp] lemma advance_takeWhile_rest (s : State σ) (p : Char → Bool) :
    (s.advance (s.cursor.rest.takeWhile p).length).cursor.rest = s.cursor.rest.dropWhile p := by
  rw [advance_rest, Text.drop_takeWhile]

/-- Reading leaves the unit alone. -/
@[simp] lemma advance_indentation (s : State σ) (n : Nat) :
    (s.advance n).indentation = s.indentation := rfl

/-- Reading leaves the executor alone. -/
@[simp] lemma advance_host (s : State σ) (n : Nat) : (s.advance n).host = s.host := rfl

/-- Reading nothing leaves a state as it is. -/
@[simp] lemma advance_zero (s : State σ) : s.advance 0 = s := by
  simp [advance]

/-- Reading twice is reading once and further. -/
lemma advance_advance (s : State σ) (m n : Nat) : (s.advance m).advance n = s.advance (m + n) := by
  simp [advance, Cursor.advance_advance]

end State

namespace Scan

/-- A run goes on where its first step succeeds and stops where it fails. -/
@[simp] lemma bind_run (m : Scan σ α) (f : α → Scan σ β) (s : State σ) :
    (m >>= f) s = match m s with
      | .ok a s => f a s
      | .error e s => .error e s := by
  cases h : m s <;> simp [bind, EStateM.bind, h]

/-- A step that succeeds hands its value and its state to the rest of the run. -/
lemma bind_of_ok {m : Scan σ α} {f : α → Scan σ β} {s s' : State σ} {a : α}
    (h : m s = .ok a s') : (m >>= f) s = f a s' := by
  rw [bind_run, h]

/-- A run that succeeds is a first step that succeeds and a rest that does. -/
lemma bind_ok {m : Scan σ α} {f : α → Scan σ β} {s s'' : State σ} {b : β}
    (h : (m >>= f) s = .ok b s'') : ∃ a s', m s = .ok a s' ∧ f a s' = .ok b s'' := by
  rw [bind_run] at h
  cases hm : m s with
  | ok a s' =>
    rw [hm] at h
    exact ⟨a, s', rfl, h⟩
  | error e s' =>
    rw [hm] at h
    cases h

/-- A function is applied to what a step gives. -/
@[simp] lemma map_run (f : α → β) (m : Scan σ α) (s : State σ) :
    (f <$> m) s = match m s with
      | .ok a s => .ok (f a) s
      | .error e s => .error e s := by
  cases h : m s <;> simp [Functor.map, EStateM.map, h]

/-- The condition of a step does not depend on the state. -/
@[simp] lemma ite_run (p : Prop) [Decidable p] (m m' : Scan σ α) (s : State σ) :
    (if p then m else m') s = if p then m s else m' s := by
  split <;> rfl

/-- A value leaves the state alone. -/
@[simp] lemma pure_run (a : α) (s : State σ) : (pure a : Scan σ α) s = .ok a s := rfl

/-- A failure is placed at the cursor and leaves the state alone. -/
@[simp] lemma raise_run (cause : Cause) (s : State σ) :
    (raise cause : Scan σ α) s = .error ⟨cause, some s.cursor.location⟩ s := rfl

/-- The state itself. -/
@[simp] lemma get_run (s : State σ) : (get : Scan σ (State σ)) s = .ok s s := rfl

/-- A change of the state. -/
@[simp] lemma modify_run (f : State σ → State σ) (s : State σ) :
    (modify f : Scan σ PUnit) s = .ok () (f s) := rfl

/-- The cursor is marked where it is. -/
@[simp] lemma mark_run (s : State σ) : mark s = .ok s.cursor s := rfl

/-- Going to a cursor changes nothing else. -/
@[simp] lemma goTo_run (c : Cursor) (s : State σ) :
    goTo c s = .ok () { s with cursor := c } := rfl

/-- The next character is looked at and not read. -/
@[simp] lemma peek_run (s : State σ) : peek s = .ok s.cursor.rest.head? s := rfl

/-- The source is finished if nothing is left of it. -/
@[simp] lemma isFinished_run (s : State σ) : isFinished s = .ok s.cursor.rest.isEmpty s := rfl

/-- Characters are read one after the other. -/
@[simp] lemma skip_run (n : Nat) (s : State σ) : skip n s = .ok () (s.advance n) := rfl

/-- A run of characters is read as a whole. -/
@[simp] lemma skipWhile_run (p : Char → Bool) (s : State σ) :
    skipWhile p s = .ok (s.cursor.rest.takeWhile p)
      (s.advance (s.cursor.rest.takeWhile p).length) := rfl

/-- A run of characters is read up to where the text does not go on with it. -/
lemma skipWhile_ok (p : Char → Bool) (s : State σ) :
    ∃ w r, s.cursor.rest = w ++ r ∧ w.all p ∧ r.starts p = false ∧
      skipWhile p s = .ok w (s.advance w.length) ∧ (s.advance w.length).cursor.rest = r :=
  ⟨_, _, List.takeWhile_append_dropWhile.symm, List.all_takeWhile, Text.starts_dropWhile p _, rfl,
    s.advance_takeWhile_rest p⟩

/-- Blank lines are read as a whole. -/
@[simp] lemma skipBlankLines_run (s : State σ) :
    skipBlankLines s = .ok s.cursor.rest.blankLines
      (s.advance s.cursor.rest.blankLines.length) := rfl

/-- Blank lines are read up to a line that is not blank. -/
lemma skipBlankLines_ok (s : State σ) :
    ∃ blank r, s.cursor.rest = blank ++ r ∧ (blank ++ r).blankLines = blank ∧
      skipBlankLines s = .ok blank (s.advance blank.length) ∧
      (s.advance blank.length).cursor.rest = r := by
  refine ⟨_, _, (Text.blankLines_append _).symm, ?_, rfl, rfl⟩
  rw [Text.blankLines_append]

/-- The level of a line is the level of its indentation. -/
lemma indentLevel_ok {s s' : State σ} {level : Nat} (h : indentLevel s = .ok level s') :
    ∃ j, Indentation.levelOf (s.cursor.rest.takeWhile isHorizontal) s.indentation = .ok level j ∧
      s' = { s with indentation := j } := by
  unfold indentLevel at h
  split at h
  case h_1 j hl =>
    cases h
    exact ⟨j, hl, rfl⟩
  case h_2 => cases h

/-- A margin is written in the present unit. -/
@[simp] lemma margin_run (level : Nat) (s : State σ) :
    margin level s = .ok (s.indentation.margin level) s := rfl

/-- A loop may go round as often as there are characters left. -/
@[simp] lemma bounded_run (loop : Nat → Scan σ α) (s : State σ) :
    bounded loop s = loop s.cursor.rest.length s := rfl

/-! ### Lines -/

/-- Reads a line with given readers for its control sequences and its groups. -/
def lineLoopWith (control group : Scan σ Text) (stopAtComment : Bool) : Nat → Scan σ Text
  | 0 => return []
  | n + 1 => do
    let plain ← skipUntil endsLineRun
    match ← peek with
    | none => return plain
    | some c =>
      if c = '\n' ∨ (c = '%' ∧ stopAtComment) then
        return plain
      else if c = '%' then
        skip 1
        let note ← comment
        return plain ++ note ++ (← lineLoopWith control group stopAtComment n)
      else if c = '\\' then
        let text ← control
        return plain ++ text ++ (← lineLoopWith control group stopAtComment n)
      else if c = '\x7b' then
        skip 1
        let body ← group
        return plain ++ '\x7b' :: body ++ '\x7d' :: (← lineLoopWith control group stopAtComment n)
      else if c = '\x7d' then
        raise .unexpectedBrace
      else
        raise .internal

/-- A line is read with its own readers for control sequences and groups. -/
lemma lineLoop_eq_lineLoopWith (S : Setup σ) (inner : Level σ) (level : Nat) (stop : Bool)
    (n : Nat) :
    lineLoop S inner level stop n =
      lineLoopWith (lineControl S inner level) (inner.group '\x7d') stop n := by
  induction n with
  | zero => rfl
  | succ n ih =>
    unfold lineLoop lineLoopWith
    refine bind_congr fun plain => bind_congr fun next => ?_
    cases next with
    | none => rfl
    | some c =>
      dsimp only
      rw [ih]

/-! ### Blocks -/

/-- There is no next line at the end of the source. -/
lemma nextLine_end {s : State σ} (hs : s.cursor.rest = []) (level : Nat) :
    nextLine level s = .ok none s := by
  rw [nextLine, bind_of_ok (mark_run s), bind_of_ok (isFinished_run s), hs]
  rfl

/-- Reads lines at `level`, each of them with `line`. -/
def linesLoop (line : Scan σ Text) (level : Nat) : Nat → Scan σ Text
  | 0 => line
  | n + 1 => do
    let text ← line
    match ← nextLine level with
    | some blank => return text ++ '\n' :: blank ++ (← linesLoop line level n)
    | none => return text

/-- A block is a sequence of lines. -/
lemma blockLoop_eq_linesLoop (inner : Level σ) (level n : Nat) :
    blockLoop inner level n = linesLoop (inner.line level false) level n := by
  induction n with
  | zero => rfl
  | succ n ih =>
    unfold blockLoop linesLoop
    refine bind_congr fun text => bind_congr fun next => ?_
    cases next with
    | none => rfl
    | some blank =>
      dsimp only
      rw [ih]

/-- Literal lines are a sequence of lines. -/
lemma rawLinesLoop_eq_linesLoop (level n : Nat) :
    (rawLinesLoop level n : Scan σ Text) = linesLoop skipLine level n := by
  induction n with
  | zero => rfl
  | succ n ih =>
    unfold rawLinesLoop linesLoop
    refine bind_congr fun text => bind_congr fun next => ?_
    cases next with
    | none => rfl
    | some blank =>
      dsimp only
      rw [ih]

/-- A block is at the level of its first line. -/
lemma block_run {inner : Level σ} {s : State σ} {blank r : Text} {level : Nat} {j : Indentation}
    (hs : s.cursor.rest = blank ++ r) (hb : (blank ++ r).blankLines = blank) (hne : r ≠ [])
    (hl : Indentation.levelOf (r.takeWhile isHorizontal) s.indentation = .ok level j) :
    block inner s =
      ((blank ++ ·) <$> blockLines inner level)
        ⟨s.cursor.advance blank.length, j, s.inDocument, s.host⟩ := by
  have hrest : (s.advance blank.length).cursor.rest = r := by simp [hs]
  have hskip : skipBlankLines s = .ok blank (s.advance blank.length) := by
    rw [skipBlankLines_run, hs, hb]
  have hlevel : indentLevel (s.advance blank.length) =
      .ok level ⟨s.cursor.advance blank.length, j, s.inDocument, s.host⟩ := by
    rw [indentLevel, Cursor.indentation, Cursor.run, hrest, State.advance_indentation, hl]
    rfl
  rw [block, bind_of_ok hskip, bind_of_ok (isFinished_run _), ite_run, hrest,
    if_neg (by simpa using hne), bind_of_ok hlevel, map_run, bind_run]
  rfl

/-- A block that is not indented is at level 0. -/
lemma block_unindented {inner : Level σ} {s : State σ} {blank r : Text}
    (hs : s.cursor.rest = blank ++ r) (hb : (blank ++ r).blankLines = blank) (hne : r ≠ [])
    (hr : r.starts isHorizontal = false) :
    block inner s = ((blank ++ ·) <$> blockLines inner 0) (s.advance blank.length) :=
  block_run hs hb hne (by rw [Text.takeWhile_of_starts hr]; rfl)

end Scan

end IndentTex
