import IndentTex.Proofs.Depth
import IndentTex.Proofs.Grammar
import IndentTex.Proofs.Rounds
import IndentTex.Translator

/-!
# Termination

A run goes on in two ways: a loop goes round again, or a reader nests. Every loop is taken apart into
its rounds. They end further each time they go round again (`Loop.advances`), and what comes of them is
what the reader gives (`Loop.rounds`). How deep a run nests is counted in `Level.counting`. The main
result, `Translator.reading_ends`, puts the two together.
-/

namespace IndentTex

variable {σ α β : Type}

namespace Scan

section Readers

variable {S : Setup σ} {inner : Level σ}

/-! ### Groups -/

variable (S inner) in
/-- A round of reading a group. -/
def groupRound (close : Char) : Scan σ (Turn Text) := do
  let plain ← skipUntil (endsGroupRun close)
  match ← peek with
  | none => raise (.unclosedGroup close)
  | some c =>
    if c = close then
      skip 1
      return .stop plain
    else if c = '\x7d' then
      raise .unexpectedBrace
    else if c = '\x7b' then
      skip 1
      let body ← inner.group '\x7d'
      return .again (plain ++ '\x7b' :: body ++ '\x7d' :: ·)
    else if c = '\\' then
      skip 1
      let control ← argumentControl S inner
      return .again (plain ++ control ++ ·)
    else if c = '%' then
      skip 1
      let note ← comment
      return .again (plain ++ note ++ ·)
    else
      raise .internal

/-- A group is read round by round (`scan_group`). -/
lemma groupLoop_unrolls (close : Char) :
    Unrolls (groupRound S inner close) (groupLoop S inner close) where
  last hs := by
    rw [groupRound, follow_plain_of_nil hs]
    rfl
  next n := by
    rw [groupLoop, groupRound]
    simp only [follow_bind]
    refine bind_congr fun plain => bind_congr fun o => ?_
    cases o with
    | none => rfl
    | some c =>
      simp only [follow_ite, follow_bind, follow_stop, follow_again, follow_raise,
        map_eq_pure_bind]

/-- Every round of a group that is followed by another reads something. -/
lemma groupRound_advances (h : inner.Onward) (close : Char) (s : State σ) :
    Advances (groupRound S inner close) s := by
  refine .bind (fun _ _ => .skipWhile _) fun plain s _ => .peek (.raise _) fun c hne => ?_
  dsimp only
  split
  · exact .stop _ _
  split
  · exact .raise _
  split
  · exact .skip_read hne (h.group _) _
  split
  · exact .skip_read hne h.argumentControl _
  split
  · exact .skip_read hne (fun _ _ => .comment) _
  · exact .raise _

/-! ### Brackets -/

section OrBack

variable (start : Cursor)

/-- Going back comes after a first step that is taken anyway. -/
lemma orBack_bind (m : Scan σ β) (f : β → Scan σ (Option Text)) :
    orBack start (m >>= f) = m >>= fun b => orBack start (f b) := bind_assoc _ _ _

/-- Going back comes after the branch that is taken. -/
lemma orBack_ite (p : Prop) [Decidable p] (m m' : Scan σ (Option Text)) :
    orBack start (if p then m else m') = if p then orBack start m else orBack start m' := by
  split <;> rfl

/-- What is found is kept. -/
lemma orBack_pure_some (t : Text) :
    orBack start (pure (some t) : Scan σ (Option Text)) = pure (some t) := rfl

/-- Where nothing is found, the cursor goes back. -/
lemma orBack_pure_none :
    orBack start (pure none : Scan σ (Option Text)) = goTo start >>= fun _ => pure none := rfl

/-- A failure is not taken back. -/
lemma orBack_raise (cause : Cause) :
    orBack start (raise cause : Scan σ (Option Text)) = raise cause := rfl

/-- A function of what is found can be applied after going back. -/
lemma bind_orBack_map (m : Scan σ (Option Text)) (f : Text → Text) :
    (m >>= fun more => orBack start (pure (more.map f))) = Option.map f <$> orBack start m := by
  rw [map_eq_pure_bind, orBack, bind_assoc]
  refine bind_congr fun more => ?_
  cases more <;> rfl

end OrBack

variable (S inner) in
/-- A round of reading the inside of brackets that starts at `start`. -/
def bracketRound (start : Cursor) : Scan σ (Turn (Option Text)) := do
  let plain ← skipUntil endsBracketRun
  match ← peek with
  | none =>
    goTo start
    return .stop none
  | some c =>
    if c = '\n' ∨ c = '%' then
      goTo start
      return .stop none
    else if c = ']' then
      skip 1
      return .stop (some plain)
    else if c = '\x7d' then
      raise .unexpectedBrace
    else if c = '\x7b' then
      skip 1
      let body ← inner.group '\x7d'
      return .again (Option.map (plain ++ '\x7b' :: body ++ '\x7d' :: ·))
    else if c = '[' then
      skip 1
      let body ← inner.group ']'
      return .again (Option.map (plain ++ '[' :: body ++ ']' :: ·))
    else if c = '\\' then
      skip 1
      let control ← argumentControl S inner
      return .again (Option.map (plain ++ control ++ ·))
    else
      raise .internal

/-- Brackets are read round by round (`scan_optional_argstr`). -/
lemma bracketLoop_unrolls (start : Cursor) :
    Unrolls (bracketRound S inner start) fun n => orBack start (bracketLoop S inner n) where
  last hs := by
    rw [bracketRound, follow_plain_of_nil hs]
    rfl
  next n := by
    rw [bracketLoop, bracketRound]
    simp only [follow_bind, orBack_bind]
    refine bind_congr fun plain => bind_congr fun o => ?_
    cases o with
    | none => rfl
    | some c =>
      simp only [follow_ite, follow_bind, follow_stop, follow_again, follow_raise, orBack_ite,
        orBack_bind, orBack_pure_some, orBack_pure_none, orBack_raise, bind_orBack_map]

/-- Every round of brackets that is followed by another reads something. -/
lemma bracketRound_advances (h : inner.Onward) (start : Cursor) (s : State σ) :
    Advances (bracketRound S inner start) s := by
  refine .bind (fun _ _ => .skipWhile _) fun plain s _ => .peek (.stop _ _) fun c hne => ?_
  dsimp only
  split
  · exact .stop _ _
  split
  · exact .stop _ _
  split
  · exact .raise _
  split
  · exact .skip_read hne (h.group _) _
  split
  · exact .skip_read hne (h.group _) _
  split
  · exact .skip_read hne h.argumentControl _
  · exact .raise _

/-! ### Arguments as they are written -/

variable (inner) in
/-- A round of reading the arguments of a control sequence without a definition. -/
def argumentTextRound : Scan σ (Turn Text) := do
  let before ← mark
  let space ← skipBlanks
  let next ← peek
  if next = some '\x7b' then
    skip 1
    let body ← inner.group '\x7d'
    return .again (space ++ '\x7b' :: body ++ '\x7d' :: ·)
  else if next = some '[' then
    skip 1
    match ← inner.brackets with
    | some body => return .again (space ++ '[' :: body ++ ']' :: ·)
    | none =>
      goTo before
      return .stop []
  else
    goTo before
    return .stop []

/-- Arguments are read round by round (`parse_argstr`). -/
lemma argumentTextLoop_unrolls : Unrolls (argumentTextRound inner) (argumentTextLoop inner) where
  last hs := by
    rw [argumentTextRound, follow_bind, bind_of_ok (mark_run _), follow_bind, skipBlanks,
      bind_of_ok (skipWhile_of_nil _ hs), follow_bind, bind_of_ok (peek_run _), hs]
    rfl
  next n := by
    rw [argumentTextLoop, argumentTextRound]
    simp only [follow_bind, follow_ite, follow_stop, follow_again, map_eq_pure_bind]
    refine bind_congr fun before => bind_congr fun space => bind_congr fun next => ?_
    congr 2
    refine bind_congr fun _ => bind_congr fun o => ?_
    cases o <;> rfl

/-- Every round of arguments that is followed by another reads something. -/
lemma argumentTextRound_advances (h : inner.Onward) (s : State σ) :
    Advances (argumentTextRound inner) s := by
  refine .bind .mark fun before s _ => .bind (fun _ _ => .skipWhile _) fun space s _ => ?_
  apply Advances.peek
  · exact .stop _ _
  intro c hne
  split
  · exact .skip_read hne (h.group _) _
  split
  · apply Advances.skip hne h.brackets
    intro o s₁ put s' hs
    cases o with
    | some body =>
      cases hs
      exact .refl _
    | none => cases hs
  · exact .stop _ _

/-! ### Lines and blocks -/

variable (S inner) in
/-- A round of reading a line. -/
def lineRound (level : Nat) (stopAtComment : Bool) : Scan σ (Turn Text) := do
  let plain ← skipUntil endsLineRun
  match ← peek with
  | none => return .stop plain
  | some c =>
    if c = '\n' ∨ (c = '%' ∧ stopAtComment) then
      return .stop plain
    else if c = '%' then
      skip 1
      let note ← comment
      return .again (plain ++ note ++ ·)
    else if c = '\\' then
      let control ← lineControl S inner level
      return .again (plain ++ control ++ ·)
    else if c = '\x7b' then
      skip 1
      let body ← inner.group '\x7d'
      return .again (plain ++ '\x7b' :: body ++ '\x7d' :: ·)
    else if c = '\x7d' then
      raise .unexpectedBrace
    else
      raise .internal

/-- A line is read round by round (`scan_line`). -/
lemma lineLoop_unrolls (level : Nat) (stopAtComment : Bool) :
    Unrolls (lineRound S inner level stopAtComment) (lineLoop S inner level stopAtComment) where
  last hs := by
    rw [lineRound, follow_plain_of_nil hs]
    rfl
  next n := by
    rw [lineLoop, lineRound]
    simp only [follow_bind]
    refine bind_congr fun plain => bind_congr fun o => ?_
    cases o with
    | none => rfl
    | some c =>
      simp only [follow_ite, follow_bind, follow_stop, follow_again, follow_raise,
        map_eq_pure_bind]

/-- Every round of a line that is followed by another reads something. -/
lemma lineRound_advances (h : inner.Onward) (level : Nat) (stopAtComment : Bool) (s : State σ) :
    Advances (lineRound S inner level stopAtComment) s := by
  refine .bind (fun _ _ => .skipWhile _) fun plain s _ => .peek (.pure_stop _) fun c hne => ?_
  dsimp only
  split
  · exact .pure_stop _
  split
  · exact .skip_read hne (fun _ _ => .comment) _
  split
  · rw [lineControl, bind_assoc]
    refine .skip_read hne (fun start i => ?_) _
    exact Lockstep.Sim.controlName.bindEq fun name =>
      (h start i).named (Lockstep.onward_setups start i S) name level
  split
  · exact .skip_read hne (h.group _) _
  split
  · exact .raise _
  · exact .raise _

/-- A round of reading the lines of a block, each of them with `line`. -/
def linesRound (line : Scan σ Text) (level : Nat) : Scan σ (Turn Text) := do
  let text ← line
  match ← nextLine level with
  | some blank => return .again (text ++ '\n' :: blank ++ ·)
  | none => return .stop text

/-- Lines are read round by round (`parse_block_lines`). -/
lemma linesLoop_unrolls {line : Scan σ Text} (h : Onward line) (level : Nat) :
    Unrolls (linesRound line level) (linesLoop line level) where
  last {s} hs := by
    rw [linesRound, follow_bind, linesLoop, bind_run]
    cases hl : line s with
    | error e s' => rfl
    | ok text s' =>
      dsimp only
      rw [follow_bind, bind_of_ok (nextLine_end (h.rest_eq_nil hs hl) level)]
      rfl
  next n := by
    rw [linesLoop, linesRound]
    simp only [follow_bind]
    refine bind_congr fun text => bind_congr fun o => ?_
    cases o with
    | none => rfl
    | some blank => simp only [follow_again, map_eq_pure_bind]

/-- The next line of a block is further, at least by the newline before it. -/
lemma nextLine_precedes {level : Nat} {s s' : State σ} {blank : Text}
    (h : nextLine level s = .ok (some blank) s') : s.cursor.Precedes s'.cursor := by
  rw [nextLine, bind_of_ok (mark_run s), bind_of_ok (isFinished_run s)] at h
  cases hr : s.cursor.rest with
  | nil =>
    rw [hr] at h
    cases h
  | cons c r =>
    rw [hr, List.isEmpty_cons, if_neg Bool.false_ne_true, bind_of_ok (skip_run 1 s),
      bind_of_ok (skipBlankLines_run _), bind_of_ok (isFinished_run _), ite_run] at h
    have hstep : s.cursor.Precedes (s.advance 1).cursor :=
      Cursor.precedes_advance (hr ▸ List.cons_ne_nil c r)
    apply hstep.trans_reaches
    -- Every branch but the last one goes back or fails.
    split at h
    · cases h
    obtain ⟨next, s₂, hl, h⟩ := bind_ok h
    obtain ⟨j, -, rfl⟩ := indentLevel_ok hl
    rw [ite_run, ite_run] at h
    split at h
    · cases h
    split at h
    · cases h
    cases h
    exact (Cursor.Reaches.refl _).advance _

/-- Every round of lines that is followed by another reads a newline. -/
lemma linesRound_advances {line : Scan σ Text} (h : Onward line) (level : Nat) (s : State σ) :
    Advances (linesRound line level) s := by
  apply Advances.bind h
  intro text s _ put s' hs
  obtain ⟨o, s₁, ho, hs⟩ := bind_ok hs
  cases o with
  | none => cases hs
  | some blank =>
    cases hs
    exact nextLine_precedes ho

/-- A round of reading blank lines. -/
def blankRound : Scan σ (Turn Text) := do
  let line ← mark
  let blanks ← skipBlanks
  match ← peek with
  | none => return .stop blanks
  | some c =>
    if c = '\n' then
      skip 1
      return .again (blanks ++ '\n' :: ·)
    else
      goTo line
      return .stop []

/-- Blank lines are read round by round (`skip_empty_lines`). -/
lemma skipBlankLines_follow : (skipBlankLines : Scan σ Text) = follow blankRound skipBlankLines := by
  funext s
  rw [skipBlankLines_run]
  rcases Text.blank_cases s.cursor.rest with hb | ⟨w, r, hw, hs⟩ | ⟨w, c, r, hw, hc, hcn, hs⟩
  · have hskip := skipWhile_append (List.append_nil _).symm hb rfl
    have hround : blankRound s = .ok (.stop s.cursor.rest) (s.advance s.cursor.rest.length) := by
      rw [blankRound, bind_of_ok (mark_run s), skipBlanks, bind_of_ok hskip,
        bind_of_ok (peek_run _), State.advance_rest, List.drop_length]
      rfl
    rw [follow_of_stop _ hround, Text.blankLines_of_isBlankLine hb]
  · have hround : blankRound s = .ok (.again (w ++ '\n' :: ·)) (s.advance (w.length + 1)) := by
      rw [blankRound, bind_of_ok (mark_run s), skipBlanks,
        bind_of_ok (skipWhile_append hs hw rfl), bind_of_ok (peek_run _), State.advance_rest, hs,
        List.drop_left, ← State.advance_advance]
      rfl
    have hrest : (s.advance (w.length + 1)).cursor.rest = r := by simp [hs]
    rw [follow_of_again _ hround, skipBlankLines_run, hrest, hs, Text.blankLines_line hw, onValue,
      State.advance_advance, List.length_append, List.length_cons, Nat.add_assoc, Nat.add_comm 1]
  · have hround : blankRound s = .ok (.stop []) s := by
      rw [blankRound, bind_of_ok (mark_run s), skipBlanks,
        bind_of_ok (skipWhile_append hs hw hc), bind_of_ok (peek_run _), State.advance_rest, hs,
        List.drop_left, List.head?_cons]
      dsimp only
      rw [if_neg hcn]
      rfl
    rw [follow_of_stop _ hround, hs, Text.blankLines_of_text hw hc hcn, List.length_nil,
      State.advance_zero]

/-- Every round of blank lines that is followed by another reads a newline. -/
lemma blankRound_advances (s : State σ) : Advances blankRound s := by
  refine .bind .mark fun line s _ => .bind (fun _ _ => .skipWhile _) fun blanks s _ =>
    .peek (.pure_stop _) fun c hne => ?_
  dsimp only
  split
  · exact .skip_again hne _
  · exact .stop _ _

/-! ### Raw arguments -/

/-- The characters that end a plain run of text in a raw argument. -/
def endsRawRun (close : Char) (oneLine : Bool) (c : Char) : Bool :=
  c = close || c = '\\' || (oneLine && c = '\n')

/-- What comes after a plain run of a raw argument that starts at `start`, by the next character. -/
def rawTurn (close : Char) (oneLine : Bool) (start : Cursor) (plain : Text) :
    Option Char → Scan σ (Turn (Option Text))
  | none => do
    goTo start
    return .stop none
  | some c =>
    if c = '\\' then do
      skip 1
      let next ← peek
      if oneLine ∧ next = some '\n' then
        return .again (Option.map (plain ++ '\\' :: ·))
      else
        skip 1
        return .again (Option.map (plain ++ '\\' :: next.toList ++ ·))
    else if c = close then do
      skip 1
      return .stop (some plain)
    else do
      goTo start
      return .stop none

/-- A round of reading a raw argument that starts at `start`. -/
def rawRound (close : Char) (oneLine : Bool) (start : Cursor) : Scan σ (Turn (Option Text)) := do
  let plain ← skipUntil (endsRawRun close oneLine)
  rawTurn close oneLine start plain (← peek)

section Raw

variable {close : Char} {oneLine : Bool} {s : State σ}

/-- Plain characters are part of a literal text. -/
lemma rawText?_plain {w : Text} (hw : w.all fun c => !endsRawRun close oneLine c) (r : Text) :
    rawText? close oneLine (w ++ r) = (rawText? close oneLine r).map (w ++ ·) := by
  induction w with
  | nil => simp
  | cons c w ih =>
    rw [List.all_cons, Bool.and_eq_true] at hw
    obtain ⟨hc, hw⟩ := hw
    simp only [endsRawRun, Bool.not_eq_true', Bool.or_eq_false_iff, decide_eq_false_iff_not,
      Bool.and_eq_false_imp] at hc
    obtain ⟨⟨hclose, hb⟩, hn⟩ := hc
    rw [List.cons_append, rawText?_char hb, if_neg hclose, if_neg fun h => hn h.1 h.2, ih hw,
      Option.map_map]
    rfl

/-- A literal text is read as a whole, or the cursor goes back. -/
lemma orBack_raw_run (start : Cursor) (s : State σ) :
    orBack start (raw close oneLine) s =
      match rawText? close oneLine s.cursor.rest with
      | none => .ok none { s with cursor := start }
      | some t => .ok (some t) (s.advance (t.length + 1)) := by
  rw [orBack, raw, bind_assoc, bind_of_ok (mark_run s)]
  cases rawText? close oneLine s.cursor.rest <;> rfl

/-- A raw argument after a plain run, where a backslash stands next. -/
lemma rawTurn_backslash (hclose : close ≠ '\n') (start : Cursor) (w : Text) {r : Text}
    (hs : s.cursor.rest = '\\' :: r) :
    follow (rawTurn close oneLine start w (some '\\')) (orBack start (raw close oneLine)) s =
      onValue (Option.map (w ++ ·)) (orBack start (raw close oneLine) s) := by
  rw [rawTurn, if_pos rfl, follow_bind, bind_of_ok (skip_run 1 _), follow_bind,
    bind_of_ok (peek_run _), State.advance_rest, orBack_raw_run, hs, follow_ite, ite_run,
    List.drop_one, List.tail_cons]
  by_cases hn : oneLine ∧ r.head? = some '\n'
  · obtain ⟨r, rfl⟩ := List.head?_eq_some_iff.1 hn.2
    rw [if_pos hn, follow_again, map_run, orBack_raw_run, State.advance_rest, hs, List.drop_one,
      List.tail_cons, rawText?_pair, if_pos ⟨hn.1, rfl⟩, rawText?_char (by decide),
      if_neg (Ne.symm hclose), if_pos ⟨hn.1, rfl⟩]
    rfl
  · rw [if_neg hn, follow_bind, bind_of_ok (skip_run 1 _), follow_again, map_run, orBack_raw_run,
      State.advance_rest, State.advance_rest, hs, List.drop_succ_cons, List.drop_zero]
    cases r with
    | nil =>
      rw [show rawText? close oneLine ['\\'] = none by simp [rawText?]]
      rfl
    | cons d r =>
      rw [rawText?_pair, if_neg (by simpa using hn), List.drop_succ_cons, List.drop_zero]
      cases rawText? close oneLine r with
      | none => rfl
      | some t =>
        have hadvance : ((s.advance 1).advance 1).advance (t.length + 1) =
            s.advance (t.length + 1 + 1 + 1) := by
          rw [State.advance_advance, State.advance_advance]
          congr 1
          omega
        simp [onValue, hadvance]

/-- A raw argument after a plain run, where it ends. -/
lemma rawTurn_end (start : Cursor) (w : Text) {c : Char} {r : Text} (hs : s.cursor.rest = c :: r)
    (hc : endsRawRun close oneLine c) (hb : c ≠ '\\') :
    follow (rawTurn close oneLine start w (some c)) (orBack start (raw close oneLine)) s =
      onValue (Option.map (w ++ ·)) (orBack start (raw close oneLine) s) := by
  rw [rawTurn, if_neg hb, follow_ite, ite_run, orBack_raw_run, hs, rawText?_char hb]
  by_cases hclose : c = close
  · rw [if_pos hclose, if_pos hclose]
    simp [onValue, follow]
  · have hn : oneLine ∧ c = '\n' := by simp_all [endsRawRun]
    rw [if_neg hclose, if_neg hclose, if_pos hn]
    rfl

/-- A literal text is read round by round (`scan_raw`). -/
lemma raw_follow (hclose : close ≠ '\n') (start : Cursor) :
    (orBack start (raw close oneLine) : Scan σ (Option Text)) =
      follow (rawRound close oneLine start) (orBack start (raw close oneLine)) := by
  funext s
  obtain ⟨w, r, hs, hw, hr, hskip, hrest⟩ := skipWhile_ok (fun c => !endsRawRun close oneLine c) s
  have hplain : orBack start (raw close oneLine) s =
      onValue (Option.map (w ++ ·)) (orBack start (raw close oneLine) (s.advance w.length)) := by
    rw [orBack_raw_run, orBack_raw_run, hrest, hs, rawText?_plain hw]
    cases rawText? close oneLine r with
    | none => rfl
    | some t => simp [onValue, State.advance_advance, Nat.add_assoc]
  rw [rawRound, follow_bind, skipUntil, bind_of_ok hskip, follow_bind, bind_of_ok (peek_run _),
    hplain, hrest]
  cases r with
  | nil =>
    rw [orBack_raw_run, hrest]
    rfl
  | cons c r =>
    by_cases hb : c = '\\'
    · subst hb
      exact (rawTurn_backslash hclose start w hrest).symm
    · exact (rawTurn_end start w hrest (by simpa using hr) hb).symm

/-- Every round of a literal text that is followed by another reads something. -/
lemma rawRound_advances (start : Cursor) (s : State σ) :
    Advances (rawRound close oneLine start) s := by
  refine .bind (fun _ _ => .skipWhile _) fun plain s _ => .peek (.stop _ _) fun c hne => ?_
  rw [rawTurn]
  split
  · apply Advances.skip hne fun _ _ => .peek
    intro next s₁ put s' hs
    rw [ite_run] at hs
    split at hs
    · cases hs
      exact .refl _
    · cases hs
      exact (Cursor.Reaches.refl _).advance 1
  split
  · exact .stop _ _
  · exact .stop _ _

end Raw

/-! ### Whole sources -/

variable (inner) in
/-- A round of reading a preamble. -/
def rootRound : Scan σ (Turn Text) := do
  if startsWithDelimiter (← mark).restOfLine then
    return .stop (← document inner)
  else
    let line ← preambleLine inner
    if ← isFinished then
      raise .missingDocument
    else
      skip 1
      return .again (line ++ '\n' :: ·)

/-- A preamble is read round by round (`parse_root`). -/
lemma rootLoop_unrolls : Unrolls (rootRound inner) (rootLoop inner) where
  last {s} hs := by
    have hline : preambleLine inner s = .ok [] s := by
      rw [preambleLine, bind_of_ok (mark_run s), Cursor.isOnBlankLine, Cursor.restOfLine,
        Cursor.run, hs]
      exact skipWhile_of_nil _ hs
    rw [rootRound, follow_bind, bind_of_ok (mark_run s), Cursor.restOfLine, Cursor.run, hs]
    change _ = follow (preambleLine inner >>= _) _ s
    rw [follow_bind, bind_of_ok hline, follow_bind, bind_of_ok (isFinished_run s), hs]
    rfl
  next n := by
    rw [rootLoop, rootRound]
    simp only [follow_bind, follow_ite, follow_stop, follow_again, follow_raise, map_eq_pure_bind,
      bind_pure]

/-- Every round of a preamble that is followed by another reads a newline. -/
lemma rootRound_advances (h : inner.Onward) (s : State σ) : Advances (rootRound inner) s := by
  apply Advances.bind .mark
  intro c s _
  split
  · exact .stop _ id
  · refine .bind (fun start i => (h start i).preambleLine) fun line s _ => .isFinished (.raise _) ?_
    exact fun hne => .skip_again hne _

variable (inner) in
/-- A round of reading the blocks of a source. -/
def fragmentRound : Scan σ (Turn Text) := do
  let text ← block inner
  if ← isFinished then
    return .stop text
  else
    skip 1
    return .again (text ++ '\n' :: ·)

/-- A fragment is read round by round (`translate_fragment`). -/
lemma fragmentLoop_unrolls (h : inner.Onward) :
    Unrolls (fragmentRound inner) (fragmentLoop inner) where
  last {s} hs := by
    rw [fragmentRound, follow_bind, fragmentLoop, bind_run]
    cases hb : block inner s with
    | error e s' => rfl
    | ok text s' =>
      dsimp only
      rw [follow_bind, bind_of_ok (isFinished_run s'), h.block.rest_eq_nil hs hb]
      rfl
  next n := by
    rw [fragmentLoop, fragmentRound]
    simp only [follow_bind, follow_ite, follow_stop, follow_again, map_eq_pure_bind]

/-- Every round of a fragment that is followed by another reads a newline. -/
lemma fragmentRound_advances (h : inner.Onward) (s : State σ) :
    Advances (fragmentRound inner) s := by
  refine .bind h.block fun text s _ => .isFinished (.pure_stop _) ?_
  exact fun hne => .skip_again hne _

end Readers

end Scan

/-! ### All loops -/

/-- The loops of the readers, by the type of what they give. -/
inductive Loop : Type → Type where
  | group (close : Char) : Loop Text
  | raw (close : Char) (oneLine : Bool) (hclose : close ≠ '\n') : Loop (Option Text)
  | brackets : Loop (Option Text)
  | argumentText : Loop Text
  | line (level : Nat) (stopAtComment : Bool) : Loop Text
  | blockLines (level : Nat) : Loop Text
  | rawLines (level : Nat) : Loop Text
  | blankLines : Loop Text
  | root : Loop Text
  | fragment : Loop Text

namespace Loop

open Scan

/-- The reader that is a loop, with the level `inner` to nest. -/
def reader (S : Setup σ) (inner : Level σ) : {α : Type} → Loop α → Scan σ α
  | _, group close => (Level.above S inner).group close
  | _, raw close oneLine _ => Scan.raw close oneLine
  | _, brackets => (Level.above S inner).brackets
  | _, argumentText => Scan.argumentText inner
  | _, line level stopAtComment => (Level.above S inner).line level stopAtComment
  | _, blockLines level => Scan.blockLines inner level
  | _, rawLines level => Scan.rawLines level
  | _, blankLines => skipBlankLines
  | _, root => Scan.root inner
  | _, fragment => Scan.fragment inner

/-- A round of a loop that starts at `start`. -/
def round (S : Setup σ) (inner : Level σ) (start : Cursor) : {α : Type} → Loop α → Scan σ (Turn α)
  | _, group close => groupRound S inner close
  | _, raw close oneLine _ => rawRound close oneLine start
  | _, brackets => bracketRound S inner start
  | _, argumentText => argumentTextRound inner
  | _, line level stopAtComment => lineRound S inner level stopAtComment
  | _, blockLines level => linesRound (inner.line level false) level
  | _, rawLines level => linesRound skipLine level
  | _, blankLines => blankRound
  | _, root => rootRound inner
  | _, fragment => fragmentRound inner

variable {S : Setup σ} {inner : Level σ}

/-- Every round of every loop that is followed by another reads something. -/
theorem advances (h : inner.Onward) (start : Cursor) (l : Loop α) (s : State σ) :
    (l.round S inner start).Advances s := by
  cases l with
  | group close => exact groupRound_advances h close s
  | raw close oneLine hclose => exact rawRound_advances start s
  | brackets => exact bracketRound_advances h start s
  | argumentText => exact argumentTextRound_advances h s
  | line level stopAtComment => exact lineRound_advances h level stopAtComment s
  | blockLines level => exact linesRound_advances (h.line level false) level s
  | rawLines level => exact linesRound_advances (fun _ _ => .skipWhile _) level s
  | blankLines => exact blankRound_advances s
  | root => exact rootRound_advances h s
  | fragment => exact fragmentRound_advances h s

/-- Every loop ends after at most one round more than there are characters left. -/
theorem rounds (h : inner.Onward) (l : Loop α) (s : State σ) :
    ∃ k ≤ s.cursor.rest.length + 1, (l.round S inner s.cursor).Rounds s k (l.reader S inner s) := by
  have ha := l.advances (S := S) h s.cursor
  cases l with
  | group close => exact (groupLoop_unrolls close).rounds ha (Nat.le_refl _)
  | raw close oneLine hclose =>
    have hrun : Scan.raw close oneLine s = orBack s.cursor (Scan.raw close oneLine) s := by
      rw [orBack_raw_run, Scan.raw, bind_of_ok (mark_run s)]
      cases rawText? close oneLine s.cursor.rest <;> rfl
    change ∃ k ≤ _, Rounds _ s k (Scan.raw close oneLine s)
    rw [hrun]
    exact (Unrolls.const (raw_follow hclose s.cursor)).rounds ha (Nat.le_refl _)
  | brackets => exact (bracketLoop_unrolls s.cursor).rounds ha (Nat.le_refl _)
  | argumentText => exact argumentTextLoop_unrolls.rounds ha (Nat.le_refl _)
  | line level stopAtComment =>
    exact (lineLoop_unrolls level stopAtComment).rounds ha (Nat.le_refl _)
  | blockLines level =>
    change ∃ k ≤ _, Rounds _ s k (blockLoop inner level s.cursor.rest.length s)
    rw [blockLoop_eq_linesLoop]
    exact (linesLoop_unrolls (h.line level false) level).rounds ha (Nat.le_refl _)
  | rawLines level =>
    change ∃ k ≤ _, Rounds _ s k (rawLinesLoop level s.cursor.rest.length s)
    rw [rawLinesLoop_eq_linesLoop]
    exact (linesLoop_unrolls (fun _ _ => .skipWhile _) level).rounds ha (Nat.le_refl _)
  | blankLines => exact (Unrolls.const skipBlankLines_follow).rounds ha (Nat.le_refl _)
  | root => exact rootLoop_unrolls.rounds ha (Nat.le_refl _)
  | fragment => exact (fragmentLoop_unrolls h).rounds ha (Nat.le_refl _)

end Loop

/-- What a run on a whole source gives. -/
def Scan.answer : EStateM.Result Error (State σ) α → Except Error α
  | .ok a _ => .ok a
  | .error e _ => .error e

namespace Translator

/-- A translation gives the answer of its run. -/
lemma run_eq_answer (t : Translator σ) (reader : Level σ → Scan σ Text) (source : Text) :
    t.run reader source =
      Scan.answer (reader (.outermost t.setup) (.start source (t.start t.files))) := by
  unfold run
  cases reader (.outermost t.setup) (.start source (t.start t.files)) <;> rfl

/-- Every run comes to an end: no request ends before the place where it starts, a round of a loop
that goes round again ends further, every loop ends with what its reader gives after no more rounds
than that allows, and whatever nests is counted and keeps to the limit. -/
theorem reading_ends (t : Translator σ) :
    (∀ {α : Type} (n : Nat) (r : Request α) (s : State σ),
      s.cursor.offset ≤ ((r.run t.setup (.ofRoom t.setup n)).final s).cursor.offset) ∧
    (∀ {α : Type} (n : Nat) (l : Loop α) (start : Cursor) (s s' : State σ) (put : α → α),
      l.round t.setup (.ofRoom t.setup n) start s = .ok (.again put) s' →
        s.cursor.offset < s'.cursor.offset) ∧
    (∀ {α : Type} (n : Nat) (l : Loop α) (s : State σ), ∃ k ≤ s.cursor.rest.length + 1,
      (l.round t.setup (.ofRoom t.setup n) s.cursor).Rounds s k
        (l.reader t.setup (.ofRoom t.setup n) s)) ∧
    (∀ L, L = Level.counting t.setup L ↔ L = Level.nesting t.setup) ∧
    (∀ {α : Type} (r : Request α) (s : State σ) (depth deepest : Nat),
      depth ≤ maxNesting → deepest ≤ maxNesting → ∃ deepest' ≤ maxNesting,
        r.run t.setup.counted (.nesting t.setup) (s.counted depth deepest) =
          Scan.onState (·.counted depth deepest')
            (r.run t.setup (.ofRoom t.setup (maxNesting - depth)) s)) ∧
    ∀ source : Text, ∃ k ≤ source.length + 1, ∃ j ≤ source.length + 1, ∃ x y,
      (Loop.root.round t.setup (.outermost t.setup) (.start source)).Rounds
        (.start source (t.start t.files)) k x ∧
      t.translate source = Scan.answer x ∧
      (Loop.fragment.round t.setup (.outermost t.setup) (.start source)).Rounds
        (.start source (t.start t.files)) j y ∧
      t.translateFragment source = Scan.answer y := by
  have honward := Level.ofRoom_onward t.setup
  refine ⟨?_, ?_, ?_, ?_, ?_, ?_⟩
  · intro α n r s
    exact (r.later t.setup n s).reaches.offset_le
  · intro α n l start s s' put h
    exact (l.advances (honward n) start s put s' h).offset_lt
  · intro α n l s
    exact l.rounds (honward n) s
  · exact Level.eq_counting_iff t.setup
  · intro α r s depth deepest hd hm
    exact r.run_nesting t.setup s hd hm
  · intro source
    obtain ⟨k, hk, hroot⟩ :=
      Loop.root.rounds (honward maxNesting) (.start source (t.start t.files))
    obtain ⟨j, hj, hfragment⟩ :=
      Loop.fragment.rounds (honward maxNesting) (.start source (t.start t.files))
    exact ⟨k, hk, j, hj, _, _, hroot, t.run_eq_answer _ source, hfragment,
      t.run_eq_answer _ source⟩

/-- A line goes round again after a group, four bytes further. -/
theorem reading_ends_group :
    let t := ofRegistry .empty
    let s : State Unit := .start ['\x7b', 'é', '\x7d', 'b'] ()
    ∃ put s', (Loop.line 0 false).round t.setup (.ofRoom t.setup 1) s.cursor s =
      .ok (.again put) s' ∧ s.cursor.offset < s'.cursor.offset ∧ s'.cursor.offset = 4 := by
  intro t s
  refine ⟨_, _, rfl, ?_, rfl⟩
  exact (reading_ends t).2.1 1 (.line 0 false) s.cursor s _ _ rfl

end Translator

end IndentTex
