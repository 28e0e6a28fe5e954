import IndentTex.Proofs.Progress

/-!
# Positions in bytes

A text can be cut after the bytes of some first characters (`Text.IsBoundary`), and the last such
boundary up to an offset is where the longest beginning of that many bytes ends
(`Text.lastBoundary_eq`). A location is therefore the place after that beginning
(`Location.ofOffset_eq`).

`Position` is the cursor as an offset in bytes into a text that does not change. A `Cursor` is at one
position (`Cursor.position`), no two cursors are at the same one, and each move of a cursor is the
move of its position by the bytes of what is read.
-/

namespace IndentTex

namespace Text

variable {t w : Text} {n : Nat}

/-! ### Sizes in bytes -/

/-- The bytes of two texts after one another are those of both. -/
@[simp] lemma byteSize_append (t u : Text) : byteSize (t ++ u) = byteSize t + byteSize u := by
  induction t with
  | nil => simp [byteSize]
  | cons c t ih => simp [byteSize, ih, Nat.add_assoc]

/-- A text takes as many bytes backwards. -/
@[simp] lemma byteSize_reverse (t : Text) : byteSize t.reverse = byteSize t := by
  induction t with
  | nil => rfl
  | cons c t ih => simp [byteSize, ih, Nat.add_comm]

/-- Only the empty text takes no bytes. -/
lemma byteSize_eq_zero : byteSize t = 0 ↔ t = [] := by
  cases t with
  | nil => exact iff_of_true rfl rfl
  | cons c t =>
    have hc := c.utf8Size_pos
    exact iff_of_false (by rw [byteSize]; omega) (List.cons_ne_nil c t)

/-- A beginning of a text takes at most the bytes of the text. -/
lemma byteSize_le_of_prefix (h : w <+: t) : w.byteSize ≤ t.byteSize := by
  obtain ⟨r, rfl⟩ := h
  rw [byteSize_append]
  exact Nat.le_add_right _ _

/-! ### Beginnings of a given size -/

/-- A beginning is what its bytes cut off. -/
lemma takeBytes_byteSize (t u : Text) : takeBytes t.byteSize (t ++ u) = t := by
  induction t with
  | nil =>
    cases u with
    | nil => rfl
    | cons c u =>
      have hc : ¬ c.utf8Size ≤ 0 := Nat.not_le.2 c.utf8Size_pos
      rw [List.nil_append, byteSize, takeBytes, if_neg hc]
  | cons c t ih =>
    rw [List.cons_append, byteSize, takeBytes, if_pos (Nat.le_add_right _ _),
      Nat.add_sub_cancel_left, ih]

/-- What the bytes cut off is a beginning of the text. -/
lemma takeBytes_prefix (n : Nat) (t : Text) : takeBytes n t <+: t := by
  induction t generalizing n with
  | nil => exact List.nil_prefix
  | cons c t ih =>
    rw [takeBytes]
    split
    · exact (List.prefix_cons_inj c).2 (ih _)
    · exact List.nil_prefix

/-- A beginning of at most `n` bytes takes at most `n` bytes. -/
lemma byteSize_takeBytes_le (n : Nat) (t : Text) : (takeBytes n t).byteSize ≤ n := by
  induction t generalizing n with
  | nil => exact Nat.zero_le n
  | cons c t ih =>
    rw [takeBytes]
    split
    case isTrue hc =>
      have hle := ih (n - c.utf8Size)
      rw [byteSize]
      omega
    case isFalse => exact Nat.zero_le n

/-- No longer beginning of a text takes at most `n` bytes. -/
lemma prefix_takeBytes (h : w <+: t) (hw : w.byteSize ≤ n) : w <+: takeBytes n t := by
  induction w generalizing t n with
  | nil => exact List.nil_prefix
  | cons c w ih =>
    obtain ⟨r, rfl⟩ := h
    rw [byteSize] at hw
    rw [List.cons_append, takeBytes, if_pos (by omega), List.prefix_cons_inj]
    exact ih (List.prefix_append w r) (by omega)

/-! ### Boundaries -/

/-- A text can be cut after `n` bytes: there the first of its characters end. -/
def IsBoundary (t : Text) (n : Nat) : Prop := ∃ w r, t = w ++ r ∧ w.byteSize = n

/-- No boundary is behind the end of the text. -/
lemma IsBoundary.le_byteSize (h : t.IsBoundary n) : n ≤ t.byteSize := by
  obtain ⟨w, r, rfl, rfl⟩ := h
  exact byteSize_le_of_prefix (List.prefix_append w r)

/-- The search for a boundary decides whether there is one. -/
lemma isBoundary_iff (n : Nat) (t : Text) : isBoundary n t = true ↔ t.IsBoundary n := by
  induction t generalizing n with
  | nil =>
    cases n with
    | zero => exact iff_of_true rfl ⟨[], [], rfl, rfl⟩
    | succ n =>
      refine iff_of_false Bool.false_ne_true fun h => ?_
      exact absurd h.le_byteSize (Nat.not_succ_le_zero n)
  | cons c t ih =>
    cases n with
    | zero => exact iff_of_true rfl ⟨[], c :: t, rfl, rfl⟩
    | succ n =>
      rw [isBoundary, Bool.and_eq_true, decide_eq_true_iff, ih]
      constructor
      · rintro ⟨hc, w, r, rfl, hw⟩
        exact ⟨c :: w, r, rfl, by rw [byteSize]; omega⟩
      · rintro ⟨w, r, ht, hw⟩
        cases w with
        | nil => exact absurd hw (Nat.succ_ne_zero n).symm
        | cons d w =>
          rw [List.cons_append, List.cons.injEq] at ht
          obtain ⟨rfl, rfl⟩ := ht
          rw [byteSize] at hw
          exact ⟨by omega, w, r, rfl, by omega⟩

/-- A beginning that bytes cut off ends at a boundary. -/
lemma isBoundary_takeBytes (n : Nat) (t : Text) : t.IsBoundary (takeBytes n t).byteSize := by
  obtain ⟨r, hr⟩ := takeBytes_prefix n t
  exact ⟨_, r, hr.symm, rfl⟩

/-- The longest beginning that takes at most `n` bytes ends at the last boundary up to there. -/
lemma IsBoundary.le_takeBytes {b : Nat} (h : t.IsBoundary b) (hb : b ≤ n) :
    b ≤ (takeBytes n t).byteSize := by
  obtain ⟨w, r, rfl, rfl⟩ := h
  exact byteSize_le_of_prefix (prefix_takeBytes (List.prefix_append w r) hb)

/-- The search downward from `n` finds the end of the longest beginning of at most `n` bytes. -/
lemma lastBoundary_eq (t : Text) (n : Nat) : t.lastBoundary n = (takeBytes n t).byteSize := by
  induction n with
  | zero => exact (Nat.le_zero.1 (byteSize_takeBytes_le 0 t)).symm
  | succ n ih =>
    have hle := byteSize_takeBytes_le (n + 1) t
    rw [lastBoundary]
    split
    case isTrue hn =>
      exact Nat.le_antisymm (((isBoundary_iff _ t).1 hn).le_takeBytes (Nat.le_refl _)) hle
    case isFalse hn =>
      have hb := isBoundary_takeBytes (n + 1) t
      have hne : (takeBytes (n + 1) t).byteSize ≠ n + 1 := fun h =>
        hn ((isBoundary_iff _ t).2 (h ▸ hb))
      have hstep : (takeBytes n t).byteSize ≤ n + 1 :=
        Nat.le_succ_of_le (byteSize_takeBytes_le n t)
      rw [ih]
      exact Nat.le_antisymm ((isBoundary_takeBytes n t).le_takeBytes hstep)
        (hb.le_takeBytes (by omega))

/-- An offset behind the end of a text cuts off the whole text. -/
lemma takeBytes_min (n : Nat) (t : Text) : takeBytes (min n t.byteSize) t = takeBytes n t := by
  have hmin := takeBytes_prefix (min n t.byteSize) t
  have hsize := byteSize_takeBytes_le (min n t.byteSize) t
  have htake := takeBytes_prefix n t
  have hle := byteSize_le_of_prefix htake
  have hfit : (takeBytes n t).byteSize ≤ min n t.byteSize :=
    Nat.le_min.2 ⟨byteSize_takeBytes_le n t, hle⟩
  have h₁ := prefix_takeBytes hmin (Nat.le_trans hsize (Nat.min_le_left _ _))
  have h₂ := prefix_takeBytes htake hfit
  exact h₁.eq_of_length_le h₂.length_le

end Text

/-! ### Locations -/

namespace Location

/-- The place after a text. -/
def after (before : Text) : Location :=
  ⟨before.byteSize, before.count '\n' + 1, (before.reverse.takeWhile (· != '\n')).length + 1⟩

/-- The location of an offset is the place after the longest beginning up to there. -/
lemma ofOffset_eq (t : Text) (n : Nat) : ofOffset t n = after (t.takeBytes n) := by
  have hcut : t.takeBytes (t.takeBytes n).byteSize = t.takeBytes n := by
    obtain ⟨r, hr⟩ := Text.takeBytes_prefix n t
    have ht := Text.takeBytes_byteSize (t.takeBytes n) r
    rwa [hr] at ht
  rw [ofOffset, Text.lastBoundary_eq, Text.takeBytes_min, hcut, after]

/-- The location of the end of a beginning is the place after it. -/
lemma ofOffset_byteSize (w r : Text) : ofOffset (w ++ r) w.byteSize = after w := by
  rw [ofOffset_eq, Text.takeBytes_byteSize]

end Location

/-- The location of a boundary is at its offset. -/
lemma Text.IsBoundary.ofOffset {t : Text} {n : Nat} (h : t.IsBoundary n) :
    (Location.ofOffset t n).offset = n := by
  obtain ⟨w, r, rfl, rfl⟩ := h
  rw [Location.ofOffset_byteSize, Location.after]

/-! ### Cursors as positions -/

/-- An offset in bytes into a text (`Cursor`). -/
structure Position where
  /-- The whole text. -/
  text : Text
  /-- The bytes that have been read. -/
  pos : Nat

/-- The bytes of a text from one offset to another. -/
def Text.slice (t : Text) (i j : Nat) : Text := (t.takeBytes j).drop (t.takeBytes i).length

namespace Position

/-- The start of a text. -/
def start (text : Text) : Position := ⟨text, 0⟩

/-- What has not been read. -/
def rest (p : Position) : Text := p.text.slice p.pos p.text.byteSize

/-- Whether everything has been read (`is_finished`). -/
def isFinished (p : Position) : Bool := p.text.byteSize ≤ p.pos

/-- The next character. -/
def peek (p : Position) : Option Char := p.rest.head?

/-- The text that was read since an earlier offset (`since`). -/
def since (p : Position) (mark : Nat) : Text := p.text.slice mark p.pos

/-- The offset behind the last newline that was read, or the start of the text (`line_start`). -/
def lineStart (p : Position) : Nat :=
  Text.byteSize ((p.text.takeBytes p.pos).reverse.dropWhile (· != '\n'))

/-- Reads the maximal run of characters with the property `f` (`skip_while`). -/
def skipWhile (p : Position) (f : Char → Bool) : Text × Position :=
  let stop := p.pos + Text.byteSize (p.rest.takeWhile f)
  (p.text.slice p.pos stop, { p with pos := stop })

/-- Reads one character, if there is one (`advance_one`). -/
def advanceOne (p : Position) : Text × Position :=
  match p.peek with
  | some c => (p.text.slice p.pos (p.pos + c.utf8Size), { p with pos := p.pos + c.utf8Size })
  | none => ([], p)

end Position

namespace Cursor

variable {c d : Cursor}

/-- The position of a cursor. -/
def position (c : Cursor) : Position := ⟨c.text, c.offset⟩

/-- What is behind a cursor is what its offset cuts off. -/
lemma takeBytes_offset (c : Cursor) : c.text.takeBytes c.offset = c.behind.reverse := by
  have ht := Text.takeBytes_byteSize c.behind.reverse c.rest
  rwa [Text.byteSize_reverse] at ht

/-- The location of a cursor is the place after what is behind it. -/
lemma location_eq (c : Cursor) : c.location = Location.after c.behind.reverse := by
  rw [location, Location.ofOffset_eq, takeBytes_offset]

/-- A cursor is at a boundary of its text. -/
lemma isBoundary_offset (c : Cursor) : c.text.IsBoundary c.offset :=
  ⟨c.behind.reverse, c.rest, rfl, Text.byteSize_reverse _⟩

/-- A cursor is told from its position, so that going back to an offset is going back to the cursor
that was there. -/
lemma position_injective (h : c.position = d.position) : c = d := by
  have ht : c.text = d.text := congrArg Position.text h
  have ho : c.offset = d.offset := congrArg Position.pos h
  have hb : c.behind.reverse = d.behind.reverse := by
    rw [← takeBytes_offset, ← takeBytes_offset, ht, ho]
  rw [text, text, hb] at ht
  calc
    c = ⟨c.behind, c.rest⟩ := rfl
    _ = ⟨d.behind, d.rest⟩ := by rw [List.reverse_inj.1 hb, List.append_cancel_left ht]
    _ = d := rfl

/-- Reading a part of the rest adds its bytes to the offset, within the same text. -/
lemma position_advance (c : Cursor) (n : Nat) :
    (c.advance n).position = { c.position with pos := c.offset + Text.byteSize (c.rest.take n) } := by
  rw [position, position, Position.mk.injEq, text, text, advance]
  refine ⟨?_, ?_⟩
  · rw [List.reverse_append, List.reverse_reverse, List.append_assoc, List.take_append_drop]
  · rw [offset, offset, Text.byteSize_append, Text.byteSize_reverse, Nat.add_comm]

/-- The bytes between two cursors of one text are what is read from one to the other. -/
lemma slice_offset (c : Cursor) (n : Nat) :
    c.text.slice c.offset (c.offset + Text.byteSize (c.rest.take n)) = c.rest.take n := by
  have hnext := congrArg Position.pos (position_advance c n)
  have htext := congrArg Position.text (position_advance c n)
  change (c.advance n).text = c.text at htext
  change (c.advance n).offset = c.offset + _ at hnext
  rw [Text.slice, takeBytes_offset, ← hnext, ← htext, takeBytes_offset, advance,
    List.reverse_append, List.reverse_reverse, List.drop_left]

/-- What a position has not read is the rest of the cursor. -/
lemma rest_position (c : Cursor) : c.position.rest = c.rest := by
  have hall : c.offset + Text.byteSize (c.rest.take c.rest.length) = c.text.byteSize := by
    rw [List.take_length, offset, text, Text.byteSize_append, Text.byteSize_reverse]
  have hslice := slice_offset c c.rest.length
  rwa [hall, List.take_length] at hslice

/-- A position has read everything where its cursor has. -/
lemma isFinished_position (c : Cursor) : c.position.isFinished = c.isFinished := by
  have hsize : c.text.byteSize = c.offset + c.rest.byteSize := by
    rw [text, offset, Text.byteSize_append, Text.byteSize_reverse]
  have hzero : c.text.byteSize ≤ c.offset ↔ c.rest = [] := by
    rw [← Text.byteSize_eq_zero]
    omega
  rw [Bool.eq_iff_iff, Position.isFinished, isFinished, decide_eq_true_iff, List.isEmpty_iff]
  exact hzero

/-- A run is read from the position as it is from the cursor. -/
lemma skipWhile_position (c : Cursor) (p : Char → Bool) :
    c.position.skipWhile p = (c.run p, (c.advance (c.run p).length).position) := by
  have hrun : c.rest.take (c.run p).length = c.run p :=
    List.prefix_iff_eq_take.1 (List.takeWhile_prefix p) |>.symm
  have hslice := slice_offset c (c.run p).length
  rw [hrun] at hslice
  rw [Position.skipWhile, rest_position, position_advance, hrun]
  exact congrArg (·, _) hslice

/-- One character is read from the position as it is from the cursor. -/
lemma advanceOne_position (c : Cursor) :
    c.position.advanceOne = (c.rest.take 1, (c.advance 1).position) := by
  have hslice := slice_offset c 1
  rw [Position.advanceOne, Position.peek, rest_position, position_advance]
  cases hr : c.rest with
  | nil => rfl
  | cons x r =>
    rw [hr] at hslice
    exact congrArg (·, _) hslice

/-- The text between an earlier cursor and one that is reached from it is that between their
offsets. -/
lemma Reaches.since_position (h : c.Reaches d) : d.position.since c.offset = d.since c := by
  have ht := h.text_eq
  obtain ⟨w, -, hd⟩ := h
  rw [Position.since, Text.slice]
  change (d.text.takeBytes d.offset).drop (d.text.takeBytes c.offset).length = _
  rw [takeBytes_offset, ht, takeBytes_offset, since, hd]
  simp

/-- The line of a position starts where that of the cursor does. -/
lemma lineStart_position (c : Cursor) : c.position.lineStart = c.lineStart := by
  have hsplit : Text.byteSize (c.behind.takeWhile (· != '\n')) +
      Text.byteSize (c.behind.dropWhile (· != '\n')) = c.offset := by
    rw [← Text.byteSize_append, List.takeWhile_append_dropWhile, offset]
  rw [Position.lineStart, lineStart]
  change Text.byteSize ((c.text.takeBytes c.offset).reverse.dropWhile _) = _
  rw [takeBytes_offset, List.reverse_reverse]
  omega

end Cursor

end IndentTex
