import IndentTex.Proofs.Grammar.Completeness
import IndentTex.Proofs.Grammar.Extension
import IndentTex.Proofs.Grammar.Soundness
import IndentTex.Proofs.Relocation
import IndentTex.Translator

/-!
# Fragments one after the other

A fragment that consists of two parts, the second of which does not start with an indentation, is
read part by part: the run on the whole text is the run on the first part followed by the run on the
second one, with the indentation unit and the executor as the first part left them.

The last block of the first part may go on in the second part. What carries the proof is that the
reading of such a block splits at any of its lines.
-/

namespace IndentTex

variable {σ α β : Type}

namespace Scan

/-- Two runs that start in the same way are equal if they go on in the same way. -/
lemma bind_congr_run {m : Scan σ α} {f g : α → Scan σ β} {s : State σ}
    (h : ∀ a s', m s = .ok a s' → f a s' = g a s') : (m >>= f) s = (m >>= g) s := by
  rw [bind_run, bind_run]
  cases hm : m s with
  | ok a s' => exact h a s' hm
  | error e s' => rfl

/-! ### Room for loops -/

variable {inner : Level σ} {G : Grammar σ} {s : State σ}

/-- One more round makes no difference for a block where there are enough. -/
lemma blockLoop_succ (hI : inner.Sound G) {level n : Nat} (hn : s.cursor.rest.length ≤ n) :
    blockLoop inner level n s = blockLoop inner level (n + 1) s := by
  induction n generalizing s with
  | zero =>
    rw [blockLoop, blockLoop, bind_run]
    cases hl : inner.line level false s with
    | error e s₁ => rfl
    | ok text s₁ =>
      -- Nothing is left after the only line, so the further round finds no next line.
      have hle := (hI.onward.line level false).length_le hl
      have h0 : s₁.cursor.rest = [] := List.eq_nil_of_length_eq_zero (by omega)
      dsimp only
      rw [bind_of_ok (nextLine_end h0 level)]
      rfl
  | succ n ih =>
    refine bind_congr_run fun text s₁ hl => bind_congr_run fun o s₂ hx => ?_
    cases o with
    | none => rfl
    | some blank =>
      have hle := (hI.onward.line level false).length_le hl
      have hlt := (nextLine_sound (hI.ends (hI.line hl)) hx).length_lt
      have hroom : s₂.cursor.rest.length ≤ n := by
        have hlt' : s₂.cursor.rest.length < s₁.cursor.rest.length := hlt
        omega
      dsimp only
      rw [bind_run, bind_run, ih hroom]

/-- Any number of rounds that is enough reads the block. -/
lemma blockLoop_eq (hI : inner.Sound G) {level n : Nat} (hn : s.cursor.rest.length ≤ n) :
    blockLoop inner level n s = blockLines inner level s := by
  induction hn with
  | refl => rfl
  | step hn ih => rw [← blockLoop_succ hI hn, ih]

/-- The lines of a block: the first one, and the others if there are any. -/
lemma blockLines_unfold (hI : inner.Sound G) (level : Nat) (s : State σ) :
    blockLines inner level s = (do
      let line ← inner.line level false
      match ← nextLine level with
      | some blank => return line ++ '\n' :: blank ++ (← blockLines inner level)
      | none => return line) s := by
  rw [← blockLoop_eq hI (Nat.le_succ _), blockLoop]
  refine bind_congr_run fun line s₁ hl => bind_congr_run fun o s₂ hx => ?_
  cases o with
  | none => rfl
  | some blank =>
    have hle := (hI.onward.line level false).length_le hl
    have hle' := (nextLine_onward level).length_le hx
    dsimp only
    rw [bind_run, bind_run, blockLoop_eq hI (Nat.le_trans hle' hle)]

/-- One more round makes no difference for a fragment where there are enough. -/
lemma fragmentLoop_succ (hI : inner.Onward) {n : Nat} (hn : s.cursor.rest.length ≤ n) :
    fragmentLoop inner n s = fragmentLoop inner (n + 1) s := by
  induction n generalizing s with
  | zero =>
    rw [fragmentLoop, fragmentLoop, bind_run]
    cases hb : block inner s with
    | error e s₁ => rfl
    | ok text s₁ =>
      have hle := hI.block.length_le hb
      have h0 : s₁.cursor.rest = [] := List.eq_nil_of_length_eq_zero (by omega)
      dsimp only
      rw [bind_of_ok (isFinished_run _), h0]
      rfl
  | succ n ih =>
    refine bind_congr_run fun text s₁ hb => ?_
    rw [bind_of_ok (isFinished_run _), bind_of_ok (isFinished_run _), ite_run, ite_run]
    have hle := hI.block.length_le hb
    cases hr : s₁.cursor.rest with
    | nil => rfl
    | cons c r =>
      have hroom : (s₁.advance 1).cursor.rest.length ≤ n := by
        rw [State.advance_rest, hr]
        rw [hr, List.length_cons] at hle
        simp
        omega
      rw [if_neg nofun, if_neg nofun, bind_of_ok (skip_run 1 _), bind_of_ok (skip_run 1 _),
        bind_run, bind_run, ih hroom]

/-- Any number of rounds that is enough reads the fragment. -/
lemma fragmentLoop_eq (hI : inner.Onward) {n : Nat} (hn : s.cursor.rest.length ≤ n) :
    fragmentLoop inner n s = fragment inner s := by
  induction hn with
  | refl => rfl
  | step hn ih => rw [← fragmentLoop_succ hI hn, ih]

/-- A fragment: the first block, and the others if there are any. -/
lemma fragment_unfold (hI : inner.Onward) (s : State σ) :
    fragment inner s = (do
      let text ← block inner
      if ← isFinished then
        return text
      else
        skip 1
        return text ++ '\n' :: (← fragment inner)) s := by
  rw [← fragmentLoop_eq hI (Nat.le_succ _), fragmentLoop]
  refine bind_congr_run fun text s₁ hb => ?_
  have hle := (hI.block.reaches hb).advance 1 |>.length_le
  rw [bind_of_ok (isFinished_run _), bind_of_ok (isFinished_run _), ite_run, ite_run,
    bind_of_ok (skip_run 1 _), bind_of_ok (skip_run 1 _), bind_run, bind_run,
    fragmentLoop_eq hI hle]

end Scan

/-! ### Splitting a block -/

namespace Grammar

/-- Where a block at level 0 has ended, it goes on with further lines at level 0. -/
lemma NextLine.resume {k k' : Config σ} {blank r : Text} (hb : (blank ++ r).blankLines = blank)
    (hne : r ≠ []) (hr : r.starts isHorizontal = false) (hx : NextLine 0 k none k') :
    k' = k ∧ ∃ between, '\n' :: between = k.rest ++ '\n' :: blank ∧
      NextLine 0 (k.extend ('\n' :: (blank ++ r))) (some between)
        ⟨r, k.indentation, k.host⟩ := by
  have htake := Text.takeWhile_of_starts hr
  have hlevel : ∀ i, Indentation.levelOf (r.takeWhile isHorizontal) i = .ok 0 i := by
    intro i
    rw [htake]
    rfl
  cases hx with
  | finished => exact ⟨rfl, blank, rfl, .same hb hne (hlevel _)⟩
  | @trailing t i h ht =>
    have hblank := Text.blankLines_append_newline ht (blank ++ r)
    rw [hb] at hblank
    refine ⟨rfl, t ++ '\n' :: blank, rfl, ?_⟩
    have hsame : NextLine 0 ⟨'\n' :: ((t ++ '\n' :: blank) ++ r), i, h⟩ (some (t ++ '\n' :: blank))
        ⟨r, i, h⟩ := .same (by simpa using hblank) hne (hlevel _)
    simpa [Config.extend] using hsame
  | lower _ _ _ hlt => exact absurd hlt (Nat.not_lt_zero _)

/-- A fragment of blank lines is copied. -/
lemma Fragment.eq_of_blank {G : Grammar σ} {t out : Text} {i : Indentation} {h : σ} {k : Config σ}
    (hf : Fragment G ⟨t, i, h⟩ out k) (ht : t.blankLines = t) : out = t ∧ k = ⟨[], i, h⟩ := by
  have hblock : ∀ {out k}, WholeBlock G ⟨t, i, h⟩ out k → out = t ∧ k = ⟨[], i, h⟩ := by
    intro out k hb
    cases hb with
    | blank _ => exact ⟨rfl, rfl⟩
    | lines hb hne _ _ => exact absurd (List.append_right_eq_self.1 (ht.symm.trans hb)) hne
  cases hf with
  | last hb =>
    obtain ⟨rfl, hk⟩ := hblock hb
    exact ⟨rfl, hk⟩
  | more hb _ =>
    obtain ⟨-, hk⟩ := hblock hb
    cases hk

end Grammar

namespace Scan

open Grammar

variable {inner : Level σ} {G : Grammar σ} {s : State σ}

/-- A block at level 0 is read in two parts. -/
lemma blockLines_split (hI : inner.Sound G) (hC : inner.Complete G) {blank r : Text}
    (hG : G.Extends ('\n' :: (blank ++ r))) (hb : (blank ++ r).blankLines = blank) (hne : r ≠ [])
    (hr : r.starts isHorizontal = false) {k k' : Config σ} {out : Text}
    (hblock : Block (G.line 0 false) 0 k out k')
    (hs : s.config = k.extend ('\n' :: (blank ++ r))) :
    ∃ s' : State σ, s'.config = ⟨blank ++ r, k'.indentation, k'.host⟩ ∧
      s.cursor.Reaches s'.cursor ∧ blockLines inner 0 s =
        ((out ++ k'.rest ++ '\n' :: blank ++ ·) <$> blockLines inner 0)
          (s'.advance blank.length) := by
  -- The induction is on the lines of the first part; the last of them is where the parts meet.
  induction hblock generalizing s with
  | @last k k₁ k₂ text hl hx =>
    obtain ⟨rfl, between, hbetween, hx⟩ := hx.resume hb hne hr
    obtain ⟨s₁, hs₁, hk₁⟩ := hC.line (hG.line hl) s hs
    obtain ⟨s₂, hs₂, hk₂⟩ := nextLine_complete hx s₁ hk₁
    obtain ⟨hrest₁, -, -⟩ := State.config_eq_iff.1 hk₁
    obtain ⟨hrest₂, hi₂, hh₂⟩ := State.config_eq_iff.1 hk₂
    -- The place where the second part starts, before its blank lines.
    have hcursor : (s₁.cursor.advance (k₂.rest.length + 1)).advance blank.length = s₂.cursor := by
      have hw : s₁.cursor.rest = (k₂.rest ++ '\n' :: blank) ++ s₂.cursor.rest := by
        rw [hrest₁, hrest₂]
        simp
      have ha := ((nextLine_onward 0).reaches hs₂).advance_eq hw
      rw [Cursor.advance_advance, ← ha]
      simp [Nat.add_assoc, Nat.add_comm 1]
    refine ⟨{ s₂ with cursor := s₁.cursor.advance (k₂.rest.length + 1) }, ?_, ?_, ?_⟩
    · rw [State.config_eq_iff]
      refine ⟨?_, hi₂, hh₂⟩
      rw [Cursor.advance_rest, hrest₁, ← List.drop_drop, List.drop_left]
      rfl
    · exact ((hI.onward.line 0 false).reaches hs₁).advance _
    · have hs' : State.advance { s₂ with cursor := s₁.cursor.advance (k₂.rest.length + 1) }
          blank.length = s₂ := by
        rw [State.advance, hcursor]
      rw [hs', blockLines_unfold hI, bind_of_ok hs₁, bind_of_ok hs₂]
      dsimp only
      rw [bind_run, map_run, hbetween]
      cases blockLines inner 0 s₂ with
      | ok o s₃ => simp
      | error e s₃ => rfl
  | @more k k₁ k₂ k₃ text between out hl hx _ ih =>
    obtain ⟨s₁, hs₁, hk₁⟩ := hC.line (hG.line hl) s hs
    obtain ⟨s₂, hs₂, hk₂⟩ := nextLine_complete (hx.extend_some _) s₁ hk₁
    obtain ⟨s', hk', hreach, heq⟩ := ih hk₂
    refine ⟨s', hk', ?_, ?_⟩
    · exact (((hI.onward.line 0 false).reaches hs₁).trans ((nextLine_onward 0).reaches hs₂)).trans
        hreach
    · rw [blockLines_unfold hI, bind_of_ok hs₁, bind_of_ok hs₂]
      dsimp only
      rw [bind_run, heq, map_run, map_run]
      cases blockLines inner 0 (s'.advance blank.length) with
      | ok o s₃ => simp
      | error e s₃ => rfl

/-! ### Blocks and fragments -/

/-- Blank lines before a block are copied. -/
lemma block_blank {w v : Text} (hw : s.cursor.rest.blankLines = w ++ v)
    (hv : (s.advance w.length).cursor.rest.blankLines = v) :
    block inner s = ((w ++ ·) <$> block inner) (s.advance w.length) := by
  rw [block, map_run, bind_of_ok (skipBlankLines_run s), bind_of_ok (skipBlankLines_run _), hw, hv,
    List.length_append, State.advance_advance, bind_of_ok (isFinished_run _),
    bind_of_ok (isFinished_run _), ite_run, ite_run]
  split
  · rfl
  · rw [bind_run, bind_run]
    cases indentLevel (s.advance (w.length + v.length)) with
    | error e s₁ => rfl
    | ok level s₁ =>
      dsimp only
      rw [bind_run, bind_run]
      cases blockLines inner level s₁ with
      | error e s₂ => rfl
      | ok o s₂ => simp

/-- Either a block ends before further lines, or it goes on with them. -/
lemma block_split (hI : inner.Sound G) (hC : inner.Complete G) {t : Text}
    (ht : t.isUnindented) (hG : G.Extends ('\n' :: t)) {k k' : Config σ} {out : Text}
    (hblock : WholeBlock G k out k') (hs : s.config = k.extend ('\n' :: t)) :
    (∃ s', block inner s = .ok out s' ∧ s'.config = k'.extend ('\n' :: t)) ∨
    ((k'.rest = [] ∨ ∃ t, k'.rest = '\n' :: t ∧ Text.blankLines t = t) ∧
      ∃ s' : State σ, s'.config = ⟨t, k'.indentation, k'.host⟩ ∧ s.cursor.Reaches s'.cursor ∧
        block inner s = ((out ++ k'.rest ++ '\n' :: ·) <$> block inner) s') := by
  have hx := Text.Further.of_isUnindented ht
  obtain ⟨hrest, hi, hh⟩ := State.config_eq_iff.1 hs
  cases hblock with
  | @blank _ i h hb =>
    have hblank := Text.blankLines_append_newline hb t
    have hdrop : (s.advance (out ++ ['\n']).length).cursor.rest = t := by simp [hrest]
    refine Or.inr ⟨Or.inl rfl, s.advance (out ++ ['\n']).length, ?_, ?_, ?_⟩
    · exact State.config_eq_iff.2 ⟨hdrop, hi, hh⟩
    · exact (Cursor.Reaches.refl _).advance _
    · have hw : s.cursor.rest.blankLines = (out ++ ['\n']) ++ t.blankLines := by
        rw [hrest]
        simpa using hblank
      have hrun : block inner s = _ := block_blank hw (by rw [hdrop])
      simpa using hrun
  | @lines blank r out level i j h _ hb hne hl hlines =>
    obtain ⟨hb', htake⟩ := Text.blankLines_extend hb hne ('\n' :: t)
    rw [List.append_assoc] at hrest
    by_cases hE : EndsBefore level ('\n' :: t)
    · -- The block ends before the further lines as it ended with the text.
      have hw : WholeBlock G ⟨blank ++ (r ++ '\n' :: t), i, h⟩ (blank ++ out)
          (k'.extend ('\n' :: t)) :=
        .lines hb' (by simp) (htake ▸ hl) (hlines.extend hx hE hG.line)
      exact Or.inl (block_complete hC hw s (State.config_eq_iff.2 ⟨hrest, hi, hh⟩))
    · -- The block is at level 0, and so are the further lines.
      rw [EndsBefore, not_or] at hE
      obtain rfl : level = 0 := by omega
      rcases Text.isUnindented_cases ht with hblank | ⟨blank', r', rfl, hbl, hne', hr⟩
      · exact absurd ⟨t, rfl, hblank⟩ hE.2
      refine Or.inr ⟨hlines.rest_of_zero, ?_⟩
      have hrun : block inner s = _ := block_run hrest hb' (by simp) (by rw [htake, hi]; exact hl)
      obtain ⟨s', hk', hreach, heq⟩ := blockLines_split hI hC hG hbl hne' hr hlines
        (s := ⟨s.cursor.advance blank.length, j, s.inDocument, s.host⟩)
        (State.config_eq_iff.2 ⟨by simp [hrest], rfl, hh⟩)
      obtain ⟨hrest', -, -⟩ := State.config_eq_iff.1 hk'
      refine ⟨s', hk', ((Cursor.Reaches.refl _).advance _).trans hreach, ?_⟩
      rw [hrun, map_run, map_run, heq, block_unindented hrest' hbl hne' hr, map_run, map_run]
      cases blockLines inner 0 (s'.advance blank'.length) with
      | error e s₁ => rfl
      | ok o s₁ => simp

/-- Where the first block is read as a block of another text, so is the fragment. -/
lemma fragment_congr (hI : inner.Onward) {s' : State σ} {w : Text}
    (h : block inner s = ((w ++ '\n' :: ·) <$> block inner) s') :
    fragment inner s = ((w ++ '\n' :: ·) <$> fragment inner) s' := by
  rw [fragment_unfold hI, bind_run, h, map_run, map_run, fragment_unfold hI, bind_run]
  cases block inner s' with
  | error e s₁ => rfl
  | ok text s₁ =>
    dsimp only
    rw [bind_of_ok (isFinished_run _), bind_of_ok (isFinished_run _), ite_run, ite_run]
    split
    · rfl
    · rw [bind_of_ok (skip_run 1 _), bind_of_ok (skip_run 1 _), bind_run, bind_run]
      cases fragment inner (s₁.advance 1) with
      | error e s₂ => rfl
      | ok o s₂ => simp

/-- A fragment is read in two parts. -/
lemma fragment_split (hI : inner.Sound G) (hC : inner.Complete G) {t : Text} (ht : t.isUnindented)
    (hG : G.Extends ('\n' :: t)) {k k' : Config σ} {out : Text} (hf : Fragment G k out k')
    (hs : s.config = k.extend ('\n' :: t)) :
    ∃ s' : State σ, s'.config = ⟨t, k'.indentation, k'.host⟩ ∧ s.cursor.Reaches s'.cursor ∧
      fragment inner s = ((out ++ '\n' :: ·) <$> fragment inner) s' := by
  induction hf generalizing s with
  | @last k out i h hb =>
    rcases block_split hI hC ht hG hb hs with ⟨s₁, hs₁, hk₁⟩ | ⟨-, s', hk', hreach, heq⟩
    · obtain ⟨hrest, hi, hh⟩ := State.config_eq_iff.1 hk₁
      have hrest₁ : s₁.cursor.rest = '\n' :: t := hrest
      refine ⟨s₁.advance 1, State.config_eq_iff.2 ⟨by simp [hrest₁], hi, hh⟩,
        (hI.onward.block.reaches hs₁).advance 1, ?_⟩
      rw [fragment_unfold hI.onward, bind_of_ok hs₁, bind_of_ok (isFinished_run _), ite_run,
        hrest₁, if_neg nofun, bind_of_ok (skip_run 1 _), bind_run, map_run]
      cases fragment inner (s₁.advance 1) <;> rfl
    · rw [List.append_nil] at heq
      exact ⟨s', hk', hreach, fragment_congr hI.onward heq⟩
  | @more k k' t₁ text out i h hb hf ih =>
    rcases block_split hI hC ht hG hb hs with ⟨s₁, hs₁, hk₁⟩ | ⟨hrest, s', hk', hreach, heq⟩
    · obtain ⟨hrest, hi, hh⟩ := State.config_eq_iff.1 hk₁
      have hrest₁ : s₁.cursor.rest = '\n' :: (t₁ ++ '\n' :: t) := hrest
      obtain ⟨s', hk', hreach, heq⟩ := ih (s := s₁.advance 1)
        (State.config_eq_iff.2 ⟨by simp [hrest₁], hi, hh⟩)
      refine ⟨s', hk', ((hI.onward.block.reaches hs₁).advance 1).trans hreach, ?_⟩
      rw [fragment_unfold hI.onward, bind_of_ok hs₁, bind_of_ok (isFinished_run _), ite_run,
        hrest₁, if_neg nofun, bind_of_ok (skip_run 1 _), bind_run, heq, map_run, map_run]
      cases fragment inner s' with
      | error e s₂ => rfl
      | ok o s₂ => simp
    · -- What is left of the first part is blank, and it is now a part of its last block.
      have hblank : Text.blankLines t₁ = t₁ := by
        rcases hrest with h0 | ⟨t₂, h1, h2⟩
        · cases h0
        · cases h1
          exact h2
      obtain ⟨rfl, rfl⟩ := hf.eq_of_blank hblank
      exact ⟨s', hk', hreach, fragment_congr hI.onward heq⟩

/-- A fragment in two parts is read as its first part and then, with the unit and the executor as
that leaves them, its second part. Errors of the second part move with it. -/
theorem fragment_append (S : Setup σ) {s t₁ : State σ} {a b o₁ : Text} (hb : b.isUnindented)
    (ha : fragment (.outermost S) { s with cursor := .start a } = .ok o₁ t₁) :
    (∀ o₂ t₂, fragment (.outermost S) { t₁ with cursor := .start b } = .ok o₂ t₂ →
      ∃ t, fragment (.outermost S) { s with cursor := .start (a ++ '\n' :: b) } =
          .ok (o₁ ++ '\n' :: o₂) t ∧ t.indentation = t₂.indentation ∧ t.host = t₂.host) ∧
    (∀ e, EngineError S fragment { t₁ with cursor := .start b } e →
      ∃ l t, e.location = some l ∧
        fragment (.outermost S) { s with cursor := .start (a ++ '\n' :: b) } =
          .error ⟨e.cause, some ⟨a.byteSize + 1 + l.offset, a.count '\n' + 1 + l.line, l.column⟩⟩
            t) := by
  have hx := Text.Further.of_isUnindented hb
  have hf := fragment_sound (Level.outermost_sound S) ha
  obtain ⟨s', hk', hreach, heq⟩ := fragment_split (Level.outermost_sound S)
    (Level.ofRoom_complete S _) hb (ofRoom_extends S hx _) hf
    (s := { s with cursor := .start (a ++ '\n' :: b) }) rfl
  obtain ⟨hrest, hi, hh⟩ := State.config_eq_iff.1 hk'
  have hbehind : s'.cursor.behind = '\n' :: a.reverse := by
    have htext := hreach.text_eq
    rw [Cursor.text, hrest] at htext
    have hrev := List.append_cancel_right (htext.trans (List.append_cons a '\n' b))
    simpa using congrArg List.reverse hrev
  have hrelated : ∀ {placed : Error → Prop} {hp : ∀ e, placed e → e.location.isSome},
      (Lockstep.shifted σ a placed hp).Related { t₁ with cursor := .start b } s' :=
    ⟨⟨hrest.symm, hbehind⟩, hi.symm, trivial, hh.symm⟩
  constructor
  · intro o₂ t₂ h₂
    have hsim := (Lockstep.Levels.outermost (Lockstep.behind_setups a S)).fragment
    obtain ⟨t, ht, hrel⟩ := hsim.ok hrelated h₂
    refine ⟨t, ?_, hrel.indentation_eq.symm, hrel.host.symm⟩
    rw [heq, map_run, ht]
  · intro e he
    obtain ⟨l, hl, u, hu⟩ := he.exists_location
    have hsim := (Lockstep.Levels.outermost (Lockstep.behindAt_setups a l S)).fragment
    obtain ⟨place, t, hp, ht⟩ := Lockstep.behindAt_error hsim hrelated hu hl
    refine ⟨place, t, hp, ?_⟩
    rw [heq, map_run, ht, Location.below_line]

/-- An indented line and, below it, a line or a closing brace that is not indented. -/
theorem fragment_append_indented :
    (∃ t, fragment (.outermost (Translator.ofRegistry .empty).setup)
        (.start [' ', ' ', 'x', '\n', 'y'] ()) = .ok [' ', ' ', 'x', '\n', 'y'] t) ∧
    ∃ t, fragment (.outermost (Translator.ofRegistry .empty).setup)
        (.start [' ', ' ', 'x', '\n', '\x7d'] ()) =
      .error ⟨.unexpectedBrace, some ⟨4, 2, 1⟩⟩ t := by
  have ha : fragment (.outermost (Translator.ofRegistry .empty).setup)
      { State.start [] () with cursor := .start [' ', ' ', 'x'] } =
      .ok [' ', ' ', 'x'] ⟨⟨['x', ' ', ' '], []⟩, .ofUnit [' ', ' '], false, ()⟩ := rfl
  constructor
  · obtain ⟨t, ht, -, -⟩ := (fragment_append _ (b := ['y']) (by decide) ha).1 ['y'] _ rfl
    exact ⟨t, ht⟩
  · obtain ⟨l, t, hl, ht⟩ := (fragment_append _ (b := ['\x7d']) (by decide) ha).2
      ⟨.unexpectedBrace, some ⟨0, 1, 1⟩⟩ ⟨⟨_, rfl⟩, fun l => ⟨_, rfl⟩⟩
    cases hl
    exact ⟨t, ht⟩

end Scan

end IndentTex
