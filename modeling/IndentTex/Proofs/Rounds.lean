import IndentTex.Proofs.Progress
import IndentTex.Proofs.Relocation

/-!
# Rounds of a loop

A round of a loop ends it or goes round again. `Scan.Rounds` says what comes of a loop after a number
of rounds, and `Scan.Advances` that a round which goes round again ends further in the source. A loop
that is made of such rounds has at most one round more than there are characters to read, and no
bound of that size cuts it short (`Scan.Unrolls.rounds`).
-/

namespace IndentTex

variable {σ α β : Type}

/-- How a round of a loop ends: with a value, or with what is made of the value of the rounds that
follow. -/
inductive Turn (α : Type) where
  | stop (a : α)
  | again (put : α → α)

namespace Scan

/-- An outcome with another value. -/
def onValue (f : α → β) : EStateM.Result Error (State σ) α → EStateM.Result Error (State σ) β
  | .ok a s => .ok (f a) s
  | .error e s => .error e s

/-- What comes of a loop that is started in a state, after a number of rounds. -/
inductive Rounds (round : Scan σ (Turn α)) :
    State σ → Nat → EStateM.Result Error (State σ) α → Prop where
  | stop {s s' : State σ} {a : α} : round s = .ok (.stop a) s' → Rounds round s 1 (.ok a s')
  | fail {s s' : State σ} {e : Error} : round s = .error e s' → Rounds round s 1 (.error e s')
  | again {s s' : State σ} {put : α → α} {k : Nat} {x : EStateM.Result Error (State σ) α} :
    round s = .ok (.again put) s' → Rounds round s' k x → Rounds round s (k + 1) (onValue put x)

/-- A round of a loop, and `rest` if it goes round again. -/
def follow (round : Scan σ (Turn α)) (rest : Scan σ α) : Scan σ α := do
  match ← round with
  | .stop a => return a
  | .again put => put <$> rest

section Follow

variable (rest : Scan σ α) {round : Scan σ (Turn α)} {s s' : State σ}

/-- What comes after a round comes after its last step. -/
lemma follow_bind (m : Scan σ β) (f : β → Scan σ (Turn α)) :
    follow (m >>= f) rest = m >>= fun b => follow (f b) rest := bind_assoc _ _ _

/-- A round that stops gives its value. -/
lemma follow_stop (a : α) : follow (pure (.stop a)) rest = pure a := rfl

/-- A round that goes on puts its part to what comes after it. -/
lemma follow_again (put : α → α) : follow (pure (.again put)) rest = put <$> rest := rfl

/-- A round that fails ends the loop. -/
lemma follow_raise (cause : Cause) : follow (raise cause) rest = raise cause := rfl

/-- What comes after a round comes after both of its branches. -/
lemma follow_ite (p : Prop) [Decidable p] (m m' : Scan σ (Turn α)) :
    follow (if p then m else m') rest = if p then follow m rest else follow m' rest := by
  split <;> rfl

/-- A loop ends where a round stops. -/
lemma follow_of_stop {a : α} (h : round s = .ok (.stop a) s') : follow round rest s = .ok a s' :=
  bind_of_ok h

/-- A loop goes on where a round does. -/
lemma follow_of_again {put : α → α} (h : round s = .ok (.again put) s') :
    follow round rest s = onValue put (rest s') := by
  rw [follow, bind_of_ok h]
  exact map_run put rest s'

/-- A loop fails where a round does. -/
lemma follow_of_error {e : Error} (h : round s = .error e s') :
    follow round rest s = .error e s' := by
  rw [follow, bind_run, h]

end Follow

end Scan

/-! ### Progress of a round -/

/-- A cursor is strictly further in the same text than another one. -/
def Cursor.Precedes (c d : Cursor) : Prop := c.Reaches d ∧ d.rest.length < c.rest.length

namespace Cursor

variable {c d e : Cursor}

/-- A cursor that is reached from a later one is later. -/
lemma Precedes.trans_reaches (h : c.Precedes d) (h' : d.Reaches e) : c.Precedes e :=
  ⟨h.1.trans h', Nat.lt_of_le_of_lt h'.length_le h.2⟩

/-- A cursor that is later than one that is reached is later. -/
lemma Reaches.trans_precedes (h : c.Reaches d) (h' : d.Precedes e) : c.Precedes e :=
  ⟨h.trans h'.1, Nat.lt_of_lt_of_le h'.2 h.length_le⟩

/-- Reading a character leads to a later cursor. -/
lemma precedes_advance (hne : c.rest ≠ []) : c.Precedes (c.advance 1) := by
  refine ⟨(Reaches.refl c).advance 1, ?_⟩
  rw [advance_rest, List.length_drop]
  exact Nat.sub_lt (List.length_pos_iff.2 hne) Nat.one_pos

/-- A cursor that is reached is at least as many bytes into the source. -/
lemma Reaches.offset_le (h : c.Reaches d) : c.offset ≤ d.offset := by
  obtain ⟨w, -, hb⟩ := h
  rw [offset, offset, hb, Text.byteSize_append]
  exact Nat.le_add_left _ _

/-- A later cursor is more bytes into the source. -/
lemma Precedes.offset_lt (h : c.Precedes d) : c.offset < d.offset := by
  obtain ⟨⟨w, hr, hb⟩, hlt⟩ := h
  cases w with
  | nil =>
    rw [hr] at hlt
    exact absurd hlt (Nat.lt_irrefl _)
  | cons a w =>
    rw [offset, offset, hb, Text.byteSize_append, Text.byteSize_reverse, Text.byteSize]
    have ha := a.utf8Size_pos
    omega

end Cursor

namespace Scan

/-- Where there is nothing to read, nothing is read. -/
lemma Onward.rest_eq_nil {m : Scan σ α} (hm : Onward m) {s s' : State σ} {a : α}
    (hs : s.cursor.rest = []) (h : m s = .ok a s') : s'.cursor.rest = [] := by
  have hle := hm.length_le h
  rw [hs] at hle
  exact List.eq_nil_of_length_eq_zero (Nat.le_zero.1 hle)

/-- Where the round goes round again from a state, it ends further. -/
def Advances (round : Scan σ (Turn α)) (s : State σ) : Prop :=
  ∀ put s', round s = .ok (.again put) s' → s.cursor.Precedes s'.cursor

namespace Advances

variable {s : State σ}

/-- A round that fails is followed by none. -/
lemma raise (cause : Cause) : Advances (α := α) (raise cause) s := nofun

/-- A round that stops at once is followed by none. -/
lemma pure_stop (a : α) : Advances (pure (.stop a)) s := nofun

/-- A round that stops is followed by none. -/
lemma stop (m : Scan σ β) (f : β → α) : Advances (m >>= fun b => pure (.stop (f b))) s := by
  intro put s' h
  obtain ⟨b, s₁, -, hb⟩ := bind_ok h
  cases hb

/-- A round reads something if it does after a first step that never goes back. -/
lemma bind {m : Scan σ β} {f : β → Scan σ (Turn α)} (hm : Onward m)
    (hf : ∀ b s₁, m s = .ok b s₁ → Advances (f b) s₁) : Advances (m >>= f) s := by
  intro put s' h
  obtain ⟨b, s₁, hb, hrest⟩ := bind_ok h
  exact (hm.reaches hb).trans_precedes (hf b s₁ hb put s' hrest)

/-- A round that looks at the next character reads something if it does where there is one. -/
lemma peek {f : Option Char → Scan σ (Turn α)} (hnone : Advances (f none) s)
    (hsome : ∀ c, s.cursor.rest ≠ [] → Advances (f (some c)) s) : Advances (peek >>= f) s := by
  intro put s' h
  rw [bind_of_ok (peek_run s)] at h
  cases hr : s.cursor.rest with
  | nil =>
    rw [hr] at h
    exact hnone put s' h
  | cons c r =>
    rw [hr] at h
    exact hsome c (hr ▸ List.cons_ne_nil c r) put s' h

/-- A round that looks for the end of the source reads something if it does before the end. -/
lemma isFinished {f : Bool → Scan σ (Turn α)} (htrue : Advances (f true) s)
    (hfalse : s.cursor.rest ≠ [] → Advances (f false) s) : Advances (isFinished >>= f) s := by
  intro put s' h
  rw [bind_of_ok (isFinished_run s)] at h
  cases hr : s.cursor.rest with
  | nil =>
    rw [hr] at h
    exact htrue put s' h
  | cons c r =>
    rw [hr] at h
    exact hfalse (hr ▸ List.cons_ne_nil c r) put s' h

/-- A character is skipped, and what is read after it may be nothing. -/
lemma skip {m : Scan σ β} {f : β → Scan σ (Turn α)} (hne : s.cursor.rest ≠ []) (hm : Onward m)
    (hf : ∀ b s₁ put s', f b s₁ = .ok (.again put) s' → s₁.cursor.Reaches s'.cursor) :
    Advances (Scan.skip 1 >>= fun _ => m >>= f) s := by
  intro put s' h
  rw [bind_of_ok (skip_run 1 s)] at h
  obtain ⟨b, s₁, hb, hrest⟩ := bind_ok h
  have hstep : s.cursor.Precedes (s.advance 1).cursor := Cursor.precedes_advance hne
  exact (hstep.trans_reaches (hm.reaches hb)).trans_reaches (hf b s₁ put s' hrest)

/-- A round that reads a character and more reads something. -/
lemma skip_read {m : Scan σ β} (hne : s.cursor.rest ≠ []) (hm : Onward m) (put : β → α → α) :
    Advances (Scan.skip 1 >>= fun _ => m >>= fun b => pure (.again (put b))) s := by
  apply skip hne hm
  intro b s₁ put' s' h
  cases h
  exact .refl _

/-- A round that reads a character reads something. -/
lemma skip_again (hne : s.cursor.rest ≠ []) (put : α → α) :
    Advances (Scan.skip 1 >>= fun _ => pure (.again put)) s := by
  intro put' s' h
  cases h
  exact Cursor.precedes_advance hne

end Advances

/-! ### From rounds to loops -/

/-- A loop with a bound is made of rounds. At the end of the source one of them is enough. -/
structure Unrolls (round : Scan σ (Turn α)) (loop : Nat → Scan σ α) : Prop where
  last {s : State σ} : s.cursor.rest = [] → loop 0 s = follow round (loop 0) s
  next (n : Nat) : loop (n + 1) = follow round (loop n)

/-- A loop without a bound that goes round as a round says is unrolled by it. -/
lemma Unrolls.const {round : Scan σ (Turn α)} {m : Scan σ α} (h : m = follow round m) :
    Unrolls round fun _ => m := ⟨fun {s} _ => congrFun h s, fun _ => h⟩

section Unrolls

variable {round : Scan σ (Turn α)} {loop : Nat → Scan σ α} {s : State σ}

/-- A loop has one round more than what comes after its first round. -/
lemma Rounds.of_follow {rest : Scan σ α} {b : Nat}
    (h : ∀ put s', round s = .ok (.again put) s' → ∃ k ≤ b, Rounds round s' k (rest s')) :
    ∃ k ≤ b + 1, Rounds round s k (follow round rest s) := by
  cases hr : round s with
  | ok turn s' =>
    cases turn with
    | stop a =>
      rw [follow_of_stop rest hr]
      exact ⟨1, Nat.le_add_left 1 b, .stop hr⟩
    | again put =>
      obtain ⟨k, hk, hrounds⟩ := h put s' hr
      rw [follow_of_again rest hr]
      exact ⟨k + 1, Nat.add_le_add_right hk 1, .again hr hrounds⟩
  | error e s' =>
    rw [follow_of_error rest hr]
    exact ⟨1, Nat.le_add_left 1 b, .fail hr⟩

/-- A bound of as many rounds as there are characters to read never cuts a loop short. -/
theorem Unrolls.rounds (h : Unrolls round loop) (ha : ∀ s, Advances round s) {n : Nat}
    (hn : s.cursor.rest.length ≤ n) :
    ∃ k ≤ s.cursor.rest.length + 1, Rounds round s k (loop n s) := by
  induction n generalizing s with
  | zero =>
    have hs : s.cursor.rest = [] := List.eq_nil_of_length_eq_zero (Nat.le_zero.1 hn)
    rw [h.last hs]
    apply Rounds.of_follow
    intro put s' hr
    have hlt := (ha s put s' hr).2
    rw [hs] at hlt
    exact absurd hlt (Nat.not_lt_zero _)
  | succ n ih =>
    rw [h.next]
    apply Rounds.of_follow
    intro put s' hr
    have hlt := (ha s put s' hr).2
    obtain ⟨k, hk, hrounds⟩ := ih (s := s') (by omega)
    exact ⟨k, by omega, hrounds⟩

/-- A run that is followed by another character is read as a whole. -/
lemma skipWhile_append {p : Char → Bool} {w r : Text} (hs : s.cursor.rest = w ++ r)
    (hw : w.all p) (hr : r.starts p = false) : skipWhile p s = .ok w (s.advance w.length) := by
  rw [skipWhile_run, hs, Text.takeWhile_run hw hr]

/-- Nothing is read at the end of the source. -/
lemma skipWhile_of_nil (p : Char → Bool) (hs : s.cursor.rest = []) : skipWhile p s = .ok [] s := by
  rw [skipWhile_append (w := []) (r := []) hs rfl rfl, List.length_nil, State.advance_zero]

/-- A round that starts with a plain run finds nothing at the end of the source. -/
lemma follow_plain_of_nil {p : Char → Bool} {f : Text → Option Char → Scan σ (Turn α)}
    (hs : s.cursor.rest = []) (rest : Scan σ α) :
    follow (skipUntil p >>= fun plain => peek >>= f plain) rest s = follow (f [] none) rest s := by
  rw [follow_bind, skipUntil, bind_of_ok (skipWhile_of_nil _ hs), follow_bind,
    bind_of_ok (peek_run _), hs]
  rfl

end Unrolls

end Scan

end IndentTex
