import IndentTex.Proofs.Lockstep

/-!
# Progress of a run

A run never goes back behind the place where it started, and an indentation unit that is set stays
as it is. Both come from a single lockstep of a run with itself, `Lockstep.onward`.
-/

namespace IndentTex

variable {σ τ α : Type}

/-- A cursor is further in the same text than another one. -/
def Cursor.Reaches (c d : Cursor) : Prop :=
  ∃ w, c.rest = w ++ d.rest ∧ d.behind = w.reverse ++ c.behind

namespace Cursor.Reaches

variable {c d e : Cursor}

/-- A cursor reaches itself. -/
lemma refl (c : Cursor) : c.Reaches c := ⟨[], rfl, rfl⟩

/-- A cursor that is reached from one that is reached is reached. -/
lemma trans (h : c.Reaches d) (h' : d.Reaches e) : c.Reaches e := by
  obtain ⟨w, hr, hb⟩ := h
  obtain ⟨w', hr', hb'⟩ := h'
  exact ⟨w ++ w', by simp [hr, hr'], by simp [hb, hb']⟩

/-- Reading on reaches a further cursor. -/
lemma advance (h : c.Reaches d) (n : Nat) : c.Reaches (d.advance n) :=
  h.trans ⟨d.rest.take n, (List.take_append_drop n d.rest).symm, rfl⟩

/-- No more is left where a cursor is further. -/
lemma length_le (h : c.Reaches d) : d.rest.length ≤ c.rest.length := by
  obtain ⟨w, hr, -⟩ := h
  simp [hr]

/-- A cursor that is further is in the same text. -/
lemma text_eq (h : c.Reaches d) : d.text = c.text := by
  obtain ⟨w, hr, hb⟩ := h
  simp [Cursor.text, hr, hb]

/-- The cursor that is reached, by how much of the text it has left. -/
lemma advance_eq (h : c.Reaches d) {w : Text} (hw : c.rest = w ++ d.rest) :
    c.advance w.length = d := by
  obtain ⟨v, hr, hb⟩ := h
  obtain rfl : w = v := List.append_cancel_right (hw.symm.trans hr)
  obtain ⟨behind, rest⟩ := d
  simp only at hr hb
  simp [Cursor.advance, hr, hb]

end Cursor.Reaches

/-- The errors of a definition that is carried out by the executor `x` have the property `P`. -/
def Definition.Gives (x : Executor σ) (P : Error → Prop) : Definition → Prop
  | command c => ∀ values e, c.generate values = .error e → P e
  | environment v =>
    ∀ unit body values h e, ((v.generate unit body values).run x h).1 = .error e → P e

/-- The errors of a definition have every property that all errors have. -/
lemma Definition.Gives.of_forall {x : Executor σ} {P : Error → Prop} (h : ∀ e, P e)
    (d : Definition) : d.Gives x P := by
  cases d with
  | command c => exact fun _ e _ => h e
  | environment v => exact fun _ _ _ _ e _ => h e

/-- A definition corresponds to itself where its errors do and equal executor states do. -/
lemma Lockstep.Definitions.refl {L : Lockstep σ σ} {x : Executor σ}
    (hh : ∀ h h', L.host h h' ↔ h = h') {o : Option Definition}
    (ho : ∀ d ∈ o, d.Gives x fun e => L.given e e) : L.Definitions x x o o := by
  cases o with
  | none => exact .none
  | some d =>
    have hd := ho d rfl
    cases d with
    | command c =>
      refine .command rfl rfl fun values => ?_
      cases hg : c.generate values with
      | ok t => exact .ok t
      | error e => exact .error (hd values e hg)
    | environment v =>
      refine .environment rfl rfl rfl fun unit body values h h' he => ?_
      obtain rfl := (hh h h').1 he
      have hv := hd unit body values h
      revert hv
      generalize (v.generate unit body values).run x h = p
      obtain ⟨output, h⟩ := p
      intro hv
      cases output with
      | ok t => exact .ok t ((hh h h).2 rfl)
      | error e => exact .error (hv e rfl) ((hh h h).2 rfl)

/-- A setup corresponds to itself where its errors do and equal executor states do. -/
lemma Lockstep.Setups.refl {L : Lockstep σ σ} (hg : ∀ e, L.given e e)
    (hh : ∀ h h', L.host h h' ↔ h = h') (S : Setup σ) : L.Setups S S :=
  fun _ => .refl hh fun d _ => .of_forall hg d

/-- The lockstep of a run with itself that watches where the run is, seen from `start`, and whether
the unit in `i` is kept. -/
def Lockstep.onward (σ : Type) (start : Cursor) (i : Indentation) : Lockstep σ σ where
  cursor c d := c = d ∧ start.Reaches c
  known j _ _ := ∀ u, i.unit = some u → j.unit = some u
  host := Eq
  given := Eq
  error _ _ _ _ := True
  excused _ := False
  rest_eq h := h.1 ▸ rfl
  advance n h := ⟨h.1 ▸ rfl, h.2.advance n⟩
  levelOf_ok h hl u hu := (Indentation.levelOf_unit (h u hu)).1 _ hl
  levelOf_error h hl u hu := (Indentation.levelOf_unit (h u hu)).2 _ hl
  begun h := h
  raised _ _ := trivial
  placed _ _ := trivial

/-- Readers that never go back and keep the indentation unit. -/
def Scan.Onward (m : Scan σ α) : Prop :=
  ∀ start i, (Lockstep.onward σ start i).Sim Eq m m

/-- Levels whose readers never go back and keep the indentation unit. -/
def Level.Onward (inner : Level σ) : Prop :=
  ∀ start i, (Lockstep.onward σ start i).Levels inner inner

/-- A setup corresponds to itself however far the run is. -/
lemma Lockstep.onward_setups (start : Cursor) (i : Indentation) (S : Setup σ) :
    (Lockstep.onward σ start i).Setups S S :=
  .refl (fun _ => rfl) (fun _ _ => Iff.rfl) S

/-- No level goes back. -/
theorem Level.ofRoom_onward (S : Setup σ) (n : Nat) : (Level.ofRoom S n).Onward :=
  fun start i => .ofRoom (Lockstep.onward_setups start i S) n

namespace Scan.Onward

variable {m : Scan σ α} {s s' : State σ} {a : α}

/-- A run that succeeds ends in a state that is further and keeps the unit. -/
lemma related (hm : Onward m) (h : m s = .ok a s') :
    (Lockstep.onward σ s.cursor s.indentation).Related s' s' := by
  have r : (Lockstep.onward σ s.cursor s.indentation).Related s s :=
    ⟨⟨rfl, .refl _⟩, rfl, fun _ hu => hu, rfl⟩
  have ha := hm s.cursor s.indentation s s r
  rw [h] at ha
  exact ha.2

/-- A run that succeeds ends at or after its start. -/
lemma reaches (hm : Onward m) (h : m s = .ok a s') : s.cursor.Reaches s'.cursor :=
  (hm.related h).cursor.2

/-- A run that succeeds keeps the unit. -/
lemma unit_eq (hm : Onward m) (h : m s = .ok a s') {u : Text} (hu : s.indentation.unit = some u) :
    s'.indentation.unit = some u :=
  (hm.related h).known u hu

/-- A run that succeeds leaves no more than there was. -/
lemma length_le (hm : Onward m) (h : m s = .ok a s') :
    s'.cursor.rest.length ≤ s.cursor.rest.length :=
  (hm.reaches h).length_le

end Scan.Onward

/-- A mark stays where it is. -/
lemma Scan.Onward.mark : Scan.Onward (σ := σ) Scan.mark := fun _ _ _ _ r => ⟨r.cursor.1, r⟩

/-- Going to the next line never goes back: where there is none, the cursor is where it was. -/
lemma Scan.nextLine_onward (level : Nat) : Scan.Onward (σ := σ) (Scan.nextLine level) :=
  fun _ _ => .nextLine level

namespace Level.Onward

variable {S : Setup σ} {inner : Level σ}

/-- Groups never go back. -/
lemma group (h : inner.Onward) (close : Char) : Scan.Onward (inner.group close) :=
  fun start i => (h start i).group close

/-- Brackets never go back. -/
lemma brackets (h : inner.Onward) : Scan.Onward inner.brackets := fun start i => (h start i).brackets

/-- Lines never go back. -/
lemma line (h : inner.Onward) (level : Nat) (stop : Bool) : Scan.Onward (inner.line level stop) :=
  fun start i => (h start i).line level stop

/-- Control sequences in arguments never go back. -/
lemma argumentControl (h : inner.Onward) : Scan.Onward (Scan.argumentControl S inner) :=
  fun start i => (h start i).argumentControl (Lockstep.onward_setups start i S).commands

/-- A control sequence in a line is read at least past its backslash. -/
lemma lineControl_length_le (h : inner.Onward) {level : Nat} {s s' : State σ} {out : Text}
    (hr : Scan.lineControl S inner level s = .ok out s') :
    s'.cursor.rest.length ≤ (s.advance 1).cursor.rest.length := by
  rw [Scan.lineControl, Scan.bind_of_ok (Scan.skip_run 1 s)] at hr
  refine Scan.Onward.length_le (fun start i => ?_) hr
  exact Lockstep.Sim.controlName.bindEq fun name =>
    (h start i).named (Lockstep.onward_setups start i S) name level

/-- A level above one that never goes back never does. -/
lemma above (h : inner.Onward) : (Level.above S inner).Onward :=
  fun start i => (h start i).above (Lockstep.onward_setups start i S)

/-- Blocks never go back. -/
lemma blockLines (h : inner.Onward) (level : Nat) : Scan.Onward (Scan.blockLines inner level) :=
  fun start i => (h start i).blockLines level

/-- Blocks at the level of their first line never go back. -/
lemma block (h : inner.Onward) : Scan.Onward (Scan.block inner) := fun start i => (h start i).block

/-- Fragments never go back. -/
lemma fragment (h : inner.Onward) : Scan.Onward (Scan.fragment inner) :=
  fun start i => (h start i).fragment

end Level.Onward

end IndentTex
