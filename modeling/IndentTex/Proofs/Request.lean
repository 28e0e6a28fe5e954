import IndentTex.Proofs.Progress

/-!
# Requests to a run

A run can be asked for each of its readers. A `Request` is such a reader with its arguments, and
`Request.run` carries it out. What holds for all readers is proved for all requests at once:
`Lockstep.Levels.request` says that requests keep in step as their readers do, `Request.later` what a
request does to the state whether it succeeds or fails, and `Request.fault` what its errors are like.
-/

namespace IndentTex

variable {σ τ α : Type}

/-- What a run can be asked for, by the type of the answer. -/
inductive Request : Type → Type where
  | controlName : Request Text
  | argumentControl : Request Text
  | comment : Request Text
  | group (close : Char) : Request Text
  | optionalArgument (isRaw : Bool) : Request (Option Text)
  | requiredArgument (name : Text) (isRaw : Bool) : Request Text
  | arguments (name : Text) (params : Params) : Request (List (Option Text))
  | brackets : Request (Option Text)
  | argumentText : Request Text
  | customCommand (c : Command) : Request Text
  | block : Request Text
  | blockLines (level : Nat) : Request Text
  | line (level : Nat) (stopAtComment : Bool) : Request Text
  | lineControl (level : Nat) : Request Text
  | nativeControl (name : Text) (level : Nat) : Request Text
  | customEnvironment (v : Environment) (level : Nat) : Request Text
  | environmentBody (level : Nat) : Request Scan.Body
  | rawBody (level : Nat) : Request Scan.Body
  | document : Request Text
  | root : Request Text
  | fragment : Request Text

namespace Request

/-- Carries out a request. -/
def run (S : Setup σ) (inner : Level σ) : {α : Type} → Request α → Scan σ α
  | _, controlName => Scan.controlName
  | _, argumentControl => Scan.argumentControl S inner
  | _, comment => Scan.comment
  | _, group close => inner.group close
  | _, optionalArgument isRaw => Scan.optionalArgument inner isRaw
  | _, requiredArgument name isRaw => Scan.requiredArgument inner name isRaw
  | _, arguments name params => Scan.arguments inner name params
  | _, brackets => inner.brackets
  | _, argumentText => Scan.argumentText inner
  | _, customCommand c => Scan.customCommand inner c
  | _, block => Scan.block inner
  | _, blockLines level => Scan.blockLines inner level
  | _, line level stopAtComment => inner.line level stopAtComment
  | _, lineControl level => Scan.lineControl S inner level
  | _, nativeControl name level => Scan.nativeControl inner name level
  | _, customEnvironment v level => Scan.customEnvironment S inner v level
  | _, environmentBody level => Scan.environmentBody inner level
  | _, rawBody level => Scan.rawBody level
  | _, document => Scan.document inner
  | _, root => Scan.root inner
  | _, fragment => Scan.fragment inner

/-- The definition that comes with a request. -/
def definition? : {α : Type} → Request α → Option Definition
  | _, customCommand c => some (.command c)
  | _, customEnvironment v _ => some (.environment v)
  | _, _ => none

end Request

/-- Requests keep in step where the definitions that come with them correspond. -/
theorem Lockstep.Levels.request {L : Lockstep σ τ} {S : Setup σ} {T : Setup τ} {inner : Level σ}
    {inner' : Level τ} (hS : L.Setups S T) (h : L.Levels inner inner') (r : Request α)
    (hr : L.Definitions S.executor T.executor r.definition? r.definition?) :
    L.Sim Eq (r.run S inner) (r.run T inner') := by
  cases r with
  | controlName => exact .controlName
  | argumentControl => exact h.argumentControl hS.commands
  | comment => exact .comment
  | group close => exact h.group close
  | optionalArgument isRaw => exact h.optionalArgument isRaw
  | requiredArgument name isRaw => exact h.requiredArgument name isRaw
  | arguments name params => exact h.arguments name params
  | brackets => exact h.brackets
  | argumentText => exact h.argumentText
  | customCommand c =>
    cases hr with
    | command hn hp hg => exact h.customCommand hn hp hg
    | refused hp hc => exact .refusedCommand hp hc _
  | block => exact h.block
  | blockLines level => exact h.blockLines level
  | line level stopAtComment => exact h.line level stopAtComment
  | lineControl level => exact h.lineControl hS level
  | nativeControl name level => exact h.nativeControl name level
  | customEnvironment v level =>
    cases hr with
    | environment hn hp hr hg => exact h.customEnvironment hn hp hr hg level
  | environmentBody level => exact h.environmentBody level
  | rawBody level => exact .rawBody level
  | document => exact h.document
  | root => exact h.root
  | fragment => exact h.fragment

/-! ### What becomes of the state -/

/-- The state in which a run ends, whether it succeeds or fails. -/
def Scan.final (m : Scan σ α) (s : State σ) : State σ :=
  match m s with
  | .ok _ s' => s'
  | .error _ s' => s'

/-- What a later state of a run has from an earlier one. -/
structure State.Later (s s' : State σ) : Prop where
  reaches : s.cursor.Reaches s'.cursor
  keeps : s.indentation.Keeps s'.indentation
  isValid : s.indentation.IsValid → s'.indentation.IsValid
  inDocument : s.inDocument → s'.inDocument

namespace State.Later

variable {s s' s'' : State σ}

/-- A state comes after itself. -/
lemma refl (s : State σ) : s.Later s := ⟨.refl _, .refl _, id, id⟩

/-- A state that comes after a later one is later. -/
lemma trans (h : s.Later s') (h' : s'.Later s'') : s.Later s'' where
  reaches := h.reaches.trans h'.reaches
  keeps := h.keeps.trans h'.keeps
  isValid hi := h'.isValid (h.isValid hi)
  inDocument hb := h'.inDocument (h.inDocument hb)

end State.Later

/-- What errors are like: those that definitions give, and those that a run ends with, each with the
cursor where the run has stopped. -/
structure Faults where
  given : Error → Prop
  fault : Error → Cursor → Prop
  raised {cause : Cause} (c : Cursor) : cause.kind ≠ .internalError →
    fault ⟨cause, some c.location⟩ c
  placed {e : Error} (c : Cursor) : given e → fault (e.orAt c.location) c

/-- Nothing is said about errors. -/
def Faults.any : Faults where
  given _ := True
  fault _ _ := True
  raised _ _ := trivial
  placed _ _ := trivial

/-- The lockstep of a run with itself that watches its states, which come after `s`, and its
errors. -/
def Lockstep.watching (s : State σ) (F : Faults) : Lockstep σ σ where
  cursor c d := c = d ∧ s.cursor.Reaches c
  known i b _ := s.indentation.Keeps i ∧ (s.indentation.IsValid → i.IsValid) ∧ (s.inDocument → b)
  host := Eq
  given e e' := e = e' ∧ F.given e
  error e c _ _ := F.fault e c
  excused _ := False
  rest_eq h := h.1 ▸ rfl
  advance n h := ⟨h.1 ▸ rfl, h.2.advance n⟩
  levelOf_ok h hl :=
    ⟨h.1.trans (.of_levelOf hl), fun hi => (h.2.1 hi).of_levelOf hl, h.2.2⟩
  levelOf_error h hl := Indentation.eq_of_levelOf_error hl ▸ h
  begun h := ⟨h.1, h.2.1, fun _ => rfl⟩
  raised {c _ _} _ hc := F.raised c hc
  placed {c _ _ _} _ hg := F.placed c hg.2

/-- The errors of the registered definitions have the property `P`. -/
def Setup.Gives (S : Setup σ) (P : Error → Prop) : Prop :=
  ∀ name d, S.registry.find? name = some d → d.Gives S.executor P

/-- The errors of the definition that comes with a request have the property `P`. -/
def Request.Gives (r : Request α) (x : Executor σ) (P : Error → Prop) : Prop :=
  ∀ d ∈ r.definition?, d.Gives x P

namespace Request

variable {S : Setup σ} {F : Faults} {s s' : State σ} {e : Error}

/-- A request on a state keeps in step with itself, and its states and errors are watched. -/
lemma watching (hS : S.Gives F.given) {r : Request α} (hr : r.Gives S.executor F.given) (n : Nat)
    (s : State σ) :
    (Lockstep.watching s F).Agree Eq (r.run S (.ofRoom S n) s) (r.run S (.ofRoom S n) s) := by
  have hlift : ∀ {d : Definition}, d.Gives S.executor F.given →
      d.Gives S.executor fun e => (Lockstep.watching s F).given e e := by
    intro d hd
    cases d with
    | command c => exact fun values e he => ⟨rfl, hd values e he⟩
    | environment v => exact fun unit body values h e he => ⟨rfl, hd unit body values h e he⟩
  have hsetups : (Lockstep.watching s F).Setups S S := by
    intro name
    refine .refl (fun _ _ => Iff.rfl) fun d hd => ?_
    exact hlift (hS name d hd)
  have hrequest : (Lockstep.watching s F).Definitions S.executor S.executor r.definition?
      r.definition? := .refl (fun _ _ => Iff.rfl) fun d hd => hlift (hr d hd)
  apply (Lockstep.Levels.ofRoom hsetups n).request hsetups r hrequest
  exact ⟨⟨rfl, .refl _⟩, rfl, ⟨.refl _, id, id⟩, rfl⟩

/-- Whether it succeeds or fails, a request leads to a later state. -/
theorem later (S : Setup σ) (n : Nat) (r : Request α) (s : State σ) :
    s.Later ((r.run S (.ofRoom S n)).final s) := by
  have hS : S.Gives Faults.any.given := fun _ d _ => .of_forall (fun _ => trivial) d
  have hr : r.Gives S.executor Faults.any.given := fun d _ => .of_forall (fun _ => trivial) d
  have ha := watching hS hr n s
  unfold Scan.final
  cases hm : r.run S (.ofRoom S n) s with
  | ok a s' =>
    rw [hm] at ha
    obtain ⟨-, hc, -, hk, -⟩ := ha
    exact ⟨hc.2, hk.1, hk.2.1, hk.2.2⟩
  | error e s' =>
    rw [hm] at ha
    rcases ha with ha | ⟨-, hc, -, hk, -⟩
    · exact ha.elim
    · exact ⟨hc.2, hk.1, hk.2.1, hk.2.2⟩

/-- Where a request fails, its error is as errors are. -/
theorem fault (hS : S.Gives F.given) {r : Request α} (hr : r.Gives S.executor F.given) {n : Nat}
    (h : r.run S (.ofRoom S n) s = .error e s') : F.fault e s'.cursor := by
  have ha := watching hS hr n s
  rw [h] at ha
  rcases ha with ha | ⟨hf, -⟩
  · exact ha.elim
  · exact hf

end Request

end IndentTex
