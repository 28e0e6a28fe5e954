import IndentTex.Proofs.Position

/-!
# Places of errors

An error has its place from the engine, which knows how far the run has read, or from the definition
that raised it. The two are told apart by `relocated`, which gives all errors that definitions place
themselves another place: `Scan.EngineError` says that this makes no difference.

The run on a text and the run on the same text behind some lines keep in step
(`Lockstep.shifted`). Their errors have the same causes, and places that differ by those lines,
unless a definition has placed them.
-/

namespace IndentTex

variable {σ : Type}

/-! ### Places in a text that continues another one -/

/-- The place after `lines` that `l` is from the end of `lines`. -/
def Location.below (l : Location) (lines : Text) : Location :=
  ⟨l.offset + lines.byteSize, l.line + lines.count '\n', l.column⟩

/-- A place below a line is one line further down in the same column. -/
lemma Location.below_line (l : Location) (w : Text) :
    l.below (w ++ ['\n']) = ⟨w.byteSize + 1 + l.offset, w.count '\n' + 1 + l.line, l.column⟩ := by
  simp [below, Text.byteSize, show '\n'.utf8Size = 1 from rfl, Nat.add_comm]

/-- The first line of a text is that of everything after it. -/
lemma takeWhile_newline (t u : Text) :
    (t ++ '\n' :: u).takeWhile (· != '\n') = t.takeWhile (· != '\n') := by
  induction t with
  | nil => rfl
  | cons c t ih => cases hc : c != '\n' <;> simp [hc, ih]

/-- A newline starts the columns afresh. -/
lemma Location.after_append (w t : Text) :
    Location.after (w ++ '\n' :: t) = (Location.after t).below (w ++ ['\n']) := by
  have hcolumn : (w ++ '\n' :: t).reverse.takeWhile (· != '\n') =
      t.reverse.takeWhile (· != '\n') := by
    rw [List.reverse_append, List.reverse_cons, List.append_assoc, List.singleton_append,
      takeWhile_newline]
  rw [Location.after, hcolumn]
  simp [Location.after, Location.below, Text.byteSize]
  omega

/-! ### Errors that definitions place -/

/-- The error at another place, if it has a place. -/
def Error.relocated (l : Location) (e : Error) : Error := ⟨e.cause, e.location.map fun _ => l⟩

/-- The expansion that places its errors at `l`, if it places them. -/
def Expansion.relocated (l : Location) : Expansion → Expansion
  | text output => text output
  | error e => error (e.relocated l)
  | execute call next => execute call fun answer => (next answer).relocated l

/-- The command that places its errors at `l`, if it places them. -/
def Command.relocated (l : Location) (c : Command) : Command :=
  { c with generate := fun values => (c.generate values).mapError (·.relocated l) }

/-- The environment that places its errors at `l`, if it places them. -/
def Environment.relocated (l : Location) (e : Environment) : Environment :=
  { e with generate := fun unit body values => (e.generate unit body values).relocated l }

/-- The definition that places its errors at `l`, if it places them. -/
def Definition.relocated (l : Location) : Definition → Definition
  | command c => command (c.relocated l)
  | environment e => environment (e.relocated l)

/-- The setup whose definitions place their errors at `l`, if they place them. -/
def Setup.relocated (l : Location) (S : Setup σ) : Setup σ :=
  { S with registry := S.registry.map (·.relocated l) (·.relocated l) }

/-- A reader fails from `s` with an error that the engine has placed: it is the same error wherever
the definitions place theirs. -/
def Scan.EngineError {α : Type} (S : Setup σ) (reader : Level σ → Scan σ α) (s : State σ)
    (e : Error) : Prop :=
  (∃ s', reader (.outermost S) s = .error e s') ∧
    ∀ l, ∃ s', reader (.outermost (S.relocated l)) s = .error e s'

/-- No definition need place its errors where the engine has placed one. -/
lemma Scan.EngineError.exists_location {α : Type} {S : Setup σ} {reader : Level σ → Scan σ α}
    {s : State σ} {e : Error} (he : EngineError S reader s e) :
    ∃ l, e.location ≠ some l ∧ ∃ s', reader (.outermost (S.relocated l)) s = .error e s' := by
  obtain ⟨l, hl⟩ : ∃ l, e.location ≠ some l := by
    cases e.location with
    | none => exact ⟨⟨0, 0, 0⟩, nofun⟩
    | some l =>
      refine ⟨⟨l.offset + 1, 0, 0⟩, fun h => ?_⟩
      simpa using congrArg (Option.map Location.offset) h
  exact ⟨l, hl, he.2 l⟩

/-- What a name stands for, with its errors placed. -/
lemma Setup.find?_relocated (l : Location) (S : Setup σ) (name : Text) :
    (S.relocated l).registry.find? name = (S.registry.find? name).map (·.relocated l) :=
  Registry.find?_map (fun _ => rfl) (fun _ => rfl) S.registry name

/-- An expansion with its errors placed has the same outcome, but for the places. -/
lemma Expansion.run_relocated (l : Location) (executor : Executor σ) (x : Expansion) (h : σ) :
    (x.relocated l).run executor h =
      ((x.run executor h).1.mapError (·.relocated l), (x.run executor h).2) := by
  induction x generalizing h with
  | text output => rfl
  | error e => rfl
  | execute call next ih => exact ih _ _

/-! ### The same text behind some lines -/

namespace Lockstep

/-- The lockstep of a run with the run of the same reader on the same text behind `lines`. Nothing is
said about errors that are `placed` by definitions in the first run. -/
def shifted (σ : Type) (lines : Text) (placed : Error → Prop)
    (hp : ∀ e, placed e → e.location.isSome) : Lockstep σ σ where
  cursor c d := c.rest = d.rest ∧ d.behind = c.behind ++ '\n' :: lines.reverse
  known _ _ _ := True
  host := Eq
  given e e' := placed e ∨ e = e' ∧ e.location = none
  error e _ e' _ := placed e ∨
    ∃ place, e.location = some place ∧ e' = ⟨e.cause, some (place.below (lines ++ ['\n']))⟩
  excused _ := False
  rest_eq h := h.1
  advance n h := ⟨by simp [h.1], by simp [Cursor.advance, h.1, h.2]⟩
  levelOf_ok _ _ := trivial
  levelOf_error _ _ := trivial
  begun _ := trivial
  raised {c d cause} h _ := by
    refine Or.inr ⟨c.location, rfl, ?_⟩
    rw [d.location_eq, c.location_eq, h.2, ← Location.after_append]
    simp
  placed {c d e e'} h hg := by
    rcases hg with hl | ⟨rfl, hn⟩
    · -- The place that a definition gives is kept.
      obtain ⟨l, hs⟩ := Option.isSome_iff_exists.1 (hp e hl)
      refine Or.inl ?_
      rw [Error.orAt, hs]
      exact hl
    · refine Or.inr ⟨c.location, ?_, ?_⟩
      · simp [Error.orAt, hn]
      · simp only [Error.orAt, hn]
        rw [d.location_eq, c.location_eq, h.2, ← Location.after_append]
        simp

variable {lines : Text}

/-- The lockstep that says nothing about errors placed by definitions. -/
abbrev behind (σ : Type) (lines : Text) : Lockstep σ σ :=
  shifted σ lines (·.location.isSome) fun _ h => h

/-- The lockstep that knows the errors placed by definitions by their place. -/
abbrev behindAt (σ : Type) (lines : Text) (l : Location) : Lockstep σ σ :=
  shifted σ lines (·.location = some l) fun _ h => by simp [h]

/-- A setup corresponds to itself behind some lines. -/
lemma behind_setups (lines : Text) (S : Setup σ) : (behind σ lines).Setups S S := by
  refine .refl (fun e => ?_) (fun _ _ => Iff.rfl) S
  cases he : e.location with
  | none => exact Or.inr ⟨rfl, he⟩
  | some l => exact Or.inl (by simp [he])

/-- An error corresponds to itself where definitions have placed it at `l`. -/
lemma behindAt_given (lines : Text) (l : Location) (e : Error) :
    (behindAt σ lines l).given (e.relocated l) e := by
  obtain ⟨cause, place⟩ := e
  cases place with
  | none => exact Or.inr ⟨rfl, rfl⟩
  | some p => exact Or.inl rfl

/-- A setup corresponds to itself where definitions place their errors at `l`. -/
lemma behindAt_setups (lines : Text) (l : Location) (S : Setup σ) :
    (behindAt σ lines l).Setups (S.relocated l) S := by
  intro name
  rw [Setup.find?_relocated]
  cases S.registry.find? name with
  | none => exact .none
  | some d =>
    cases d with
    | command c =>
      refine .command rfl rfl fun values => ?_
      dsimp only [Command.relocated]
      cases c.generate values with
      | ok t => exact .ok t
      | error e => exact .error (behindAt_given lines l e)
    | environment e =>
      refine .environment rfl rfl rfl fun unit body values h h' he => ?_
      obtain rfl : h = h' := he
      dsimp only [Environment.relocated]
      rw [show (S.relocated l).executor = S.executor from rfl, Expansion.run_relocated]
      generalize (e.generate unit body values).run S.executor h = p
      obtain ⟨output, h⟩ := p
      cases output with
      | ok t => exact .ok t rfl
      | error e => exact .error (behindAt_given lines l e) rfl

/-- A run that fails also fails behind other lines. -/
lemma behind_error {α : Type} {m m' : Scan σ α} {s s' t : State σ} {e : Error}
    (hm : (behind σ lines).Sim Eq m m') (hs : (behind σ lines).Related s t)
    (h : m s = .error e s') : ∃ e' t', m' t = .error e' t' := by
  have ha := hm s t hs
  rw [h] at ha
  cases ht : m' t with
  | ok b t' =>
    rw [ht] at ha
    exact ha.elim
  | error e' t' => exact ⟨e', t', rfl⟩

/-- An error that is not at the place where definitions place theirs moves with the text. -/
lemma behindAt_error {α : Type} {l : Location} {m m' : Scan σ α} {s s' t : State σ} {e : Error}
    (hm : (behindAt σ lines l).Sim Eq m m') (hs : (behindAt σ lines l).Related s t)
    (h : m s = .error e s') (hl : e.location ≠ some l) :
    ∃ place t', e.location = some place ∧
      m' t = .error ⟨e.cause, some (place.below (lines ++ ['\n']))⟩ t' := by
  have ha := hm s t hs
  rw [h] at ha
  cases ht : m' t with
  | ok b t' =>
    rw [ht] at ha
    exact ha.elim
  | error e' t' =>
    rw [ht] at ha
    rcases ha with ha | ⟨hl' | ⟨place, hp, rfl⟩, -⟩
    · exact ha.elim
    · exact absurd hl' hl
    · exact ⟨place, t', hp, rfl⟩

end Lockstep

end IndentTex
