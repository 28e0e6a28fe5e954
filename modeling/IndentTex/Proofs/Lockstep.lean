import IndentTex.Proofs.Indentation
import IndentTex.Proofs.Lookup
import IndentTex.Proofs.Steps

/-!
# Runs in lockstep

Two runs of the same reader keep in step when their cursors have the same text before them and their
indentation units agree. A `Lockstep` says what else the two runs have in common: how their cursors
and their executors correspond, which errors of theirs correspond, and after which errors of the
first run nothing more is said about the second. Its laws are about elementary steps alone. The main
result is `Lockstep.Levels.ofRoom`: whatever the laws allow for elementary steps holds for whole
lines, groups and blocks at every nesting depth.
-/

namespace IndentTex

/-- A way for two runs to keep in step. -/
structure Lockstep (σ τ : Type) where
  /-- Which cursors correspond. -/
  cursor : Cursor → Cursor → Prop
  /-- What is known of the indentation unit, which is the same in both runs, and of whether the
  document has begun in each of them. -/
  known : Indentation → Bool → Bool → Prop
  /-- Which states of the two executors correspond. -/
  host : σ → τ → Prop
  /-- Which errors of definitions correspond. -/
  given : Error → Error → Prop
  /-- Which errors correspond, each with the cursor where its run stopped. -/
  error : Error → Cursor → Error → Cursor → Prop
  /-- Errors of the first run after which the second may do anything. -/
  excused : Cause → Prop
  rest_eq {c d : Cursor} : cursor c d → c.rest = d.rest
  advance {c d : Cursor} (n : Nat) : cursor c d → cursor (c.advance n) (d.advance n)
  levelOf_ok {i j : Indentation} {b b' : Bool} {indent : Text} {level : Nat} :
    known i b b' → Indentation.levelOf indent i = .ok level j → known j b b'
  levelOf_error {i j : Indentation} {b b' : Bool} {indent : Text} {cause : Cause} :
    known i b b' → Indentation.levelOf indent i = .error cause j → known j b b'
  begun {i : Indentation} {b b' : Bool} : known i b b' → known i true true
  raised {c d : Cursor} {cause : Cause} : cursor c d → cause.kind ≠ .internalError →
    error ⟨cause, some c.location⟩ c ⟨cause, some d.location⟩ d
  placed {c d : Cursor} {e e' : Error} : cursor c d → given e e' →
    error (e.orAt c.location) c (e'.orAt d.location) d

namespace Lockstep

variable {σ τ α β γ δ : Type}

/-- Two states that correspond. -/
structure Related (L : Lockstep σ τ) (s : State σ) (t : State τ) : Prop where
  cursor : L.cursor s.cursor t.cursor
  indentation_eq : s.indentation = t.indentation
  known : L.known s.indentation s.inDocument t.inDocument
  host : L.host s.host t.host

/-- Two outcomes that correspond, with values related by `V`. -/
def Agree (L : Lockstep σ τ) (V : α → β → Prop) :
    EStateM.Result Error (State σ) α → EStateM.Result Error (State τ) β → Prop
  | .ok a s, .ok b t => V a b ∧ L.Related s t
  | .error e s, .error e' t =>
    L.excused e.cause ∨ (L.error e s.cursor e' t.cursor ∧ L.Related s t)
  | .error e _, .ok _ _ => L.excused e.cause
  | .ok _ _, .error _ _ => False

/-- Two readers that keep in step and give values related by `V`. -/
def Sim (L : Lockstep σ τ) (V : α → β → Prop) (m : Scan σ α) (m' : Scan τ β) : Prop :=
  ∀ s t, L.Related s t → L.Agree V (m s) (m' t)

/-- Outputs of definitions that correspond. -/
inductive Outputs (L : Lockstep σ τ) : Except Error Text → Except Error Text → Prop where
  | ok (t : Text) : L.Outputs (.ok t) (.ok t)
  | error {e e' : Error} : L.given e e' → L.Outputs (.error e) (.error e')
  | excused {e : Error} {x : Except Error Text} : L.excused e.cause → L.Outputs (.error e) x

/-- Outcomes of expansions that correspond, with the executors' states after them. -/
inductive Outcomes (L : Lockstep σ τ) : Except Error Text × σ → Except Error Text × τ → Prop where
  | ok (t : Text) {h : σ} {h' : τ} : L.host h h' → L.Outcomes (.ok t, h) (.ok t, h')
  | error {e e' : Error} {h : σ} {h' : τ} : L.given e e' → L.host h h' →
    L.Outcomes (.error e, h) (.error e', h')
  | excused {e : Error} {h : σ} {x : Except Error Text × τ} : L.excused e.cause →
    L.Outcomes (.error e, h) x

/-- Definitions that correspond, where an environment is carried out by the executor of its run. A
command that always fails with an excused error corresponds to anything. -/
inductive Definitions (L : Lockstep σ τ) (x : Executor σ) (y : Executor τ) :
    Option Definition → Option Definition → Prop where
  | none : L.Definitions x y none none
  | command {c c' : Command} : c.name = c'.name → c.params = c'.params →
    (∀ values, L.Outputs (c.generate values) (c'.generate values)) →
    L.Definitions x y (some (.command c)) (some (.command c'))
  | environment {e e' : Environment} : e.name = e'.name → e.params = e'.params → e.raw = e'.raw →
    (∀ unit body values h h', L.host h h' →
      L.Outcomes ((e.generate unit body values).run x h)
        ((e'.generate unit body values).run y h')) →
    L.Definitions x y (some (.environment e)) (some (.environment e'))
  | refused {c : Command} {o : Option Definition} : c.params = [] →
    (∀ values, ∃ e, c.generate values = .error e ∧ L.excused e.cause) →
    L.Definitions x y (some (.command c)) o

/-- Two setups whose definitions correspond name by name. -/
def Setups (L : Lockstep σ τ) (S : Setup σ) (T : Setup τ) : Prop :=
  ∀ name, L.Definitions S.executor T.executor (S.registry.find? name) (T.registry.find? name)

/-- Two setups whose commands correspond name by name. -/
def Commands (L : Lockstep σ τ) (S : Setup σ) (T : Setup τ) : Prop :=
  ∀ name, L.Definitions S.executor T.executor ((S.registry.command? name).map .command)
    ((T.registry.command? name).map .command)

/-- Two levels whose readers of groups and brackets keep in step. -/
structure Groups (L : Lockstep σ τ) (inner : Level σ) (inner' : Level τ) : Prop where
  group (close : Char) : L.Sim Eq (inner.group close) (inner'.group close)
  brackets : L.Sim Eq inner.brackets inner'.brackets

/-- Two levels whose readers keep in step. -/
structure Levels (L : Lockstep σ τ) (inner : Level σ) (inner' : Level τ) : Prop
    extends L.Groups inner inner' where
  line (level : Nat) (stop : Bool) : L.Sim Eq (inner.line level stop) (inner'.line level stop)

variable {L : Lockstep σ τ}

/-- After an excused error any outcome of the second run will do. -/
lemma Agree.excused {V : α → β → Prop} {e : Error} {s : State σ} (h : L.excused e.cause)
    (r : EStateM.Result Error (State τ) β) : L.Agree V (.error e s) r := by
  cases r with
  | ok b t => exact h
  | error e' t => exact Or.inl h

/-- Where the first run succeeds, so does the second. -/
lemma Sim.ok {m : Scan σ α} {m' : Scan τ α} (hm : L.Sim Eq m m') {s s' : State σ} {t : State τ}
    {a : α} (hs : L.Related s t) (h : m s = .ok a s') :
    ∃ t', m' t = .ok a t' ∧ L.Related s' t' := by
  have ha := hm s t hs
  rw [h] at ha
  cases ht : m' t with
  | ok b t' =>
    rw [ht] at ha
    obtain ⟨rfl, hr⟩ := ha
    exact ⟨t', rfl, hr⟩
  | error e t' =>
    rw [ht] at ha
    exact ha.elim

/-! ### Elementary steps -/

namespace Sim

/-- Values that correspond keep in step. -/
lemma pure {V : α → β → Prop} {a : α} {b : β} (h : V a b) :
    L.Sim V (Pure.pure a) (Pure.pure b) :=
  fun _ _ r => ⟨h, r⟩

/-- Runs keep in step if their first steps do and the rests do on values that correspond. -/
lemma bind {V : α → β → Prop} {W : γ → δ → Prop} {m : Scan σ α} {m' : Scan τ β}
    {f : α → Scan σ γ} {f' : β → Scan τ δ} (hm : L.Sim V m m')
    (hf : ∀ a b, V a b → L.Sim W (f a) (f' b)) : L.Sim W (m >>= f) (m' >>= f') := by
  intro s t r
  have h := hm s t r
  rw [Scan.bind_run, Scan.bind_run]
  cases hs : m s with
  | ok a s' =>
    cases ht : m' t with
    | ok b t' =>
      rw [hs, ht] at h
      exact hf a b h.1 s' t' h.2
    | error e t' =>
      rw [hs, ht] at h
      exact h.elim
  | error e s' =>
    cases ht : m' t with
    | ok b t' =>
      rw [hs, ht] at h
      exact .excused h _
    | error e' t' =>
      rw [hs, ht] at h
      exact h

/-- Readers that give the same value are followed by the same run. -/
lemma bindEq {W : γ → δ → Prop} {m : Scan σ α} {m' : Scan τ α} {f : α → Scan σ γ}
    {f' : α → Scan τ δ} (hm : L.Sim Eq m m') (hf : ∀ a, L.Sim W (f a) (f' a)) :
    L.Sim W (m >>= f) (m' >>= f') :=
  hm.bind fun a _ e => e ▸ hf a

/-- Functions of the values keep values in step that correspond. -/
lemma map {V : α → β → Prop} {W : γ → δ → Prop} {m : Scan σ α} {m' : Scan τ β}
    {f : α → γ} {f' : β → δ} (hm : L.Sim V m m') (hf : ∀ a b, V a b → W (f a) (f' b)) :
    L.Sim W (f <$> m) (f' <$> m') := by
  rw [map_eq_pure_bind, map_eq_pure_bind]
  exact hm.bind fun a b h => .pure (hf a b h)

/-- Failures keep in step, unless they mark unreachable cases. -/
lemma raise {V : α → β → Prop} {cause : Cause} (h : cause.kind ≠ .internalError) :
    L.Sim V (Scan.raise cause) (Scan.raise cause) :=
  fun _ _ r => Or.inr ⟨L.raised r.cursor h, r⟩

/-- Marks keep in step: the cursors correspond. -/
lemma mark : L.Sim L.cursor Scan.mark Scan.mark := fun _ _ r => ⟨r.cursor, r⟩

/-- Going to cursors that correspond keeps in step. -/
lemma goTo {c d : Cursor} (h : L.cursor c d) : L.Sim Eq (Scan.goTo c) (Scan.goTo d) :=
  fun _ _ r => ⟨rfl, { r with cursor := h }⟩

/-- The states themselves correspond. -/
lemma get : L.Sim L.Related MonadState.get MonadState.get := fun _ _ r => ⟨r, r⟩

/-- The next characters are the same (`peek`). -/
lemma peek : L.Sim Eq Scan.peek Scan.peek :=
  fun _ _ r => ⟨congrArg List.head? (L.rest_eq r.cursor), r⟩

/-- Both sources are finished, or neither is (`is_finished`). -/
lemma isFinished : L.Sim Eq Scan.isFinished Scan.isFinished :=
  fun _ _ r => ⟨congrArg List.isEmpty (L.rest_eq r.cursor), r⟩

/-- Reading a number of characters keeps in step (`advance_one`). -/
lemma skip (n : Nat) : L.Sim Eq (Scan.skip n) (Scan.skip n) :=
  fun _ _ r => ⟨rfl, { r with cursor := L.advance n r.cursor }⟩

/-- The runs at the cursors are the same (`skip_while`). -/
lemma skipWhile (p : Char → Bool) : L.Sim Eq (Scan.skipWhile p) (Scan.skipWhile p) := by
  intro s t r
  rw [Scan.skipWhile_run, Scan.skipWhile_run, ← L.rest_eq r.cursor]
  exact ⟨rfl, { r with cursor := L.advance _ r.cursor }⟩

/-- The blank lines at the cursors are the same (`skip_empty_lines`). -/
lemma skipBlankLines : L.Sim Eq Scan.skipBlankLines Scan.skipBlankLines := by
  intro s t r
  rw [Scan.skipBlankLines_run, Scan.skipBlankLines_run, ← L.rest_eq r.cursor]
  exact ⟨rfl, { r with cursor := L.advance _ r.cursor }⟩

/-- The margins of a level are the same (`prefix`). -/
lemma margin (level : Nat) : L.Sim Eq (Scan.margin level) (Scan.margin level) :=
  fun _ _ r => ⟨congrArg (Indentation.margin · level) r.indentation_eq, r⟩

/-- Loops keep in step if they do for every number of rounds: both have the same number of
characters left. -/
lemma bounded {V : α → β → Prop} {loop : Nat → Scan σ α} {loop' : Nat → Scan τ β}
    (h : ∀ n, L.Sim V (loop n) (loop' n)) : L.Sim V (Scan.bounded loop) (Scan.bounded loop') := by
  intro s t r
  rw [Scan.bounded_run, Scan.bounded_run, ← L.rest_eq r.cursor]
  exact h _ s t r

/-- Outputs that correspond keep in step. -/
lemma produce {x y : Except Error Text} (h : L.Outputs x y) :
    L.Sim Eq (Scan.produce x) (Scan.produce y) := by
  intro s t r
  cases h with
  | ok => exact ⟨rfl, r⟩
  | error h => exact Or.inr ⟨L.placed r.cursor h, r⟩
  | @excused e _ h =>
    refine .excused ?_ _
    unfold Error.orAt
    split <;> exact h

end Sim

/-- The levels of the lines at the cursors are the same (`indent_level`). -/
lemma Sim.indentLevel : L.Sim Eq Scan.indentLevel Scan.indentLevel := by
  intro s t r
  have e : s.cursor.indentation = t.cursor.indentation :=
    congrArg (List.takeWhile isHorizontal) (L.rest_eq r.cursor)
  simp only [Scan.indentLevel]
  rw [← e, ← r.indentation_eq]
  cases h : Indentation.levelOf s.cursor.indentation s.indentation with
  | ok level i =>
    exact ⟨rfl, { r with indentation_eq := rfl, known := L.levelOf_ok r.known h }⟩
  | error cause i =>
    exact Or.inr ⟨L.raised r.cursor (Indentation.levelOf_ne_internal h),
      { r with indentation_eq := rfl, known := L.levelOf_error r.known h }⟩

/-! ### Control sequences and arguments -/

section Readers

variable {S : Setup σ} {T : Setup τ} {inner : Level σ} {inner' : Level τ}

/-- A run up to a character with the property `p`, together with a look at that character. -/
lemma Sim.skipUntil_peek {V : γ → δ → Prop} {p : Char → Bool} {f : Text → Option Char → Scan σ γ}
    {f' : Text → Option Char → Scan τ δ}
    (h : ∀ plain o, (∀ c, o = some c → p c) → L.Sim V (f plain o) (f' plain o)) :
    L.Sim V (Scan.skipUntil p >>= fun plain => Scan.peek >>= f plain)
      (Scan.skipUntil p >>= fun plain => Scan.peek >>= f' plain) := by
  intro s t r
  have e := L.rest_eq (L.advance (s.cursor.rest.takeWhile fun c => !p c).length r.cursor)
  simp only [Scan.skipUntil, Scan.bind_run, Scan.skipWhile_run, Scan.peek_run,
    ← L.rest_eq r.cursor]
  refine (congrArg List.head? e) ▸ h _ _ ?_ _ _ { r with cursor := L.advance _ r.cursor }
  intro c hc
  rw [State.advance_takeWhile_rest] at hc
  simpa using Text.of_head?_dropWhile hc

/-- The names of control sequences are the same (`parse_control_name`). -/
lemma Sim.controlName : L.Sim Eq Scan.controlName Scan.controlName := by
  refine Sim.peek.bindEq fun o => ?_
  cases o with
  | none => exact .raise nofun
  | some c =>
    refine (Sim.skipWhile _).bindEq fun name => ?_
    split
    · exact (Sim.skip 1).bindEq fun _ => .pure rfl
    · exact .pure rfl

/-- Comments are the same (`parse_comment`). -/
lemma Sim.comment : L.Sim Eq Scan.comment Scan.comment :=
  (Sim.skipWhile _).bindEq fun _ => .pure rfl

/-- Literal texts are the same (`scan_raw`). -/
lemma Sim.raw (close : Char) (oneLine : Bool) :
    L.Sim Eq (Scan.raw close oneLine) (Scan.raw close oneLine) := by
  refine Sim.mark.bind fun c d h => ?_
  rw [L.rest_eq h]
  cases Scan.rawText? close oneLine d.rest with
  | none => exact .pure rfl
  | some t => exact (Sim.skip _).bindEq fun _ => .pure rfl

/-- Raw groups are the same. -/
lemma Sim.rawGroup (name : Text) : L.Sim Eq (Scan.rawGroup name) (Scan.rawGroup name) := by
  refine (Sim.raw _ _).bindEq fun o => ?_
  cases o with
  | none => exact (Sim.skipWhile _).bindEq fun _ => .raise nofun
  | some t => exact .pure rfl

/-- Probes that keep in step still do where they go back if nothing is found. -/
lemma Sim.orBack {c d : Cursor} {probe : Scan σ (Option Text)} {probe' : Scan τ (Option Text)}
    (hc : L.cursor c d) (hp : L.Sim Eq probe probe') :
    L.Sim Eq (Scan.orBack c probe) (Scan.orBack d probe') := by
  refine hp.bindEq fun o => ?_
  cases o with
  | none => exact (Sim.goTo hc).bindEq fun _ => .pure rfl
  | some t => exact .pure rfl

/-- Optional arguments keep in step if groups do (`parse_optional_arg`). -/
lemma Groups.optionalArgument (h : L.Groups inner inner') (isRaw : Bool) :
    L.Sim Eq (Scan.optionalArgument inner isRaw) (Scan.optionalArgument inner' isRaw) := by
  refine Sim.mark.bind fun c d hc => (Sim.skipWhile _).bindEq fun _ => Sim.peek.bindEq fun o => ?_
  split
  · refine (Sim.skip 1).bindEq fun _ => .orBack hc ?_
    split
    · exact .raw _ _
    · exact h.brackets
  · exact (Sim.goTo hc).bindEq fun _ => .pure rfl

/-- Required arguments keep in step if groups do (`parse_required_arg`). -/
lemma Groups.requiredArgument (h : L.Groups inner inner') (name : Text) (isRaw : Bool) :
    L.Sim Eq (Scan.requiredArgument inner name isRaw)
      (Scan.requiredArgument inner' name isRaw) := by
  refine (Sim.skipWhile _).bindEq fun _ => Sim.peek.bindEq fun o => ?_
  cases o with
  | none => exact .raise nofun
  | some c =>
    dsimp only
    split
    · refine (Sim.skip 1).bindEq fun _ => ?_
      split
      · exact .rawGroup name
      · exact h.group _
    · exact .raise nofun

/-- Arguments keep in step if groups do. -/
lemma Groups.argument (h : L.Groups inner inner') (name : Text) (slot : Slot) :
    L.Sim Eq (Scan.argument inner name slot) (Scan.argument inner' name slot) := by
  unfold Scan.argument
  split
  · exact h.optionalArgument _
  · exact (h.requiredArgument name _).map fun _ _ e => congrArg some e

/-- The arguments for a list of slots keep in step if groups do (`parse_args`). -/
lemma Groups.arguments (h : L.Groups inner inner') (name : Text) (params : Params) :
    L.Sim Eq (Scan.arguments inner name params) (Scan.arguments inner' name params) := by
  induction params with
  | nil => exact .pure rfl
  | cons slot slots ih =>
    exact (h.argument name slot).bindEq fun v => ih.bindEq fun vs => .pure rfl

/-- Commands that correspond keep in step (`parse_custom_command`). -/
lemma Groups.customCommand (h : L.Groups inner inner') {c c' : Command} (hn : c.name = c'.name)
    (hp : c.params = c'.params)
    (hg : ∀ values, L.Outputs (c.generate values) (c'.generate values)) :
    L.Sim Eq (Scan.customCommand inner c) (Scan.customCommand inner' c') := by
  unfold Scan.customCommand
  rw [hn, hp]
  exact (h.arguments _ _).bindEq fun values => .produce (hg values)

/-- A command that always fails with an excused error. -/
lemma Sim.refusedCommand {V : Text → α → Prop} {c : Command} (hp : c.params = [])
    (hc : ∀ values, ∃ e, c.generate values = .error e ∧ L.excused e.cause) (m' : Scan τ α) :
    L.Sim V (Scan.customCommand inner c) m' := by
  intro s t _
  obtain ⟨e, he, hx⟩ := hc []
  have hrun : Scan.customCommand inner c s = .error (e.orAt s.cursor.location) s := by
    rw [Scan.customCommand, hp]
    change Scan.produce (c.generate []) s = _
    rw [he]
    rfl
  rw [hrun]
  refine .excused ?_ _
  unfold Error.orAt
  split <;> exact hx

/-- Where all definitions correspond, commands do. -/
lemma Setups.commands (hS : L.Setups S T) : L.Commands S T := by
  intro name
  have hd := hS name
  rw [S.registry.command?_eq_find?, T.registry.command?_eq_find?]
  generalize S.registry.find? name = x at hd ⊢
  generalize T.registry.find? name = y at hd ⊢
  cases hd with
  | none => exact .none
  | command hn hp hg => exact .command hn hp hg
  | environment => exact .none
  | refused hp hc => exact .refused hp hc

/-- Control sequences in arguments keep in step if commands correspond (`parse_arg_control`). -/
lemma Groups.argumentControl (hC : L.Commands S T) (h : L.Groups inner inner') :
    L.Sim Eq (Scan.argumentControl S inner) (Scan.argumentControl T inner') := by
  refine Sim.controlName.bindEq fun name => ?_
  have hd := hC name
  generalize S.registry.command? name = x at hd ⊢
  generalize T.registry.command? name = y at hd ⊢
  cases x with
  | none =>
    cases y with
    | none => exact .pure rfl
    | some c' => cases hd
  | some c =>
    cases y with
    | none =>
      cases hd with
      | refused hp hc => exact .refusedCommand hp hc _
    | some c' =>
      cases hd with
      | command hn hp hg => exact h.customCommand hn hp hg
      | refused hp hc => exact .refusedCommand hp hc _

/-- Groups keep in step if those inside them do (`scan_group`). -/
lemma Groups.groupLoop (hC : L.Commands S T) (h : L.Groups inner inner') (close : Char) (n : Nat) :
    L.Sim Eq (Scan.groupLoop S inner close n) (Scan.groupLoop T inner' close n) := by
  induction n with
  | zero => exact .raise nofun
  | succ n ih =>
    refine Sim.skipUntil_peek fun plain o ho => ?_
    cases o with
    | none => exact .raise nofun
    | some c =>
      have hc := ho c rfl
      dsimp only
      split
      · exact (Sim.skip 1).bindEq fun _ => .pure rfl
      split
      · exact .raise nofun
      split
      · exact (Sim.skip 1).bindEq fun _ => (h.group _).bindEq fun _ => ih.bindEq fun _ => .pure rfl
      split
      · exact (Sim.skip 1).bindEq fun _ => (h.argumentControl hC).bindEq fun _ =>
          ih.bindEq fun _ => .pure rfl
      split
      · exact (Sim.skip 1).bindEq fun _ => Sim.comment.bindEq fun _ => ih.bindEq fun _ => .pure rfl
      · simp_all [Scan.endsGroupRun]

/-- The insides of brackets keep in step if groups do (`scan_optional_argstr`). -/
lemma Groups.bracketLoop (hC : L.Commands S T) (h : L.Groups inner inner') (n : Nat) :
    L.Sim Eq (Scan.bracketLoop S inner n) (Scan.bracketLoop T inner' n) := by
  induction n with
  | zero => exact .pure rfl
  | succ n ih =>
    refine Sim.skipUntil_peek fun plain o ho => ?_
    cases o with
    | none => exact .pure rfl
    | some c =>
      have hc := ho c rfl
      dsimp only
      split
      · exact .pure rfl
      split
      · exact (Sim.skip 1).bindEq fun _ => .pure rfl
      split
      · exact .raise nofun
      split
      · exact (Sim.skip 1).bindEq fun _ => (h.group _).bindEq fun _ => ih.bindEq fun _ => .pure rfl
      split
      · exact (Sim.skip 1).bindEq fun _ => (h.group _).bindEq fun _ => ih.bindEq fun _ => .pure rfl
      split
      · exact (Sim.skip 1).bindEq fun _ => (h.argumentControl hC).bindEq fun _ =>
          ih.bindEq fun _ => .pure rfl
      · simp_all [Scan.endsBracketRun]

/-- Bracket arguments keep in step if groups do (`parse_optional_argstr`). -/
lemma Groups.bracketText (hC : L.Commands S T) (h : L.Groups inner inner') :
    L.Sim Eq (Scan.bracketText S inner) (Scan.bracketText T inner') :=
  Sim.mark.bind fun _ _ hc => .orBack hc (.bounded (h.bracketLoop hC))

/-- The arguments of control sequences without a definition keep in step if groups do
(`parse_argstr`). -/
lemma Groups.argumentText (h : L.Groups inner inner') :
    L.Sim Eq (Scan.argumentText inner) (Scan.argumentText inner') := by
  refine .bounded fun n => ?_
  induction n with
  | zero => exact .pure rfl
  | succ n ih =>
    refine Sim.mark.bind fun c d hc => (Sim.skipWhile _).bindEq fun _ => Sim.peek.bindEq fun o => ?_
    have back : L.Sim Eq (do Scan.goTo c; return []) (do Scan.goTo d; return ([] : Text)) :=
      (Sim.goTo hc).bindEq fun _ => .pure rfl
    split
    · exact (Sim.skip 1).bindEq fun _ => (h.group _).bindEq fun _ => ih.bindEq fun _ => .pure rfl
    split
    · refine (Sim.skip 1).bindEq fun _ => h.brackets.bindEq fun body => ?_
      cases body with
      | none => exact back
      | some body => exact ih.bindEq fun _ => .pure rfl
    · exact back

/-! ### Lines and bodies -/

/-- Going to the next line of a block keeps in step. -/
lemma Sim.nextLine (level : Nat) : L.Sim Eq (Scan.nextLine level) (Scan.nextLine level) := by
  refine Sim.mark.bind fun c d hc => Sim.isFinished.bindEq fun finished => ?_
  have back : L.Sim Eq (do Scan.goTo c; return none)
      (do Scan.goTo d; return (none : Option Text)) :=
    (Sim.goTo hc).bindEq fun _ => .pure rfl
  split
  · exact .pure rfl
  · refine (Sim.skip 1).bindEq fun _ => Sim.skipBlankLines.bindEq fun blank =>
      Sim.isFinished.bindEq fun finished => ?_
    split
    · exact back
    · refine Sim.indentLevel.bindEq fun next => ?_
      split
      · exact back
      split
      · exact .raise nofun
      · exact .pure rfl

/-- Sequences of lines keep in step if the lines do. -/
lemma Sim.linesLoop {line : Scan σ Text} {line' : Scan τ Text} (h : L.Sim Eq line line')
    (level n : Nat) : L.Sim Eq (Scan.linesLoop line level n) (Scan.linesLoop line' level n) := by
  induction n with
  | zero => exact h
  | succ n ih =>
    refine h.bindEq fun text => (Sim.nextLine level).bindEq fun o => ?_
    cases o with
    | none => exact .pure rfl
    | some blank => exact ih.bindEq fun _ => .pure rfl

/-- Blocks keep in step if lines do (`parse_block_lines`). -/
lemma Levels.blockLines (h : L.Levels inner inner') (level : Nat) :
    L.Sim Eq (Scan.blockLines inner level) (Scan.blockLines inner' level) := by
  refine .bounded fun n => ?_
  rw [Scan.blockLoop_eq_linesLoop, Scan.blockLoop_eq_linesLoop]
  exact .linesLoop (h.line level false) level n

/-- Literal lines keep in step (`raw_block_lines`). -/
lemma Sim.rawLines (level : Nat) : L.Sim Eq (Scan.rawLines level) (Scan.rawLines level) := by
  refine .bounded fun n => ?_
  rw [Scan.rawLinesLoop_eq_linesLoop, Scan.rawLinesLoop_eq_linesLoop]
  exact .linesLoop (.skipWhile _) level n

/-- Going to the first line of a block keeps in step (`enter_block_body`). -/
lemma Sim.enterBlock (level : Nat) : L.Sim Eq (Scan.enterBlock level) (Scan.enterBlock level) := by
  refine Sim.skipBlankLines.bindEq fun blank => Sim.isFinished.bindEq fun finished => ?_
  split
  · exact .raise nofun
  · refine Sim.indentLevel.bindEq fun next => ?_
    split
    · exact .pure rfl
    · exact .raise nofun

/-- Bodies keep in step if lines do (`parse_environment_body`). -/
lemma Levels.environmentBody (h : L.Levels inner inner') (level : Nat) :
    L.Sim Eq (Scan.environmentBody inner level) (Scan.environmentBody inner' level) := by
  refine (Sim.skipWhile _).bindEq fun _ => Sim.peek.bindEq fun o => ?_
  cases o with
  | none => exact .raise nofun
  | some c =>
    dsimp only
    split
    · exact (Sim.enterBlock level).bindEq fun _ => (h.blockLines _).bindEq fun _ => .pure rfl
    split
    · exact (Sim.skip 1).bindEq fun _ => Sim.comment.bindEq fun _ =>
        (Sim.enterBlock level).bindEq fun _ => (Sim.margin _).bindEq fun _ =>
          (h.blockLines _).bindEq fun _ => .pure rfl
    · exact (h.line level true).bindEq fun _ => .pure rfl

/-- Literal bodies keep in step (`parse_raw_environment_body`). -/
lemma Sim.rawBody (level : Nat) : L.Sim Eq (Scan.rawBody level) (Scan.rawBody level) := by
  refine (Sim.skipWhile _).bindEq fun _ => Sim.peek.bindEq fun o => ?_
  cases o with
  | none => exact .raise nofun
  | some c =>
    dsimp only
    split
    · exact (Sim.enterBlock level).bindEq fun _ => (Sim.rawLines _).bindEq fun _ => .pure rfl
    · exact (Sim.skipWhile _).bindEq fun _ => .pure rfl

/-- Bodies of environments that are both raw or both not keep in step. -/
lemma Levels.customBody (h : L.Levels inner inner') {e e' : Environment} (hr : e.raw = e'.raw)
    (level : Nat) : L.Sim Eq (Scan.customBody inner e level) (Scan.customBody inner' e' level) := by
  unfold Scan.customBody
  rw [hr]
  refine Sim.bindEq (m := if e'.raw then _ else _) ?_ fun body => ?_
  · split
    · exact .rawBody level
    · exact h.environmentBody level
  · split
    · exact (Sim.margin _).bindEq fun _ => .pure rfl
    · exact .pure rfl

/-- Control sequences without a definition keep in step (`parse_native_control`). -/
lemma Levels.nativeControl (h : L.Levels inner inner') (name : Text) (level : Nat) :
    L.Sim Eq (Scan.nativeControl inner name level) (Scan.nativeControl inner' name level) := by
  unfold Scan.nativeControl
  split
  · refine h.argumentText.bindEq fun args => Sim.mark.bind fun c d hc =>
      (Sim.skipWhile _).bindEq fun _ => Sim.peek.bindEq fun o => ?_
    split
    · refine (Sim.skip 1).bindEq fun _ => Sim.bindEq ?_ fun _ => .pure rfl
      refine (h.environmentBody level).bindEq fun body => ?_
      split
      · exact (Sim.margin _).bindEq fun _ => .pure rfl
      · exact .pure rfl
    · exact (Sim.goTo hc).bindEq fun _ => .pure rfl
  · exact .pure rfl

/-- Expansions keep in step if their outcomes correspond. -/
lemma Sim.expand {x : Executor σ} {y : Executor τ} {u v : Expansion}
    (h : ∀ h h', L.host h h' → L.Outcomes (u.run x h) (v.run y h')) :
    L.Sim Eq (Scan.expand x u) (Scan.expand y v) := by
  intro s t r
  have ho := h s.host t.host r.host
  unfold Scan.expand
  generalize u.run x s.host = p at ho ⊢
  generalize v.run y t.host = q at ho ⊢
  cases ho with
  | ok _ hh => exact Sim.produce (.ok _) _ _ { r with host := hh }
  | error he hh => exact Sim.produce (.error he) _ _ { r with host := hh }
  | @excused e _ _ hx => exact .excused (by unfold Error.orAt; split <;> exact hx) _

/-- Environments that correspond keep in step (`parse_custom_environment`). -/
lemma Levels.customEnvironment (h : L.Levels inner inner') {e e' : Environment}
    (hn : e.name = e'.name) (hp : e.params = e'.params) (hr : e.raw = e'.raw)
    (hg : ∀ unit body values h h', L.host h h' →
      L.Outcomes ((e.generate unit body values).run S.executor h)
        ((e'.generate unit body values).run T.executor h')) (level : Nat) :
    L.Sim Eq (Scan.customEnvironment S inner e level)
      (Scan.customEnvironment T inner' e' level) := by
  unfold Scan.customEnvironment
  rw [hn, hp]
  refine (h.arguments _ _).bindEq fun values => (Sim.skipWhile _).bindEq fun _ =>
    Sim.peek.bindEq fun o => ?_
  cases o with
  | none => exact .raise nofun
  | some c =>
    dsimp only
    split
    · refine (Sim.skip 1).bindEq fun _ => (h.customBody hr level).bindEq fun body =>
        Sim.get.bind fun s t r => ?_
      rw [r.indentation_eq]
      exact (Sim.expand (hg _ _ _)).bindEq fun _ => (Sim.margin _).bindEq fun _ => .pure rfl
    · exact .raise nofun

/-- What a name stands for keeps in step if the definitions correspond. -/
lemma Levels.named (hS : L.Setups S T) (h : L.Levels inner inner') (name : Text) (level : Nat) :
    L.Sim Eq
      (match S.registry.find? name with
        | some (.command c) => Scan.customCommand inner c
        | some (.environment e) => Scan.customEnvironment S inner e level
        | none => Scan.nativeControl inner name level)
      (match T.registry.find? name with
        | some (.command c) => Scan.customCommand inner' c
        | some (.environment e) => Scan.customEnvironment T inner' e level
        | none => Scan.nativeControl inner' name level) := by
  have hd := hS name
  generalize S.registry.find? name = x at hd ⊢
  generalize T.registry.find? name = y at hd ⊢
  cases hd with
  | none => exact h.nativeControl name level
  | command hn hp hg => exact h.customCommand hn hp hg
  | environment hn hp hr hg => exact h.customEnvironment hn hp hr hg level
  | refused hp hc => exact .refusedCommand hp hc _

/-- Control sequences in lines keep in step (`parse_block_control`). -/
lemma Levels.lineControl (hS : L.Setups S T) (h : L.Levels inner inner') (level : Nat) :
    L.Sim Eq (Scan.lineControl S inner level) (Scan.lineControl T inner' level) :=
  (Sim.skip 1).bindEq fun _ => Sim.controlName.bindEq fun name => h.named hS name level

/-- Lines keep in step if their control sequences and their groups do. -/
lemma Sim.lineLoopWith {control group : Scan σ Text} {control' group' : Scan τ Text}
    (hc : L.Sim Eq control control') (hg : L.Sim Eq group group') (stop : Bool) (n : Nat) :
    L.Sim Eq (Scan.lineLoopWith control group stop n)
      (Scan.lineLoopWith control' group' stop n) := by
  induction n with
  | zero => exact .pure rfl
  | succ n ih =>
    refine Sim.skipUntil_peek fun plain o ho => ?_
    cases o with
    | none => exact .pure rfl
    | some c =>
      have hnext := ho c rfl
      dsimp only
      split
      · exact .pure rfl
      split
      · exact (Sim.skip 1).bindEq fun _ => Sim.comment.bindEq fun _ => ih.bindEq fun _ => .pure rfl
      split
      · exact hc.bindEq fun _ => ih.bindEq fun _ => .pure rfl
      split
      · exact (Sim.skip 1).bindEq fun _ => hg.bindEq fun _ => ih.bindEq fun _ => .pure rfl
      split
      · exact .raise nofun
      · simp_all [Scan.endsLineRun]

/-- Lines keep in step if the levels below do (`scan_line`). -/
lemma Levels.lineLoop (hS : L.Setups S T) (h : L.Levels inner inner') (level : Nat) (stop : Bool)
    (n : Nat) :
    L.Sim Eq (Scan.lineLoop S inner level stop n) (Scan.lineLoop T inner' level stop n) := by
  rw [Scan.lineLoop_eq_lineLoopWith, Scan.lineLoop_eq_lineLoopWith]
  exact .lineLoopWith (h.lineControl hS level) (h.group _) stop n

/-! ### Nesting, blocks and fragments -/

/-- Groups keep in step if those below do. -/
lemma Groups.above (hC : L.Commands S T) (h : L.Groups inner inner') :
    L.Groups (.above S inner) (.above T inner') where
  group close := .bounded (h.groupLoop hC close)
  brackets := h.bracketText hC

/-- Levels that keep in step are below levels that keep in step. -/
lemma Levels.above (hS : L.Setups S T) (h : L.Levels inner inner') :
    L.Levels (.above S inner) (.above T inner') where
  toGroups := h.toGroups.above hS.commands
  line level stop := .bounded (h.lineLoop hS level stop)

/-- Runs with the same room for nesting keep in step. -/
theorem Levels.ofRoom (hS : L.Setups S T) (n : Nat) :
    L.Levels (.ofRoom S n) (.ofRoom T n) := by
  induction n with
  | zero =>
    exact { group := fun _ => .raise nofun, brackets := .raise nofun,
            line := fun _ _ => .raise nofun }
  | succ n ih => exact ih.above hS

/-- The outermost levels keep in step. -/
lemma Levels.outermost (hS : L.Setups S T) : L.Levels (.outermost S) (.outermost T) :=
  .ofRoom hS maxNesting

/-- Blocks at the level of their first line keep in step (`parse_block`). -/
lemma Levels.block (h : L.Levels inner inner') :
    L.Sim Eq (Scan.block inner) (Scan.block inner') := by
  refine Sim.skipBlankLines.bindEq fun blank => Sim.isFinished.bindEq fun finished => ?_
  split
  · exact .pure rfl
  · exact Sim.indentLevel.bindEq fun level => (h.blockLines level).bindEq fun _ => .pure rfl

/-- Fragments keep in step (`translate_fragment`). -/
lemma Levels.fragment (h : L.Levels inner inner') :
    L.Sim Eq (Scan.fragment inner) (Scan.fragment inner') := by
  refine .bounded fun n => ?_
  induction n with
  | zero => exact h.block
  | succ n ih =>
    refine h.block.bindEq fun text => Sim.isFinished.bindEq fun finished => ?_
    split
    · exact .pure rfl
    · exact (Sim.skip 1).bindEq fun _ => ih.bindEq fun _ => .pure rfl

/-! ### Documents -/

/-- Both documents begin. -/
lemma Sim.begin : L.Sim Eq (modify fun s => { s with inDocument := true } : Scan σ PUnit)
    (modify fun s => { s with inDocument := true } : Scan τ PUnit) :=
  fun _ _ r => ⟨rfl, { r with known := L.begun r.known }⟩

/-- Delimiter lines keep in step. -/
lemma Sim.delimiter : L.Sim Eq Scan.delimiter Scan.delimiter := by
  refine Sim.mark.bind fun c d hc => ?_
  rw [show c.restOfLine = d.restOfLine from congrArg (List.takeWhile _) (L.rest_eq hc)]
  split
  · refine (Sim.skipWhile _).bindEq fun _ => Sim.isFinished.bindEq fun finished => ?_
    split
    · exact .raise nofun
    · exact (Sim.skip 1).bindEq fun _ => .begin
  · exact .raise nofun

/-- The lines of documents keep in step. -/
lemma Levels.documentBody (h : L.Levels inner inner') :
    L.Sim Eq (Scan.documentBody inner) (Scan.documentBody inner') := by
  refine Sim.mark.bind fun c d hc => Sim.skipBlankLines.bindEq fun blank =>
    Sim.isFinished.bindEq fun finished => ?_
  split
  · exact (Sim.goTo hc).bindEq fun _ => .pure rfl
  · refine Sim.mark.bind fun c d hc => ?_
    rw [show c.indentation = d.indentation from congrArg (List.takeWhile _) (L.rest_eq hc)]
    split
    · exact (h.blockLines 0).bindEq fun _ => .pure rfl
    · exact .raise nofun

/-- Documents keep in step (`parse_document`). -/
lemma Levels.document (h : L.Levels inner inner') :
    L.Sim Eq (Scan.document inner) (Scan.document inner') :=
  Sim.delimiter.bindEq fun _ => h.documentBody.bindEq fun _ =>
    (Sim.skipWhile _).bindEq fun _ => .pure rfl

/-- Lines of preambles keep in step. -/
lemma Levels.preambleLine (h : L.Levels inner inner') :
    L.Sim Eq (Scan.preambleLine inner) (Scan.preambleLine inner') := by
  refine Sim.mark.bind fun c d hc => ?_
  have hr := L.rest_eq hc
  rw [show c.isOnBlankLine = d.isOnBlankLine by
      rw [Cursor.isOnBlankLine, Cursor.restOfLine, Cursor.run, hr]; rfl,
    show c.indentation = d.indentation from congrArg (List.takeWhile _) hr,
    show c.peek = d.peek from congrArg List.head? hr]
  split
  · exact .skipWhile _
  split
  · exact .raise (by decide)
  split
  · exact h.line 0 false
  · exact .raise (by decide)

/-- Whole sources keep in step (`parse_root`). -/
lemma Levels.root (h : L.Levels inner inner') :
    L.Sim Eq (Scan.root inner) (Scan.root inner') := by
  refine .bounded fun n => ?_
  induction n with
  | zero => exact .raise nofun
  | succ n ih =>
    refine Sim.mark.bind fun c d hc => ?_
    rw [show c.restOfLine = d.restOfLine from congrArg (List.takeWhile _) (L.rest_eq hc)]
    split
    · exact h.document
    · refine h.preambleLine.bindEq fun line => Sim.isFinished.bindEq fun finished => ?_
      split
      · exact .raise nofun
      · exact (Sim.skip 1).bindEq fun _ => ih.bindEq fun _ => .pure rfl

end Readers

end Lockstep

end IndentTex
