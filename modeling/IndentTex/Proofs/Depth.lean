import IndentTex.Proofs.Request

/-!
# Depth of nesting

Groups, arguments and lines contain each other, and `Level.ofRoom` unrolls that recursion as far as
the limit allows. Here the same recursion is written with a counter in the state. `Scan.nested`
refuses to go beyond the limit, counts up before a reader and down after it, and every reader of
`Level.counting` goes through it.

The two forms agree. The equation of the counted recursion has exactly one solution
(`Level.eq_counting_iff`), and with it a request ends as it ends with the levels that are unrolled, at
the depth where it started, without ever having been deeper than the limit (`Request.run_nesting`).
-/

namespace IndentTex

variable {σ τ α β : Type}

/-- The state of an executor, with how deep a run is nested now and how deep it has been. -/
structure Counted (σ : Type) where
  depth : Nat
  deepest : Nat
  host : σ

namespace Counted

/-- One level deeper. -/
def deeper (h : Counted σ) : Counted σ :=
  { h with depth := h.depth + 1, deepest := max h.deepest (h.depth + 1) }

/-- One level back. -/
def back (h : Counted σ) : Counted σ := { h with depth := h.depth - 1 }

/-- The same counters and executors, at depth `d`. -/
def Same (d : Nat) (h h' : Counted σ) : Prop := h = h' ∧ h.depth = d

/-- Counters at depth `d` that have kept to the limit, with an executor in the state `h'`. -/
def Over (d : Nat) (h : Counted σ) (h' : σ) : Prop :=
  h.host = h' ∧ h.depth = d ∧ h.deepest ≤ maxNesting

/-- Equal counters are equal one level deeper. -/
lemma Same.deeper {d : Nat} {h h' : Counted σ} (hs : Same d h h') :
    Same (d + 1) h.deeper h'.deeper :=
  ⟨congrArg Counted.deeper hs.1, congrArg Nat.succ hs.2⟩

/-- Equal counters are equal one level back. -/
lemma Same.back {d : Nat} {h h' : Counted σ} (hs : Same (d + 1) h h') : Same d h.back h'.back :=
  ⟨congrArg Counted.back hs.1, congrArg Nat.pred hs.2⟩

/-- Below the limit, counters keep to it one level deeper. -/
lemma Over.deeper {d : Nat} {h : Counted σ} {h' : σ} (hd : d < maxNesting) (ho : Over d h h') :
    Over (d + 1) h.deeper h' := by
  obtain ⟨hh, hdepth, hle⟩ := ho
  refine ⟨hh, congrArg Nat.succ hdepth, Nat.max_le.2 ⟨hle, ?_⟩⟩
  rw [hdepth]
  exact hd

/-- Counters that keep to the limit keep to it one level back. -/
lemma Over.back {d : Nat} {h : Counted σ} {h' : σ} (ho : Over (d + 1) h h') : Over d h.back h' :=
  ⟨ho.1, congrArg Nat.pred ho.2.1, ho.2.2⟩

end Counted

/-- The executor under counters, which it leaves alone. -/
def Executor.counted (x : Executor σ) : Executor (Counted σ) where
  answer call h := ((x.answer call h.host).1, { h with host := (x.answer call h.host).2 })

/-- The setup with its executor under counters. -/
def Setup.counted (S : Setup σ) : Setup (Counted σ) := ⟨S.registry, S.executor.counted⟩

/-- The state with an executor in another state. -/
def State.withHost (s : State σ) (h : τ) : State τ := ⟨s.cursor, s.indentation, s.inDocument, h⟩

/-- The state with counters. -/
def State.counted (s : State σ) (depth deepest : Nat) : State (Counted σ) :=
  s.withHost ⟨depth, deepest, s.host⟩

namespace Scan

/-- Runs a reader between two changes of the executor's state, whether it succeeds or fails. -/
def around (f g : σ → σ) (m : Scan σ α) : Scan σ α := fun s =>
  match m (s.withHost (f s.host)) with
  | .ok a s' => .ok a (s'.withHost (g s'.host))
  | .error e s' => .error e (s'.withHost (g s'.host))

/-- Runs a reader one level deeper, unless that is beyond the limit. -/
def nested (m : Scan (Counted σ) α) : Scan (Counted σ) α := do
  if maxNesting ≤ (← get).host.depth then
    raise .nestingTooDeep
  else
    around Counted.deeper Counted.back m

/-- An outcome with another state. -/
def onState (f : State σ → State τ) :
    EStateM.Result Error (State σ) α → EStateM.Result Error (State τ) α
  | .ok a s => .ok a (f s)
  | .error e s => .error e (f s)

/-- An outcome with its own state. -/
lemma onState_id (x : EStateM.Result Error (State σ) α) : onState id x = x := by
  cases x <;> rfl

/-- Nothing around a reader changes nothing. -/
lemma around_id (m : Scan σ α) : around id id m = m := by
  funext s
  unfold around
  change (match m s with | .ok a s' => _ | .error e s' => _) = m s
  cases m s <;> rfl

end Scan

namespace Level

/-- The level whose readers go one level deeper and read there with the help of `inner`. -/
def counting (S : Setup σ) (inner : Level (Counted σ)) : Level (Counted σ) where
  group close := Scan.nested ((above S.counted inner).group close)
  brackets := Scan.nested (above S.counted inner).brackets
  line level stopAtComment := Scan.nested ((above S.counted inner).line level stopAtComment)

/-- Counting levels, `n` of them one above the other. -/
def countingRoom (S : Setup σ) : Nat → Level (Counted σ)
  | 0 => exhausted
  | n + 1 => counting S (countingRoom S n)

/-- The level that reads with its own help. -/
def nesting (S : Setup σ) : Level (Counted σ) := countingRoom S (maxNesting + 1)

end Level

/-! ### Runs that differ in their executors -/

namespace Lockstep

/-- The lockstep of two runs that differ in the states of their executors only. -/
def equal (host : σ → τ → Prop) : Lockstep σ τ where
  cursor c d := d = c
  known _ b b' := b = b'
  host := host
  given := Eq
  error e _ e' _ := e = e'
  excused _ := False
  rest_eq h := h ▸ rfl
  advance _ h := h ▸ rfl
  levelOf_ok h _ := h
  levelOf_error h _ := h
  begun _ := rfl
  raised h _ := h ▸ rfl
  placed h hg := h ▸ hg ▸ rfl

variable {H : σ → τ → Prop}

/-- States that correspond are equal but for their executors. -/
lemma Related.eq_withHost {s : State σ} {t : State τ} (r : (equal H).Related s t) :
    s = t.withHost s.host := by
  obtain ⟨c, i, b, h⟩ := s
  obtain ⟨rfl, rfl, rfl, -⟩ := r
  rfl

/-- Outcomes that agree are the same but for their states, which correspond. -/
lemma Agree.exists_related {x : EStateM.Result Error (State σ) α}
    {y : EStateM.Result Error (State τ) α} (ha : (equal H).Agree Eq x y) :
    ∃ s t, (equal H).Related s t ∧ ∀ f : State τ → State σ, f t = s → x = Scan.onState f y := by
  cases x with
  | ok a s =>
    cases y with
    | ok b t =>
      obtain ⟨rfl, r⟩ := ha
      exact ⟨s, t, r, fun f hf => congrArg _ hf.symm⟩
    | error e t => exact ha.elim
  | error e s =>
    cases y with
    | ok b t => exact ha.elim
    | error e' t =>
      rcases ha with ha | ⟨he, r⟩
      · exact ha.elim
      · obtain rfl : e = e' := he
        exact ⟨s, t, r, fun f hf => congrArg _ hf.symm⟩

/-- Definitions correspond where executors answer alike. -/
lemma Definitions.equal {x : Executor σ} {y : Executor τ}
    (hrun : ∀ (v : Expansion) h h', H h h' →
      (v.run x h).1 = (v.run y h').1 ∧ H (v.run x h).2 (v.run y h').2)
    (o : Option Definition) : (equal H).Definitions x y o o := by
  cases o with
  | none => exact .none
  | some d =>
    cases d with
    | command c =>
      refine .command rfl rfl fun values => ?_
      cases c.generate values with
      | ok t => exact .ok t
      | error e => exact .error rfl
    | environment v =>
      refine .environment rfl rfl rfl fun unit body values h h' hh => ?_
      have hv := hrun (v.generate unit body values) h h' hh
      revert hv
      generalize (v.generate unit body values).run x h = p
      generalize (v.generate unit body values).run y h' = q
      obtain ⟨output, h⟩ := p
      obtain ⟨output', h'⟩ := q
      rintro ⟨rfl, hh⟩
      cases output with
      | ok t => exact .ok t hh
      | error e => exact .error rfl hh

/-- Readers keep in step between changes of the executors that fit. -/
lemma Sim.around {K : σ → τ → Prop} {f g : σ → σ} {f' g' : τ → τ} {m : Scan σ α} {m' : Scan τ α}
    (hf : ∀ h h', H h h' → K (f h) (f' h')) (hg : ∀ h h', K h h' → H (g h) (g' h'))
    (hm : (equal K).Sim Eq m m') : (equal H).Sim Eq (Scan.around f g m) (Scan.around f' g' m') := by
  intro s t r
  have ha := hm (s.withHost (f s.host)) (t.withHost (f' t.host))
    { r with host := hf _ _ r.host }
  unfold Scan.around
  revert ha
  generalize m (s.withHost (f s.host)) = x
  generalize m' (t.withHost (f' t.host)) = y
  intro ha
  cases x with
  | ok a s' =>
    cases y with
    | ok b t' => exact ⟨ha.1, { ha.2 with host := hg _ _ ha.2.host }⟩
    | error e t' => exact ha.elim
  | error e s' =>
    cases y with
    | ok b t' => exact ha.elim
    | error e' t' => exact ha.imp id fun he => ⟨he.1, { he.2 with host := hg _ _ he.2.host }⟩

end Lockstep

/-- An expansion leaves the counters alone. -/
lemma Expansion.run_counted (x : Executor σ) (v : Expansion) (h : Counted σ) :
    v.run x.counted h = ((v.run x h.host).1, { h with host := (v.run x h.host).2 }) := by
  induction v generalizing h with
  | text output => rfl
  | error e => rfl
  | execute call next ih => exact ih _ _

/-! ### The recursion with counters -/

namespace Level

open Lockstep

variable {S : Setup σ} {L L' : Level (Counted σ)} {d : Nat}

/-- Definitions correspond to themselves under equal counters. -/
lemma same_definitions (S : Setup σ) (d : Nat) (o : Option Definition) :
    (equal (Counted.Same d)).Definitions S.counted.executor S.counted.executor o o := by
  refine .equal (fun v h h' hs => ?_) o
  obtain ⟨rfl, hd⟩ := hs
  refine ⟨rfl, rfl, ?_⟩
  rw [show S.counted.executor = S.executor.counted from rfl, Expansion.run_counted]
  exact hd

/-- Definitions correspond to themselves with counters and without. -/
lemma over_definitions (S : Setup σ) (d : Nat) (o : Option Definition) :
    (equal (Counted.Over d)).Definitions S.counted.executor S.executor o o := by
  refine .equal (fun v h h' ho => ?_) o
  obtain ⟨rfl, hd⟩ := ho
  rw [show S.counted.executor = S.executor.counted from rfl, Expansion.run_counted]
  exact ⟨rfl, rfl, hd⟩

/-- Nested readers keep in step if they do one level deeper. -/
lemma same_nested {m m' : Scan (Counted σ) α}
    (h : d < maxNesting → (equal (Counted.Same (d + 1))).Sim Eq m m') :
    (equal (Counted.Same d)).Sim Eq (Scan.nested m) (Scan.nested m') := by
  refine Sim.get.bind fun s t r => ?_
  rw [← r.host.1, r.host.2]
  split
  case isTrue => exact .raise nofun
  case isFalse hd =>
    exact .around (fun _ _ => .deeper) (fun _ _ => .back) (h (Nat.lt_of_not_le hd))

/-- At the limit a nested reader is refused. -/
lemma same_exhausted {m : Scan (Counted σ) α} (hd : maxNesting ≤ d) :
    (equal (Counted.Same d)).Sim Eq (Scan.raise .nestingTooDeep) (Scan.nested m) := by
  intro s t r
  have hdepth : maxNesting ≤ t.host.depth := by rwa [← r.host.1, r.host.2]
  rw [Scan.nested, Scan.bind_of_ok (Scan.get_run t), Scan.ite_run, if_pos hdepth]
  refine Sim.raise ?_ s t r
  exact nofun

/-- Counting levels keep in step if those below them do. -/
lemma same_counting (S : Setup σ)
    (h : d < maxNesting → (equal (Counted.Same (d + 1))).Levels L L') :
    (equal (Counted.Same d)).Levels (counting S L) (counting S L') := by
  have habove : d < maxNesting → (equal (Counted.Same (d + 1))).Levels (above S.counted L)
      (above S.counted L') := fun hd => (h hd).above fun _ => same_definitions S _ _
  exact { group := fun close => same_nested fun hd => (habove hd).group close
          brackets := same_nested fun hd => (habove hd).brackets
          line := fun level stop => same_nested fun hd => (habove hd).line level stop }

/-- Levels that keep in step at every depth are equal. -/
lemma eq_of_same (h : ∀ d, (equal (Counted.Same d)).Levels L L') : L = L' := by
  have hscan : ∀ {α : Type} {m m' : Scan (Counted σ) α},
      (∀ d, (equal (Counted.Same d)).Sim Eq m m') → m = m' := by
    intro α m m' hm
    funext s
    obtain ⟨t, t', r, heq⟩ := (hm s.host.depth s s ⟨rfl, rfl, rfl, rfl, rfl⟩).exists_related
    have ht : t' = t := by
      rw [r.eq_withHost, r.host.1]
      rfl
    rw [heq id ht, Scan.onState_id]
  obtain ⟨group, brackets, line⟩ := L
  obtain ⟨group', brackets', line'⟩ := L'
  obtain rfl : group = group' := funext fun close => hscan fun d => (h d).group close
  obtain rfl : brackets = brackets' := hscan fun d => (h d).brackets
  obtain rfl : line = line' :=
    funext fun level => funext fun stop => hscan fun d => (h d).line level stop
  rfl

/-- Two solutions of the equation keep in step: at each depth because they do one level deeper. -/
lemma same_of_eq_counting (hL : L = counting S L) (hL' : L' = counting S L') (d : Nat) :
    (equal (Counted.Same d)).Levels L L' := by
  generalize hk : maxNesting - d = k
  induction k generalizing d with
  | zero =>
    rw [hL, hL']
    exact same_counting S fun hd => absurd hd (by omega)
  | succ k ih =>
    rw [hL, hL']
    exact same_counting S fun _ => ih (d + 1) (by omega)

/-- One more level makes no difference where the limit is reached before. -/
lemma same_countingRoom (S : Setup σ) {n : Nat} (hn : maxNesting < n + d) :
    (equal (Counted.Same d)).Levels (countingRoom S n) (countingRoom S (n + 1)) := by
  induction n generalizing d with
  | zero =>
    have hd : maxNesting ≤ d := by omega
    exact { group := fun _ => same_exhausted hd, brackets := same_exhausted hd,
            line := fun _ _ => same_exhausted hd }
  | succ n ih => exact same_counting S fun _ => ih (by omega)

/-- The equation of the recursion has exactly one solution. -/
theorem eq_counting_iff (S : Setup σ) (L : Level (Counted σ)) :
    L = counting S L ↔ L = nesting S := by
  have hnesting : nesting S = counting S (nesting S) :=
    eq_of_same fun _ => same_countingRoom S (by omega)
  constructor
  · intro hL
    exact eq_of_same (same_of_eq_counting hL hnesting)
  · rintro rfl
    exact hnesting

/-! ### The two forms of the recursion -/

/-- Below the limit a nested reader keeps in step with the reader itself. -/
lemma over_nested {m : Scan (Counted σ) α} {m' : Scan σ α} (hd : d < maxNesting)
    (h : (equal (Counted.Over (d + 1))).Sim Eq m m') :
    (equal (Counted.Over d)).Sim Eq (Scan.nested m) m' := by
  intro s t r
  have hdepth : ¬ maxNesting ≤ s.host.depth := by
    rw [r.host.2.1]
    omega
  rw [Scan.nested, Scan.bind_of_ok (Scan.get_run s), Scan.ite_run, if_neg hdepth,
    ← Scan.around_id m']
  exact Sim.around (fun _ _ => .deeper hd) (fun _ _ => .back) h s t r

/-- At the limit a nested reader is refused as the exhausted level refuses. -/
lemma over_exhausted (m : Scan (Counted σ) α) :
    (equal (Counted.Over maxNesting)).Sim Eq (Scan.nested m)
      (Scan.raise .nestingTooDeep : Scan σ α) := by
  intro s t r
  have hdepth : maxNesting ≤ s.host.depth := Nat.le_of_eq r.host.2.1.symm
  rw [Scan.nested, Scan.bind_of_ok (Scan.get_run s), Scan.ite_run, if_pos hdepth]
  refine Sim.raise ?_ s t r
  exact nofun

/-- At depth `d` the recursion has room for as many further levels as the limit leaves. -/
lemma over_nesting (S : Setup σ) (hd : d ≤ maxNesting) :
    (equal (Counted.Over d)).Levels (nesting S) (ofRoom S (maxNesting - d)) := by
  generalize hk : maxNesting - d = k
  induction k generalizing d with
  | zero =>
    obtain rfl : d = maxNesting := by omega
    rw [(eq_counting_iff S _).2 rfl]
    exact { group := fun _ => over_exhausted _, brackets := over_exhausted _,
            line := fun _ _ => over_exhausted _ }
  | succ k ih =>
    have hlt : d < maxNesting := by omega
    have habove := (ih hlt (by omega)).above fun _ => over_definitions S _ _
    rw [(eq_counting_iff S _).2 rfl]
    exact { group := fun close => over_nested hlt (habove.group close)
            brackets := over_nested hlt habove.brackets
            line := fun level stop => over_nested hlt (habove.line level stop) }

end Level

/-- With counters a request ends as it does without them, at the depth where it started, and has not
been deeper than the limit. -/
theorem Request.run_nesting (S : Setup σ) (r : Request α) (s : State σ) {depth deepest : Nat}
    (hd : depth ≤ maxNesting) (hm : deepest ≤ maxNesting) :
    ∃ deepest' ≤ maxNesting, r.run S.counted (.nesting S) (s.counted depth deepest) =
      Scan.onState (·.counted depth deepest') (r.run S (.ofRoom S (maxNesting - depth)) s) := by
  have hsim := (Level.over_nesting S hd).request (fun _ => Level.over_definitions S _ _) r
    (Level.over_definitions S _ _)
  obtain ⟨t, t', hr, heq⟩ :=
    (hsim (s.counted depth deepest) s ⟨rfl, rfl, rfl, rfl, rfl, hm⟩).exists_related
  refine ⟨t.host.deepest, hr.host.2.2, heq _ ?_⟩
  rw [hr.eq_withHost, State.counted, ← hr.host.1, ← hr.host.2.1]
  rfl

end IndentTex
