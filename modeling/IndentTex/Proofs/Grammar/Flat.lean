import IndentTex.Proofs.Grammar.Tidy
import IndentTex.Proofs.Text.Shift

/-!
# Flat readings

Where an environment stands decides on the margin of its lines. A reading is flat if no definition is
given or gives a text that depends on a margin, other than a block, which is moved to the left first.
In a flat reading the lines of a group are on the margin and no newline is escaped; a registered
environment has a block or a line without a margin as its body, and does the same with the unit that
is known as with the unit `u`; and a command puts text after each newline of its output. Flat readings
are readings with checks: the levels check groups and one-line bodies, and the definitions check what
they are given and what they give (`Checks.ofLevel`).

In a source that is a single line only the outputs of registered environments are put on a margin, so
it is enough that these outputs are lines (`Checks.singleLine`).
-/

namespace IndentTex

open Text

variable {σ τ : Type} {u : Text} {level : Nat}

/-- The error of a reading that is not flat. -/
def Error.uneven : Error := .ofCause .strayIndentation

/-! ### Expansions side by side -/

namespace Expansion

/-- Two expansions side by side, as long as both do the same and up to an output that is accepted. -/
def agree (accept : Text → Bool) : Expansion → Expansion → Expansion
  | text a, text b => if a = b ∧ accept a then text a else error .uneven
  | execute call next, execute call' next' =>
    if call = call' then execute call fun answer => (next answer).agree accept (next' answer)
    else error .uneven
  | error e, _ => error e
  | _, _ => error .uneven

/-- Where two expansions side by side give an output, each of them gives it, and it is accepted. -/
lemma run_agree_ok {accept : Text → Bool} {executor : Executor σ} {x y : Expansion} {host host' : σ}
    {out : Text} (h : (x.agree accept y).run executor host = (.ok out, host')) :
    x.run executor host = (.ok out, host') ∧ y.run executor host = (.ok out, host') ∧ accept out := by
  induction x generalizing y host with
  | text a =>
    cases y with
    | text b =>
      rw [agree] at h
      split at h
      case isTrue hab =>
        obtain ⟨rfl, ha⟩ := hab
        cases h
        exact ⟨rfl, rfl, ha⟩
      case isFalse => cases h
    | error | execute => cases h
  | error e => cases h
  | execute call next ih =>
    cases y with
    | text | error => cases h
    | execute call' next' =>
      rw [agree] at h
      split at h
      case isTrue hcall =>
        subst hcall
        exact ih _ h
      case isFalse => cases h

end Expansion

/-! ### Checked definitions -/

/-- What definitions may be given and may give. -/
structure Checks where
  /-- The arguments for some slots. -/
  values : Params → List (Option Text) → Bool
  /-- The body of an environment. -/
  body : Text → Bool
  /-- The output of a command. -/
  command : Text → Bool
  /-- The output of an environment. -/
  environment : Text → Bool

/-- Whether no argument has a margin: raw arguments are on one line, and the others have text after
each newline. -/
def Params.onLine (params : Params) (values : List (Option Text)) : Bool :=
  (params.zip values).all fun p => p.2.all fun v =>
    if p.1.raw then !v.contains '\n' else v.settled

/-- Whether a body has no margin where an environment at `level` is given it: a block, a single line,
or a line with text after each newline. The lines of level 0 have an empty margin, which no text tells
from no margin. -/
def Text.marginless (level : Nat) (body : Text) : Bool :=
  body.isLineOrBlock || level != 0 && body.settled

namespace Checks

/-- In a line at `level`, nothing that a definition is given has a margin, and commands put text after
each newline. -/
def ofLevel (level : Nat) : Checks := ⟨Params.onLine, marginless level, settled, fun _ => true⟩

/-- In a source that is a single line, environments give a line. -/
def singleLine : Checks := ⟨fun _ _ => true, fun _ => true, fun _ => true, fun t => !t.contains '\n'⟩

end Checks

/-- The command that is refused unless the checks hold. -/
def Command.flat (checks : Checks) (c : Command) : Command :=
  { c with
    generate := fun values => do
      let output ← c.generate values
      if checks.values c.params values && checks.command output then return output
      else throw .uneven }

/-- The environment that is refused unless the checks hold and it does the same with the unit `u`. -/
def Environment.flat (u : Text) (checks : Checks) (e : Environment) : Environment :=
  { e with
    generate := fun unit body values =>
      if checks.body body && checks.values e.params values then
        (e.generate unit body values).agree checks.environment (e.generate u body values)
      else .error .uneven }

/-- A definition that checks what it is given and what it gives. -/
def Definition.flat (u : Text) (checks : Checks) : Definition → Definition
  | command c => command (c.flat checks)
  | environment e => environment (e.flat u checks)

/-- The command that takes the place of an escaped newline and is always refused. -/
def Command.escapedNewline : Command := ⟨['\n'], [], fun _ => .error .uneven⟩

/-- The registry whose definitions are checked, without escaped newlines. -/
def Registry.flat (u : Text) (checks : Checks) (r : Registry) : Registry :=
  (r.map (.flat checks) (.flat u checks)).insert (.command .escapedNewline)

/-- The setup whose definitions are checked, without escaped newlines. -/
def Setup.flat (u : Text) (checks : Checks) (S : Setup σ) : Setup σ :=
  ⟨S.registry.flat u checks, S.executor⟩

section Flat

variable {checks : Checks}

/-- What a checked command gives. -/
lemma Command.generate_flat (c : Command) (values : List (Option Text)) :
    (c.flat checks).generate values = (do
      let output ← c.generate values
      if checks.values c.params values && checks.command output then return output
      else throw .uneven) := rfl

/-- Where a checked command succeeds, the command gives the same and the checks hold. -/
lemma Command.generate_flat_ok {c : Command} {values : List (Option Text)} {out : Text}
    (h : (c.flat checks).generate values = .ok out) :
    c.generate values = .ok out ∧ checks.values c.params values ∧ checks.command out := by
  rw [generate_flat] at h
  cases hg : c.generate values with
  | error e =>
    rw [hg] at h
    cases h
  | ok output =>
    rw [hg] at h
    dsimp only [bind, Except.bind] at h
    split at h
    case isTrue hcheck =>
      cases h
      rw [Bool.and_eq_true] at hcheck
      exact ⟨rfl, hcheck.1, hcheck.2⟩
    case isFalse => cases h

/-- What a checked environment gives. -/
lemma Environment.generate_flat (e : Environment) (unit body : Text) (values : List (Option Text)) :
    (e.flat u checks).generate unit body values =
      if checks.body body && checks.values e.params values then
        (e.generate unit body values).agree checks.environment (e.generate u body values)
      else .error .uneven := rfl

/-- Where a checked environment succeeds, so does the environment with either unit, and the checks
hold. -/
lemma Environment.run_flat_ok {e : Environment} {executor : Executor σ} {unit body out : Text}
    {values : List (Option Text)} {h h' : σ}
    (hrun : ((e.flat u checks).generate unit body values).run executor h = (.ok out, h')) :
    (checks.body body ∧ checks.values e.params values ∧ checks.environment out) ∧
      (e.generate unit body values).run executor h = (.ok out, h') ∧
      (e.generate u body values).run executor h = (.ok out, h') := by
  rw [generate_flat] at hrun
  split at hrun
  case isTrue hcheck =>
    rw [Bool.and_eq_true] at hcheck
    obtain ⟨hunit, hu, hout⟩ := Expansion.run_agree_ok hrun
    exact ⟨⟨hcheck.1, hcheck.2, hout⟩, hunit, hu⟩
  case isFalse => cases hrun

/-- What a name stands for, with its checks. An escaped newline is always refused. -/
lemma Registry.find?_flat (r : Registry) (name : Text) :
    (r.flat u checks).find? name =
      if name = ['\n'] then some (.command .escapedNewline)
      else (r.find? name).map (.flat u checks) := by
  have hmap : (r.map (.flat checks) (.flat u checks)).find? name =
      (r.find? name).map (.flat u checks) := find?_map (fun _ => rfl) (fun _ => rfl) r name
  rw [flat, find?_insert_command, hmap]
  exact ite_congr (propext eq_comm) (fun _ => rfl) fun _ => rfl

/-- A setup whose definitions succeed only if some checks hold, and then as those of another setup do
with the unit `u`. -/
structure Setup.Tames (u : Text) (checks : Checks) (T S : Setup σ) : Prop where
  undefined {name : Text} : T.registry.find? name = none →
    S.registry.find? name = none ∧ name ≠ ['\n']
  command {name : Text} {c : Command} {values : List (Option Text)} {out : Text} :
    T.registry.find? name = some (.command c) → c.generate values = .ok out →
    name ≠ ['\n'] ∧ checks.values c.params values ∧ checks.command out ∧
      ∃ c', S.registry.find? name = some (.command c') ∧ c'.params = c.params ∧
        c'.generate values = .ok out
  environment {name : Text} {e : Environment} :
    T.registry.find? name = some (.environment e) →
    name ≠ ['\n'] ∧ ∃ e', S.registry.find? name = some (.environment e') ∧ e'.params = e.params ∧
      e'.raw = e.raw ∧ ∀ {unit body out : Text} {values : List (Option Text)} {h h' : σ},
        (e.generate unit body values).run T.executor h = (.ok out, h') →
        (checks.body body ∧ checks.values e.params values ∧ checks.environment out) ∧
          (e'.generate u body values).run S.executor h = (.ok out, h')

/-- A name without a command has none in the other setup. -/
lemma Setup.Tames.command? {T S : Setup σ} (hT : T.Tames u checks S) {name : Text}
    (h : T.registry.command? name = none) :
    S.registry.command? name = none ∧ name ≠ ['\n'] := by
  rw [T.registry.command?_eq_find?] at h
  rw [S.registry.command?_eq_find?]
  cases hf : T.registry.find? name with
  | none =>
    obtain ⟨hf', hne⟩ := hT.undefined hf
    rw [hf']
    exact ⟨rfl, hne⟩
  | some d =>
    rw [hf] at h
    cases d with
    | command c => cases h
    | environment e =>
      obtain ⟨hne, e', hf', -⟩ := hT.environment hf
      rw [hf']
      exact ⟨rfl, hne⟩

/-- Checked definitions succeed only if the checks hold. -/
lemma Setup.flat_tames (S : Setup σ) (checks : Checks) : (S.flat u checks).Tames u checks S where
  undefined {name} h := by
    change (S.registry.flat u checks).find? name = none at h
    rw [Registry.find?_flat] at h
    split at h
    case isTrue => cases h
    case isFalse hn => exact ⟨Option.map_eq_none_iff.1 h, hn⟩
  command {name c values out} h hg := by
    change (S.registry.flat u checks).find? name = some (.command c) at h
    rw [Registry.find?_flat] at h
    split at h
    case isTrue =>
      cases h
      cases hg
    case isFalse hn =>
      obtain ⟨d, hd, hc⟩ := Option.map_eq_some_iff.1 h
      cases d with
      | environment e => cases hc
      | command c =>
        cases hc
        obtain ⟨hg, hvalues, hout⟩ := Command.generate_flat_ok hg
        exact ⟨hn, hvalues, hout, c, hd, rfl, hg⟩
  environment {name e} h := by
    change (S.registry.flat u checks).find? name = some (.environment e) at h
    rw [Registry.find?_flat] at h
    split at h
    case isTrue => cases h
    case isFalse hn =>
      obtain ⟨d, hd, he⟩ := Option.map_eq_some_iff.1 h
      cases d with
      | command c => cases he
      | environment e =>
        cases he
        refine ⟨hn, e, hd, rfl, rfl, fun {unit body out values h h'} hrun => ?_⟩
        obtain ⟨hchecks, -, hrun⟩ := Environment.run_flat_ok hrun
        exact ⟨hchecks, hrun⟩

end Flat

/-! ### Checked levels -/

/-- Whether the text of a group in a line at `level` is on the margin of the line. At level 0 it has no
newline. -/
def Text.hangs (u : Text) (level : Nat) (t : Text) : Bool :=
  if level = 0 then !t.contains '\n' else onMargin (u.times level) t

namespace Scan

/-- Reads a text that is refused unless it passes a check. -/
def checked (accept : Text → Bool) (m : Scan σ Text) : Scan σ Text := do
  let text ← m
  if accept text then return text else raise .strayIndentation

/-- Where a checked text is read, the check holds. -/
lemma checked_ok {accept : Text → Bool} {m : Scan σ Text} {s s' : State σ} {out : Text}
    (h : checked accept m s = .ok out s') : m s = .ok out s' ∧ accept out := by
  obtain ⟨text, s₁, hm, h⟩ := bind_ok h
  rw [ite_run] at h
  split at h
  case isTrue ha =>
    cases h
    exact ⟨hm, ha⟩
  case isFalse => cases h

end Scan

namespace Level

/-- The level that refuses groups in a line at `level` that are not on its margin, and one-line bodies
that start with a newline. Each line is read by the level for it. -/
def flat (u : Text) (inner : Nat → Level σ) (level : Nat) : Level σ where
  group close := Scan.checked (hangs u level) ((inner level).group close)
  brackets := (inner level).brackets
  line level stop :=
    Scan.checked (fun t => !(stop && t.starts (· == '\n'))) ((inner level).line level stop)

/-- The flat level with room for `n` further ones. -/
def flatRoom (u : Text) (S : Setup σ) : Nat → Nat → Level σ
  | 0 => fun _ => exhausted
  | n + 1 => flat u fun level => above (S.flat u (.ofLevel level)) (flatRoom u S n level)

/-- The level that reads the body of an environment at level 0 so that it does not matter where the
environment stands: a body on a single line, or any body. -/
def steady (u : Text) (S : Setup σ) (single : Bool) (n : Nat) : Level σ :=
  if single then .ofRoom (S.flat u .singleLine) n else .flatRoom u S n 0

end Level

namespace Lockstep

variable {L : Lockstep σ τ} {S : Setup σ} {T : Setup τ}

/-- Two readers that run in lockstep still do when they are checked. -/
lemma Sim.checked {m : Scan σ Text} {m' : Scan τ Text} (h : L.Sim Eq m m') (accept : Text → Bool) :
    L.Sim Eq (Scan.checked accept m) (Scan.checked accept m') := by
  refine h.bindEq fun text => ?_
  split
  · exact .pure rfl
  · exact .raise nofun

/-- Two levels that run in lockstep still do when they are flat. -/
lemma Levels.flat {inner : Nat → Level σ} {inner' : Nat → Level τ}
    (h : ∀ level, L.Levels (inner level) (inner' level)) :
    L.Levels (.flat u inner level) (.flat u inner' level) where
  group close := ((h level).group close).checked _
  brackets := (h level).brackets
  line level stop := ((h level).line level stop).checked _

/-- Flat levels run in lockstep if the checked definitions do. -/
lemma Levels.flatRoom (hS : ∀ checks, L.Setups (S.flat u checks) (T.flat u checks)) (n : Nat) :
    L.Levels (.flatRoom u S n level) (.flatRoom u T n level) := by
  induction n generalizing level with
  | zero => exact Levels.ofRoom (hS (.ofLevel level)) 0
  | succ n ih => exact .flat fun level => ih.above (hS (.ofLevel level))

/-- Steady levels run in lockstep if the checked definitions do. -/
lemma Levels.steady (hS : ∀ checks, L.Setups (S.flat u checks) (T.flat u checks)) (single : Bool)
    (n : Nat) : L.Levels (.steady u S single n) (.steady u T single n) := by
  cases single with
  | true => exact .ofRoom (hS .singleLine) n
  | false => exact .flatRoom hS n

end Lockstep

namespace Grammar

/-- The level with groups on the margin of a line at `level` and without newlines at the start of
one-line bodies. -/
def flat (u : Text) (G : Nat → Grammar σ) (level : Nat) : Grammar σ where
  group close t out r := (G level).group close t out r ∧ hangs u level out
  brackets := (G level).brackets
  line level stop k out k' :=
    (G level).line level stop k out k' ∧ (stop → out.starts (· == '\n') = false)

/-- The flat level with room for `n` further ones. -/
def flatRoom (u : Text) (S : Setup σ) : Nat → Nat → Grammar σ
  | 0 => fun _ => exhausted
  | n + 1 => flat u fun level => above (S.flat u (.ofLevel level)) (flatRoom u S n level)

end Grammar

namespace Level

/-- A flat reading is in the flat grammar. -/
lemma Sound.flat {inner : Nat → Level σ} {G : Nat → Grammar σ}
    (hI : ∀ level, (inner level).Sound (G level)) :
    (Level.flat u inner level).Sound (Grammar.flat u G level) where
  onward start i := .flat fun level => (hI level).onward start i
  group h := by
    obtain ⟨hg, ha⟩ := Scan.checked_ok h
    obtain ⟨hg, hk⟩ := (hI level).group hg
    exact ⟨⟨hg, ha⟩, hk⟩
  brackets h := (hI level).brackets h
  line {level stop s s' out} h := by
    obtain ⟨hl, ha⟩ := Scan.checked_ok h
    exact ⟨(hI level).line hl, fun hstop => by simpa [hstop] using ha⟩
  ends {level k k' out} h := (hI level).ends h.1

/-- A flat reading with some room for nesting is in the grammar of this room. -/
lemma flatRoom_sound (S : Setup σ) (n : Nat) :
    (flatRoom u S n level).Sound (Grammar.flatRoom u S n level) := by
  induction n generalizing level with
  | zero => exact ofRoom_sound S 0
  | succ n ih => exact .flat fun _ => ih.above

end Level

end IndentTex
