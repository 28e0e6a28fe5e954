import IndentTex.Proofs.Refusal
import IndentTex.Proofs.Rounds
import Mathlib.Data.List.Infix
import Mathlib.Data.List.Perm.Subperm

/-!
# The order of calls

A run may go back and read a part of the source a second time. Still, no code is executed twice: what
is read again are only groups, arguments and blanks, and there nothing is executed. To say so, the
executor keeps a log of its calls, each with the place of the control sequence that makes it
(`Level.logging`). `Scan.Orderly` is what every reader does to the log: it adds calls at places that it
passes, in their order, and after one that has failed it adds no more.
-/

namespace IndentTex

variable {σ τ α β : Type}

/-! ### Logs -/

/-- A call in a log, with the place of the control sequence that makes it. -/
structure LoggedCall where
  /-- The bytes before the control sequence. -/
  place : Nat
  call : Call
  answer : Except Failure Text

/-- The executor that also keeps a log, with calls that are made at the given place. -/
def Executor.logging (x : Executor σ) (place : Nat) : Executor (σ × List LoggedCall) where
  answer call h :=
    let answer := x.answer call h.1
    (answer.1, (answer.2, h.2 ++ [⟨place, call, answer.1⟩]))

/-- The setup whose executor also keeps a log, with calls that are made at the given place. -/
def Setup.logging (S : Setup σ) (place : Nat) : Setup (σ × List LoggedCall) :=
  ⟨S.registry, S.executor.logging place⟩

/-- Reads a control sequence in a line, whose place is in the log of the calls that it makes. -/
def Scan.loggedControl (S : Setup σ) (inner : Level (σ × List LoggedCall)) (level : Nat) :
    Scan (σ × List LoggedCall) Text := do
  lineControl (S.logging (← mark).offset) inner level

namespace Level

/-- The level just above another one, with a log. -/
def logging (S : Setup σ) (inner : Level (σ × List LoggedCall)) : Level (σ × List LoggedCall) where
  group close := Scan.bounded (Scan.groupLoop (S.logging 0) inner close)
  brackets := Scan.bracketText (S.logging 0) inner
  line level stopAtComment := Scan.bounded <|
    Scan.lineLoopWith (Scan.loggedControl S inner level) (inner.group '\x7d') stopAtComment

/-- The level with room for `n` further ones, with a log. -/
def loggingRoom (S : Setup σ) : Nat → Level (σ × List LoggedCall)
  | 0 => exhausted
  | n + 1 => logging S (loggingRoom S n)

end Level

/-- The log of a request that reads a source from its start, whether it succeeds or fails. -/
def Translator.log (t : Translator σ) (r : Request α) (source : Text) : List LoggedCall :=
  ((r.run (t.setup.logging 0) (.loggingRoom t.setup maxNesting)).final
    (.start source (t.start t.files, []))).host.2

/-! ### Colons -/

namespace Scan

/-- Reads blanks and a colon, if there is one after them. Otherwise nothing is read. -/
def colon : Scan σ Bool := do
  let start ← mark
  let _ ← skipBlanks
  if (← peek) = some ':' then
    skip 1
    return true
  else
    goTo start
    return false

/-- A control sequence without a definition is an environment if a colon follows its arguments. -/
lemma nativeControl_eq (inner : Level σ) (name : Text) (level : Nat) :
    nativeControl inner name level =
      if name.all isAlphabetic then do
        let args ← argumentText inner
        if ← colon then
          return Markup.environment name args (← nativeBody inner level)
        else
          return Markup.control name ++ args
      else
        return Markup.control name := by
  unfold nativeControl colon
  split
  · refine bind_congr fun args => ?_
    simp only [bind_assoc]
    refine bind_congr fun start => bind_congr fun _ => bind_congr fun next => ?_
    split <;> simp
  · rfl

end Scan

/-- Looking for a colon keeps in step. -/
lemma Lockstep.Sim.colon {L : Lockstep σ τ} : L.Sim Eq Scan.colon Scan.colon := by
  refine Sim.mark.bind fun c d hc => (Sim.skipWhile _).bindEq fun _ => Sim.peek.bindEq fun next => ?_
  split
  · exact (Sim.skip 1).bindEq fun _ => .pure rfl
  · exact (Sim.goTo hc).bindEq fun _ => .pure rfl

/-! ### Runs and what they lead to -/

namespace Scan

/-- The run from `s` leads to a state that has `R` to it; the flag says whether it succeeds. -/
def Leads (m : Scan σ α) (s : State σ) (R : State σ → State σ → Bool → Prop) : Prop :=
  match m s with
  | .ok _ s' => R s s' true
  | .error _ s' => R s s' false

/-- A reader that leads somewhere leads to everything that follows from it. -/
lemma Leads.mono {m : Scan σ α} {s : State σ} {R Q : State σ → State σ → Bool → Prop}
    (hm : m.Leads s R) (h : ∀ s' ok, R s s' ok → Q s s' ok) : m.Leads s Q := by
  unfold Leads at hm ⊢
  cases hms : m s with
  | ok a s' =>
    rw [hms] at hm
    exact h s' true hm
  | error e s' =>
    rw [hms] at hm
    exact h s' false hm

/-- A step that only looks at the state makes no difference. -/
lemma Leads.of_look {m : Scan σ α} {f : α → Scan σ β} {s : State σ} {a : α}
    {R : State σ → State σ → Bool → Prop} (hm : m s = .ok a s) (hf : (f a).Leads s R) :
    (m >>= f).Leads s R := by
  unfold Leads
  rw [bind_of_ok hm]
  exact hf

/-- A run in two parts leads where the parts lead together. -/
lemma Leads.bind {m : Scan σ α} {f : α → Scan σ β} {s : State σ}
    {R Q P : State σ → State σ → Bool → Prop} (hm : m.Leads s R)
    (hf : ∀ a s', m s = .ok a s' → (f a).Leads s' Q)
    (htrans : ∀ s' s'' ok, R s s' true → Q s' s'' ok → P s s'' ok)
    (hstop : ∀ s', R s s' false → P s s' false) : (m >>= f).Leads s P := by
  unfold Leads at hm ⊢
  rw [bind_run]
  cases hms : m s with
  | error e s' =>
    rw [hms] at hm
    exact hstop s' hm
  | ok a s' =>
    rw [hms] at hm
    have hfs := hf a s' hms
    unfold Leads at hfs
    dsimp only
    cases hfa : f a s' with
    | ok b s'' =>
      rw [hfa] at hfs
      exact htrans s' s'' true hm hfs
    | error e s'' =>
      rw [hfa] at hfs
      exact htrans s' s'' false hm hfs

end Scan

/-! ### Silent readers -/

/-- The run is further in its text, and the executor is left alone. -/
def State.Still (s s' : State σ) (_ : Bool) : Prop :=
  s.cursor.Reaches s'.cursor ∧ s'.host = s.host

/-- The lockstep of a run with itself that watches where the run is, seen from `start`, and whether the
executor stays in the state `h`. -/
def Lockstep.still (start : Cursor) (h : σ) : Lockstep σ σ :=
  { Lockstep.onward σ start .unset with host := fun h₁ h₂ => h₁ = h ∧ h₂ = h }

/-- Readers that leave the executor alone. -/
def Scan.Silent (m : Scan σ α) : Prop := ∀ s, m.Leads s State.Still

/-- Levels whose groups and brackets leave the executor alone. -/
def Level.Silent (inner : Level σ) : Prop :=
  ∀ start h, (Lockstep.still start h).Groups inner inner

namespace Scan.Silent

variable {m : Scan σ α}

/-- A reader that leaves the executor alone in lockstep with itself is silent. -/
lemma of_sim (hm : ∀ start h, (Lockstep.still start h).Sim Eq m m) : Silent m := by
  intro s
  have hr : (Lockstep.still s.cursor s.host).Related s s :=
    ⟨⟨rfl, .refl _⟩, rfl, nofun, rfl, rfl⟩
  have ha := hm s.cursor s.host s s hr
  unfold Leads
  cases hms : m s with
  | ok a s' =>
    rw [hms] at ha
    exact ⟨ha.2.cursor.2, ha.2.host.1⟩
  | error e s' =>
    rw [hms] at ha
    rcases ha with ha | ha
    · exact ha.elim
    · exact ⟨ha.2.cursor.2, ha.2.host.1⟩

/-- A failure is silent. -/
lemma raise (cause : Cause) : Silent (σ := σ) (α := α) (Scan.raise cause) :=
  fun _ => ⟨.refl _, rfl⟩

/-- A value is silent. -/
lemma pure (a : α) : Silent (σ := σ) (Pure.pure a) := fun _ => ⟨.refl _, rfl⟩

/-- A silent reader that succeeds leaves the executor alone. -/
lemma still (hm : Silent m) {s s' : State σ} {a : α} (h : m s = .ok a s') : s.Still s' true := by
  have hs := hm s
  unfold Leads at hs
  rwa [h] at hs

/-- A silent reader leaves the executor alone, whether it succeeds or fails. -/
lemma final_host (hm : Silent m) (s : State σ) : (m.final s).host = s.host := by
  have hs := hm s
  unfold Leads at hs
  unfold final
  cases hms : m s with
  | ok a s' =>
    rw [hms] at hs
    exact hs.2
  | error e s' =>
    rw [hms] at hs
    exact hs.2

end Scan.Silent

namespace Lockstep

variable {start : Cursor} {h : σ}

/-- Commands do not need the executor. -/
lemma still_commands (S : Setup σ) : (still start h).Commands S S := by
  intro name
  cases S.registry.command? name with
  | none => exact .none
  | some c =>
    refine .command rfl rfl fun values => ?_
    cases c.generate values with
    | ok t => exact .ok t
    | error e => exact .error rfl

end Lockstep

namespace Level

/-- The exhausted level is silent. -/
lemma silent_exhausted : (exhausted : Level σ).Silent :=
  fun _ _ => ⟨fun _ => .raise nofun, .raise nofun⟩

/-- All levels read groups and brackets silently. -/
lemma silent_ofRoom (S : Setup σ) (n : Nat) : (ofRoom S n).Silent := by
  induction n with
  | zero => exact silent_exhausted
  | succ n ih => exact fun start h => (ih start h).above (Lockstep.still_commands S)

end Level

/-- The requests for groups, arguments, comments and literal bodies. -/
def Request.isSilent : {α : Type} → Request α → Bool
  | _, controlName | _, argumentControl | _, comment | _, group _ | _, optionalArgument _
  | _, requiredArgument _ _ | _, arguments _ _ | _, brackets | _, argumentText
  | _, customCommand _ | _, rawBody _ => true
  | _, _ => false

/-- Nothing is executed in groups, arguments, comments and literal bodies. -/
lemma Request.silent_run {S : Setup σ} {inner : Level σ} (hI : inner.Silent) {r : Request α}
    (hr : r.isSilent) : Scan.Silent (r.run S inner) := by
  apply Scan.Silent.of_sim
  intro start h
  have hC : (Lockstep.still start h).Commands S S := Lockstep.still_commands S
  cases r with
  | controlName => exact .controlName
  | argumentControl => exact (hI start h).argumentControl hC
  | comment => exact .comment
  | group close => exact (hI start h).group close
  | optionalArgument isRaw => exact (hI start h).optionalArgument isRaw
  | requiredArgument name isRaw => exact (hI start h).requiredArgument name isRaw
  | arguments name params => exact (hI start h).arguments name params
  | brackets => exact (hI start h).brackets
  | argumentText => exact (hI start h).argumentText
  | customCommand c =>
    refine (hI start h).customCommand rfl rfl fun values => ?_
    cases c.generate values with
    | ok t => exact .ok t
    | error e => exact .error rfl
  | rawBody level => exact .rawBody level
  | _ => cases hr

/-! ### Calls in order -/

/-- At the given place in a text stands the control sequence that executes code. -/
def IsCode (text : Text) (place : Nat) : Prop :=
  ∃ before after, text = before ++ "\\pysplice".toList ++ after ∧ before.byteSize = place ∧
    after.starts isAlphabetic = false

/-- Calls that are made between two places in a text, one after the other, none of them after one that
has failed. -/
structure InOrder (text : Text) (low high : Nat) (calls : List LoggedCall) : Prop where
  ascending : calls.Pairwise fun x y => x.place < y.place
  low_le : ∀ x ∈ calls, low ≤ x.place
  lt_high : ∀ x ∈ calls, x.place < high
  isCode : ∀ x ∈ calls, IsCode text x.place
  isOk : ∀ x ∈ calls.dropLast, x.answer.isOk

namespace InOrder

variable {text : Text} {low mid high : Nat} {calls calls' : List LoggedCall}

/-- No calls are in order. -/
lemma nil : InOrder text low high [] := ⟨.nil, nofun, nofun, nofun, nofun⟩

/-- A single call within the bounds is in order. -/
lemma singleton {call : LoggedCall} (hl : low ≤ call.place) (hh : call.place < high)
    (hc : IsCode text call.place) : InOrder text low high [call] :=
  ⟨List.pairwise_singleton _ _, by simpa using hl, by simpa using hh, by simpa using hc, nofun⟩

/-- Calls in order are in order before later calls in order. -/
lemma append (h : InOrder text low mid calls) (hok : ∀ x ∈ calls, x.answer.isOk)
    (h' : InOrder text mid high calls') (hl : low ≤ mid) (hh : mid ≤ high) :
    InOrder text low high (calls ++ calls') where
  ascending := by
    refine List.pairwise_append.2 ⟨h.ascending, h'.ascending, fun x hx y hy => ?_⟩
    exact Nat.lt_of_lt_of_le (h.lt_high x hx) (h'.low_le y hy)
  low_le x hx := by
    rcases List.mem_append.1 hx with hx | hx
    · exact h.low_le x hx
    · exact Nat.le_trans hl (h'.low_le x hx)
  lt_high x hx := by
    rcases List.mem_append.1 hx with hx | hx
    · exact Nat.lt_of_lt_of_le (h.lt_high x hx) hh
    · exact h'.lt_high x hx
  isCode x hx := by
    rcases List.mem_append.1 hx with hx | hx
    · exact h.isCode x hx
    · exact h'.isCode x hx
  isOk x hx := by
    rw [List.dropLast_append] at hx
    split at hx
    · exact h.isOk x hx
    · rcases List.mem_append.1 hx with hx | hx
      · exact hok x hx
      · exact h'.isOk x hx

/-- There are no more calls than places where they can be made. -/
lemma length_le_count (h : InOrder text low high calls) :
    calls.length ≤ text.tails.countP ("\\pysplice".toList.isPrefixOf ·) := by
  let found := text.tails.filter ("\\pysplice".toList.isPrefixOf ·)
  have hnodup : (calls.map LoggedCall.place).Nodup :=
    (List.pairwise_map.2 h.ascending).imp fun hlt => Nat.ne_of_lt hlt
  -- Each place is where one of the ends of the text starts.
  have hsubset : calls.map LoggedCall.place ⊆ found.map fun t : Text => text.byteSize - t.byteSize := by
    intro place hplace
    obtain ⟨x, hx, rfl⟩ := List.mem_map.1 hplace
    obtain ⟨before, after, rfl, hbefore, -⟩ := h.isCode x hx
    refine List.mem_map.2 ⟨"\\pysplice".toList ++ after, ?_, ?_⟩
    · refine List.mem_filter.2 ⟨?_, ?_⟩
      · rw [List.mem_tails, List.append_assoc]
        exact List.suffix_append _ _
      · exact List.isPrefixOf_iff_prefix.2 (List.prefix_append _ _)
    · rw [← hbefore, List.append_assoc, Text.byteSize_append]
      exact Nat.add_sub_cancel _ _
  calc calls.length = (calls.map LoggedCall.place).length := (List.length_map _).symm
    _ ≤ (found.map fun t : Text => text.byteSize - t.byteSize).length := (hnodup.subperm hsubset).length_le
    _ = found.length := List.length_map _
    _ = _ := List.countP_eq_length_filter.symm

end InOrder

/-- What a run adds to the log: calls in order, between its start and its end, all of them answered if
it succeeds. -/
structure State.Adds (s s' : State (σ × List LoggedCall)) (ok : Bool) : Prop where
  reaches : s.cursor.Reaches s'.cursor
  exists_calls : ∃ calls, s'.host.2 = s.host.2 ++ calls ∧
    InOrder s.cursor.text s.cursor.offset s'.cursor.offset calls ∧
    (ok → ∀ x ∈ calls, x.answer.isOk)

/-- Readers that add to the log in order. -/
def Scan.Orderly (m : Scan (σ × List LoggedCall) α) : Prop := ∀ s, m.Leads s State.Adds

namespace State

variable {s s' s'' : State (σ × List LoggedCall)} {ok : Bool}

/-- A run that is still twice is still. -/
lemma Still.trans (h : s.Still s' true) (h' : s'.Still s'' ok) : s.Still s'' ok :=
  ⟨h.1.trans h'.1, h'.2.trans h.2⟩

/-- A run that is still adds no calls. -/
lemma Still.adds (h : s.Still s' ok) : s.Adds s' ok :=
  ⟨h.1, [], by rw [h.2, List.append_nil], .nil, nofun⟩

/-- Calls that are added one after the other are added in order. -/
lemma Adds.trans (h : s.Adds s' true) (h' : s'.Adds s'' ok) : s.Adds s'' ok := by
  obtain ⟨hreach, calls, hlog, horder, hok⟩ := h
  obtain ⟨hreach', calls', hlog', horder', hok'⟩ := h'
  rw [hreach.text_eq] at horder'
  refine ⟨hreach.trans hreach', calls ++ calls', ?_, ?_, ?_⟩
  · rw [hlog', hlog, List.append_assoc]
  · exact horder.append (hok rfl) horder' hreach.offset_le hreach'.offset_le
  · intro hs x hx
    rcases List.mem_append.1 hx with hx | hx
    · exact hok rfl x hx
    · exact hok' hs x hx

end State

/-! ### Readers in order -/

namespace Scan

variable {m : Scan (σ × List LoggedCall) α} {f : α → Scan (σ × List LoggedCall) β}

/-- A silent reader is orderly. -/
lemma Silent.orderly (hm : Silent m) : Orderly m := by
  intro s
  have hs := hm s
  unfold Leads at hs ⊢
  cases hms : m s with
  | ok a s' =>
    rw [hms] at hs
    exact hs.adds
  | error e s' =>
    rw [hms] at hs
    exact hs.adds

/-- An orderly reader adds calls in order, whether it succeeds or fails. -/
lemma Orderly.final_adds (hm : Orderly m) (s : State (σ × List LoggedCall)) :
    ∃ ok, s.Adds (m.final s) ok := by
  have hs := hm s
  unfold Leads at hs
  unfold final
  cases hms : m s with
  | ok a s' =>
    rw [hms] at hs
    exact ⟨true, hs⟩
  | error e s' =>
    rw [hms] at hs
    exact ⟨false, hs⟩

/-- Two orderly steps are orderly one after the other. -/
lemma Orderly.bind (hm : Orderly m) (hf : ∀ a, Orderly (f a)) : Orderly (m >>= f) :=
  fun s => (hm s).bind (fun a s' _ => hf a s') (fun _ _ _ => .trans) fun _ h => h

/-- What comes after a silent step is seen from the start of that step. -/
lemma Orderly.leads_of_still (hm : Orderly m) {s s₁ : State (σ × List LoggedCall)}
    (h : s.Still s₁ true) : m.Leads s₁ fun _ s' ok => s.Adds s' ok :=
  (hm s₁).mono fun _ _ ha => h.adds.trans ha

/-- A loop is orderly if its rounds are. -/
lemma Orderly.bounded {loop : Nat → Scan (σ × List LoggedCall) α} (h : ∀ n, Orderly (loop n)) :
    Orderly (bounded loop) :=
  fun s => h s.cursor.rest.length s

/-- A value is orderly. -/
lemma Orderly.pure (a : α) : Orderly (σ := σ) (Pure.pure a) := (Silent.pure a).orderly

/-- A failure is orderly. -/
lemma Orderly.raise (cause : Cause) : Orderly (σ := σ) (α := α) (raise cause) :=
  (Silent.raise cause).orderly

/-- Steps that every lockstep knows leave the log alone. -/
lemma Orderly.of_sim (hm : ∀ start h, (Lockstep.still start h).Sim Eq m m) : Orderly m :=
  (Silent.of_sim hm).orderly

/-- A step that leaves the log alone comes first. -/
lemma Orderly.sim_bind (hm : ∀ start h, (Lockstep.still start h).Sim Eq m m)
    (hf : ∀ a, Orderly (f a)) : Orderly (m >>= f) :=
  (Orderly.of_sim hm).bind hf

end Scan

/-- Levels whose groups and brackets leave the log alone, and whose lines add to it in order. -/
structure Level.Orderly (inner : Level (σ × List LoggedCall)) : Prop where
  silent : inner.Silent
  line (level : Nat) (stop : Bool) : Scan.Orderly (inner.line level stop)

namespace Level.Orderly

open Scan

variable {inner : Level (σ × List LoggedCall)}

/-- Lines are orderly if each of them is. -/
lemma linesLoop {line : Scan (σ × List LoggedCall) Text} (h : Scan.Orderly line) (level n : Nat) :
    Scan.Orderly (Scan.linesLoop line level n) := by
  induction n with
  | zero => exact h
  | succ n ih =>
    refine h.bind fun text => .sim_bind (fun _ _ => .nextLine level) fun next => ?_
    cases next with
    | none => exact .pure _
    | some blank => exact ih.bind fun _ => .pure _

/-- Blocks are orderly if lines are. -/
lemma blockLines (h : inner.Orderly) (level : Nat) : Scan.Orderly (blockLines inner level) := by
  refine .bounded fun n => ?_
  rw [blockLoop_eq_linesLoop]
  exact linesLoop (h.line level false) level n

/-- Bodies are orderly if lines are. -/
lemma environmentBody (h : inner.Orderly) (level : Nat) :
    Scan.Orderly (environmentBody inner level) := by
  refine .sim_bind (fun _ _ => .skipWhile _) fun _ => .sim_bind (fun _ _ => .peek) fun o => ?_
  cases o with
  | none => exact .raise _
  | some c =>
    dsimp only
    split
    · exact .sim_bind (fun _ _ => .enterBlock level) fun _ => (h.blockLines _).bind fun _ => .pure _
    split
    · exact .sim_bind (fun _ _ => .skip 1) fun _ => .sim_bind (fun _ _ => .comment) fun _ =>
        .sim_bind (fun _ _ => .enterBlock level) fun _ => .sim_bind (fun _ _ => .margin _) fun _ =>
          (h.blockLines _).bind fun _ => .pure _
    · exact (h.line level true).bind fun _ => .pure _

/-- Bodies of environments without a definition are orderly if lines are. -/
lemma nativeBody (h : inner.Orderly) (level : Nat) : Scan.Orderly (nativeBody inner level) := by
  refine (h.environmentBody level).bind fun body => ?_
  split
  · exact .sim_bind (fun _ _ => .margin level) fun _ => .pure _
  · exact .pure _

/-- Control sequences without a definition are orderly if lines are. -/
lemma nativeControl (h : inner.Orderly) (name : Text) (level : Nat) :
    Scan.Orderly (nativeControl inner name level) := by
  rw [nativeControl_eq]
  split
  · refine .sim_bind (fun start host => (h.silent start host).argumentText) fun args =>
      .sim_bind (fun _ _ => .colon) fun opens => ?_
    split
    · exact (h.nativeBody level).bind fun _ => .pure _
    · exact .pure _
  · exact .pure _

end Level.Orderly

/-! ### Code -/

/-- Literal bodies keep in step, whatever the levels are. -/
lemma Lockstep.Sim.literalBody {L : Lockstep σ τ} {inner : Level σ} {inner' : Level τ}
    {e : Environment} (hraw : e.raw) (level : Nat) :
    L.Sim Eq (Scan.customBody inner e level) (Scan.customBody inner' e level) := by
  unfold Scan.customBody
  rw [if_pos hraw, if_pos hraw]
  refine (Sim.rawBody level).bindEq fun body => ?_
  split
  · exact (Sim.margin _).bindEq fun _ => .pure rfl
  · exact .pure rfl

/-- What an environment adds to the log: nothing, or one call with the property `P`, which has been
answered if the environment succeeds. -/
structure State.Makes (P : LoggedCall → Prop) (s s' : State (σ × List LoggedCall)) (ok : Bool) :
    Prop where
  reaches : s.cursor.Reaches s'.cursor
  exists_call : s'.host.2 = s.host.2 ∨
    ∃ x, s'.host.2 = s.host.2 ++ [x] ∧ P x ∧ (ok → x.answer.isOk)

namespace State

variable {P : LoggedCall → Prop} {s s' s'' : State (σ × List LoggedCall)} {ok : Bool}

/-- A run that is still makes no call. -/
lemma Still.makes (h : s.Still s' ok) : s.Makes P s' ok := ⟨h.1, .inl (congrArg Prod.snd h.2)⟩

/-- A call that is made after a run that is still is made by both together. -/
lemma Still.trans_makes (h : s.Still s' true) (h' : s'.Makes P s'' ok) : s.Makes P s'' ok := by
  obtain ⟨hreach, hcall⟩ := h'
  rw [h.2] at hcall
  exact ⟨h.1.trans hreach, hcall⟩

/-- A call that is made before a run that is still is made by both together. -/
lemma Makes.trans_still (h : s.Makes P s' true) (h' : s'.Still s'' ok) : s.Makes P s'' ok := by
  obtain ⟨hreach, hcall⟩ := h
  rw [← h'.2] at hcall
  refine ⟨hreach.trans h'.1, hcall.imp id ?_⟩
  rintro ⟨x, hlog, hx, hok⟩
  exact ⟨x, hlog, hx, fun _ => hok rfl⟩

end State

namespace Scan

variable {S : Setup σ} {inner : Level (σ × List LoggedCall)} {P : LoggedCall → Prop}
  {s : State (σ × List LoggedCall)}

/-- A call that is made after a silent step is made by both together. -/
lemma Leads.silent_bind {m : Scan (σ × List LoggedCall) α} {f : α → Scan (σ × List LoggedCall) β}
    (hm : ∀ start h, (Lockstep.still start h).Sim Eq m m)
    (hf : ∀ a s', (f a).Leads s' (State.Makes P)) : (m >>= f).Leads s (State.Makes P) :=
  (Silent.of_sim hm s).bind (fun a s' _ => hf a s') (fun _ _ _ => State.Still.trans_makes)
    fun _ => State.Still.makes

/-- Code makes a single call. -/
lemma expand_makes (x : Executor σ) {place : Nat} (hP : ∀ call answer, P ⟨place, call, answer⟩)
    (interpreter : Option Text) (body : Text) (next : Text → Text) :
    (expand (x.logging place) (.executing interpreter body next)).Leads s (State.Makes P) := by
  unfold Leads expand Expansion.executing Expansion.run Executor.logging
  dsimp only
  cases x.answer ⟨interpreter, body⟩ s.host.1 with
  | mk answer h' =>
    cases answer with
    | ok output => exact ⟨.refl _, .inr ⟨_, rfl, hP _ _, fun _ => rfl⟩⟩
    | error failure => exact ⟨.refl _, .inr ⟨_, rfl, hP _ _, fun hok => absurd hok (by decide)⟩⟩

/-- A literal environment adds to the log what its expansion adds. -/
lemma customEnvironment_makes {T : Setup (σ × List LoggedCall)} (hI : inner.Silent) {e : Environment}
    (hraw : e.raw) (he : ∀ unit body values s,
      (expand T.executor (e.generate unit body values)).Leads s (State.Makes P)) (level : Nat) :
    (customEnvironment T inner e level).Leads s (State.Makes P) := by
  refine .silent_bind (fun start h => (hI start h).arguments _ _) fun values s => ?_
  refine .silent_bind (fun _ _ => .skipWhile _) fun _ s => .silent_bind (fun _ _ => .peek) fun o s => ?_
  have hraise : ∀ cause : Cause, (raise cause : Scan _ Text).Leads s (State.Makes P) :=
    fun cause => State.Still.makes (Silent.raise (α := Text) cause s)
  cases o with
  | none => exact hraise _
  | some c =>
    dsimp only
    split
    case isFalse => exact hraise _
    case isTrue =>
      refine .silent_bind (fun _ _ => .skip 1) fun _ s => ?_
      refine .silent_bind (fun _ _ => .literalBody hraw level) fun body s => ?_
      -- The unit is taken from the state before the expansion, which decides what is added.
      refine .of_look (get_run s) ?_
      refine (he _ body values s).bind (Q := State.Still) (fun output s' _ => ?_)
        (fun _ _ _ => .trans_still) fun _ h => h
      exact Silent.of_sim (fun _ _ => (Lockstep.Sim.margin _).bindEq fun _ => .pure rfl) s'

/-- Code is the only default environment that makes a call. -/
lemma defaultEnvironment_makes (x : Executor σ) (hI : inner.Silent) {name : Text} {e : Environment}
    {place : Nat} (he : Registry.defaults.find? name = some (.environment e)) (level : Nat) :
    (customEnvironment ⟨.defaults, x.logging place⟩ inner e level).Leads s
      (State.Makes fun call => call.place = place ∧ name = "pysplice".toList) := by
  obtain ⟨hname, hcases⟩ := Registry.defaults_cases he
  simp only [Definition.environment.injEq, reduceCtorEq, false_or] at hcases
  rcases hcases with rfl | rfl
  · refine customEnvironment_makes hI rfl (fun unit body values s => ?_) level
    exact expand_makes x (fun _ _ => ⟨rfl, hname⟩) _ body _
  · refine customEnvironment_makes hI rfl (fun unit body values s => ?_) level
    exact ⟨.refl _, .inl rfl⟩

/-- The control sequence that executes code stands where it has been read. -/
lemma isCode_of_controlName {r : Text} {s' : State (σ × List LoggedCall)}
    (hr : s.cursor.rest = '\\' :: r)
    (hname : controlName (s.advance 1) = .ok "pysplice".toList s') :
    IsCode s.cursor.text s.cursor.offset := by
  obtain ⟨hread, -⟩ := controlName_sound hname
  rw [State.advance_one hr] at hread
  generalize hpysplice : "pysplice".toList = name at hread
  cases hread with
  | word _ _ hafter =>
    refine ⟨s.cursor.behind.reverse, _, ?_, Text.byteSize_reverse _, hafter⟩
    rw [Cursor.text, hr, ← hpysplice, List.append_assoc]
    rfl
  | symbol => cases hpysplice

/-- A control sequence adds its own call, or the calls of the lines in its body. -/
lemma loggedControl_adds (x : Executor σ) (hI : inner.Orderly) (level : Nat)
    (hs : s.cursor.rest.head? = some '\\') :
    (loggedControl ⟨.defaults, x⟩ inner level).Leads s State.Adds := by
  obtain ⟨r, hr⟩ := List.head?_eq_some_iff.1 hs
  have hskip : s.Still (s.advance 1) true := ⟨(Cursor.Reaches.refl _).advance 1, rfl⟩
  have hprecedes : s.cursor.Precedes (s.advance 1).cursor :=
    Cursor.precedes_advance (by rw [hr]; exact List.cons_ne_nil _ _)
  have hcontrol : Scan.Silent (α := Text) (σ := σ × List LoggedCall) controlName :=
    .of_sim fun _ _ => .controlName
  unfold loggedControl lineControl
  refine .of_look (mark_run s) ?_
  -- Everything is seen from the backslash, where the call is entered in the log.
  refine Leads.bind (R := State.Still) (Q := fun _ s' ok => s.Adds s' ok) hskip ?_
    (fun _ _ _ _ h => h) fun _ h => h.adds
  rintro _ _ ⟨⟩
  refine (hcontrol (s.advance 1)).bind (Q := fun _ s' ok => s.Adds s' ok) ?_ (fun _ _ _ _ h => h)
    fun _ h => (hskip.trans h).adds
  intro name s₁ hname
  have hread := hcontrol.still hname
  have hstill : s.Still s₁ true := hskip.trans hread
  dsimp only [Setup.logging]
  cases hd : Registry.defaults.find? name with
  | none => exact (hI.nativeControl name level).leads_of_still hstill
  | some d =>
    cases d with
    | command c =>
      have hsilent := Request.silent_run (S := ⟨.defaults, x.logging 0⟩) hI.silent
        (r := .customCommand c) rfl
      exact hsilent.orderly.leads_of_still hstill
    | environment e =>
      refine (defaultEnvironment_makes x hI.silent hd level).mono fun s' ok hmakes => ?_
      obtain ⟨hreach, hcall⟩ := hmakes
      refine ⟨hstill.1.trans hreach, ?_⟩
      rw [hstill.2] at hcall
      rcases hcall with hnone | ⟨call, hlog, ⟨hplace, rfl⟩, hok⟩
      · exact ⟨[], by rw [hnone, List.append_nil], .nil, fun _ _ hc => absurd hc List.not_mem_nil⟩
      · have hlt : s.cursor.offset < s'.cursor.offset :=
          (hprecedes.trans_reaches (hread.1.trans hreach)).offset_lt
        refine ⟨[call], hlog, .singleton (Nat.le_of_eq hplace.symm) (hplace ▸ hlt) ?_, ?_⟩
        · rw [hplace]
          exact isCode_of_controlName hr hname
        · simpa using hok

/-- A line adds what its control sequences add, one after the other. -/
lemma lineLoopWith_orderly {control group : Scan (σ × List LoggedCall) Text}
    (hc : ∀ s, s.cursor.rest.head? = some '\\' → control.Leads s State.Adds)
    (hg : Scan.Orderly group) (stop : Bool) (n : Nat) :
    Scan.Orderly (lineLoopWith control group stop n) := by
  induction n with
  | zero => exact .pure _
  | succ n ih =>
    refine .sim_bind (fun _ _ => .skipWhile _) fun plain s => ?_
    refine .of_look (peek_run s) ?_
    cases hnext : s.cursor.rest.head? with
    | none => exact Orderly.pure _ s
    | some c =>
      dsimp only
      split
      · exact Orderly.pure _ s
      split
      · exact Orderly.sim_bind (fun _ _ => .skip 1)
          (fun _ => .sim_bind (fun _ _ => .comment) fun _ => ih.bind fun _ => .pure _) s
      split
      case isTrue hslash =>
        subst hslash
        exact (hc s hnext).bind (fun _ s' _ => (ih.bind fun _ => .pure _) s') (fun _ _ _ => .trans)
          fun _ h => h
      split
      · exact Orderly.sim_bind (fun _ _ => .skip 1)
          (fun _ => hg.bind fun _ => ih.bind fun _ => .pure _) s
      split
      · exact Orderly.raise _ s
      · exact Orderly.raise _ s

end Scan

namespace Level

variable {inner : Level (σ × List LoggedCall)}

/-- The exhausted level is orderly. -/
lemma orderly_exhausted : (exhausted : Level (σ × List LoggedCall)).Orderly :=
  ⟨silent_exhausted, fun _ _ => .raise _⟩

/-- A level that logs is orderly if the one below it is. -/
lemma Orderly.logging (x : Executor σ) (h : inner.Orderly) :
    (Level.logging ⟨.defaults, x⟩ inner).Orderly where
  silent start host := by
    have habove := (h.silent start host).above (Lockstep.still_commands (.logging ⟨.defaults, x⟩ 0))
    exact ⟨habove.group, habove.brackets⟩
  line level stop := by
    have hgroup : Scan.Orderly (inner.group '\x7d') :=
      .of_sim fun start host => (h.silent start host).group _
    exact .bounded fun n =>
      Scan.lineLoopWith_orderly (fun s hs => Scan.loggedControl_adds x h level hs) hgroup stop n

/-- All levels that log are orderly. -/
lemma orderly_loggingRoom (x : Executor σ) (n : Nat) : (loggingRoom ⟨.defaults, x⟩ n).Orderly := by
  induction n with
  | zero => exact orderly_exhausted
  | succ n ih => exact ih.logging x

/-! ### Whole sources -/

/-- Blocks at the level of their first line are orderly. -/
lemma Orderly.block (h : inner.Orderly) : Scan.Orderly (Scan.block inner) := by
  refine .sim_bind (fun _ _ => .skipBlankLines) fun blank =>
    .sim_bind (fun _ _ => .isFinished) fun finished => ?_
  split
  · exact .pure _
  · exact .sim_bind (fun _ _ => .indentLevel) fun level => (h.blockLines level).bind fun _ => .pure _

/-- Fragments are orderly. -/
lemma Orderly.fragment (h : inner.Orderly) : Scan.Orderly (Scan.fragment inner) := by
  refine .bounded fun n => ?_
  induction n with
  | zero => exact h.block
  | succ n ih =>
    refine h.block.bind fun text => .sim_bind (fun _ _ => .isFinished) fun finished => ?_
    split
    · exact .pure _
    · exact .sim_bind (fun _ _ => .skip 1) fun _ => ih.bind fun _ => .pure _

/-- The lines of documents are orderly. -/
lemma Orderly.documentBody (h : inner.Orderly) : Scan.Orderly (Scan.documentBody inner) := by
  intro s
  have hblank : Scan.Silent (σ := σ × List LoggedCall) Scan.skipBlankLines :=
    .of_sim fun _ _ => .skipBlankLines
  refine .of_look (Scan.mark_run s) ?_
  -- A document of blank lines is left where it starts, so everything is seen from there.
  refine (hblank s).bind (Q := fun _ s' ok => s.Adds s' ok) (fun blank s₁ hs₁ => ?_)
    (fun _ _ _ _ ha => ha) fun _ hs => hs.adds
  have hstill := hblank.still hs₁
  refine .of_look (Scan.isFinished_run s₁) ?_
  split
  · have hback : s.Still { s₁ with cursor := s.cursor } true := ⟨.refl _, hstill.2⟩
    exact hback.adds
  · have hlines : Scan.Orderly (do
        if (← Scan.mark).indentation = [] then
          return blank ++ (← Scan.blockLines inner 0)
        else
          Scan.raise .indentedDocument) := by
      intro s₂
      refine .of_look (Scan.mark_run s₂) ?_
      split
      · exact ((h.blockLines 0).bind fun _ => .pure _) s₂
      · exact Scan.Orderly.raise _ s₂
    exact hlines.leads_of_still hstill

/-- Documents are orderly. -/
lemma Orderly.document (h : inner.Orderly) : Scan.Orderly (Scan.document inner) :=
  .sim_bind (fun _ _ => .delimiter) fun _ => h.documentBody.bind fun _ =>
    .sim_bind (fun _ _ => .skipWhile _) fun _ => .pure _

/-- Lines of preambles are orderly. -/
lemma Orderly.preambleLine (h : inner.Orderly) : Scan.Orderly (Scan.preambleLine inner) := by
  intro s
  refine .of_look (Scan.mark_run s) ?_
  split
  · exact Scan.Orderly.of_sim (fun _ _ => .skipWhile _) s
  split
  · exact Scan.Orderly.raise _ s
  split
  · exact h.line 0 false s
  · exact Scan.Orderly.raise _ s

/-- Whole sources are orderly. -/
lemma Orderly.root (h : inner.Orderly) : Scan.Orderly (Scan.root inner) := by
  refine .bounded fun n => ?_
  induction n with
  | zero => exact .raise _
  | succ n ih =>
    intro s
    refine .of_look (Scan.mark_run s) ?_
    split
    · exact h.document s
    · refine (h.preambleLine.bind fun line => .sim_bind (fun _ _ => .isFinished) fun finished => ?_) s
      split
      · exact .raise _
      · exact .sim_bind (fun _ _ => .skip 1) fun _ => ih.bind fun _ => .pure _

end Level

/-! ### The log of a run -/

/-- The log has the calls of a list of calls. -/
def HasCalls (h : σ × List Call) (h' : σ × List LoggedCall) : Prop :=
  h.1 = h'.1 ∧ h.2 = h'.2.map LoggedCall.call

/-- Logged calls are answered as recorded ones. -/
lemma Expansion.run_logging (x : Executor σ) (place : Nat) (e : Expansion) {h : σ × List Call}
    {h' : σ × List LoggedCall} (hh : HasCalls h h') :
    (e.run x.recording h).1 = (e.run (x.logging place) h').1 ∧
      HasCalls (e.run x.recording h).2 (e.run (x.logging place) h').2 := by
  induction e generalizing h h' with
  | text output => exact ⟨rfl, hh⟩
  | error e => exact ⟨rfl, hh⟩
  | execute call next ih =>
    obtain ⟨host, calls⟩ := h
    obtain ⟨host', log⟩ := h'
    simp only [HasCalls] at hh
    obtain ⟨rfl, rfl⟩ := hh
    refine ih _ ⟨rfl, ?_⟩
    rw [List.map_append]
    rfl

namespace Lockstep

/-- A setup that logs corresponds to the one that records. -/
lemma logged_setups (S : Setup σ) (place : Nat) :
    (equal HasCalls).Setups S.recording (S.logging place) :=
  fun _ => .equal (fun e _ _ hh => e.run_logging S.executor place hh) _

/-- Places make no difference to a run. -/
lemma logged_levels (S : Setup σ) (n : Nat) :
    (equal HasCalls).Levels (.ofRoom S.recording n) (.loggingRoom S n) := by
  induction n with
  | zero =>
    exact { group := fun _ => .raise nofun, brackets := .raise nofun,
            line := fun _ _ => .raise nofun }
  | succ n ih =>
    have habove := ih.above (logged_setups S 0)
    refine { group := habove.group, brackets := habove.brackets, line := fun level stop => ?_ }
    refine .bounded fun k => ?_
    rw [Scan.lineLoop_eq_lineLoopWith]
    refine .lineLoopWith (fun s t r => ?_) (ih.group _) stop k
    exact ih.lineControl (logged_setups S t.cursor.offset) level s t r

end Lockstep

namespace Translator

variable {t : Translator σ} {r : Request Text} {source : Text}

/-- The log has the calls that the executor gets. -/
lemma log_calls (t : Translator σ) (hr : r = .root ∨ r = .fragment) (source : Text) :
    (t.log r source).map LoggedCall.call = t.callsOf r source := by
  have hlevels := Lockstep.logged_levels t.setup maxNesting
  have hrelated : (Lockstep.equal HasCalls).Related (.start source (t.start t.files, []))
      (.start source (t.start t.files, [])) := ⟨rfl, rfl, rfl, rfl, rfl⟩
  rcases hr with rfl | rfl
  · have hends := hlevels.root.ends (fun he => he) hrelated fun _ _ => id
    exact hends.2.host.2.symm
  · have hends := hlevels.fragment.ends (fun he => he) hrelated fun _ _ => id
    exact hends.2.host.2.symm

/-- The log of a source is in order. -/
lemma log_inOrder (ht : t.registry = .defaults) (hr : r = .root ∨ r = .fragment) (source : Text) :
    ∃ high, InOrder source 0 high (t.log r source) := by
  obtain ⟨registry, files, x, start⟩ := t
  obtain rfl : registry = .defaults := ht
  have hlevel := Level.orderly_loggingRoom x maxNesting
  have horderly : Scan.Orderly (r.run (Setup.logging ⟨.defaults, x⟩ 0)
      (.loggingRoom ⟨.defaults, x⟩ maxNesting)) := by
    rcases hr with rfl | rfl
    · exact hlevel.root
    · exact hlevel.fragment
  obtain ⟨ok, -, calls, hlog, horder, -⟩ := horderly.final_adds (.start source (start files, []))
  have hcalls : Translator.log ⟨.defaults, files, x, start⟩ r source = calls := hlog
  rw [hcalls]
  exact ⟨_, horder⟩

/-- Each call is made by a control sequence for code in the source; the places of these control
sequences ascend from call to call, so that there are no more calls than such places; after a call
that fails there is none; and groups, arguments, comments and literal bodies make no call. -/
theorem calls_in_order (t : Translator σ) (ht : t.registry = .defaults) {r : Request Text}
    (hr : r = .root ∨ r = .fragment) (source : Text) :
    (t.log r source).map LoggedCall.call = t.callsOf r source ∧
    (∀ x ∈ t.log r source, IsCode source x.place) ∧
    (t.log r source).Pairwise (fun x y => x.place < y.place) ∧
    (t.callsOf r source).length ≤ source.tails.countP ("\\pysplice".toList.isPrefixOf ·) ∧
    (∀ before x after, t.log r source = before ++ x :: after → x.answer.isOk = false → after = []) ∧
    ∀ {α : Type} (q : Request α), q.isSilent → ∀ n s,
      ((q.run t.setup.recording (.ofRoom t.setup.recording n)).final s).host = s.host := by
  obtain ⟨high, horder⟩ := log_inOrder ht hr source
  have hcalls := log_calls t hr source
  refine ⟨hcalls, horder.isCode, horder.ascending, ?_, ?_, ?_⟩
  · rw [← hcalls, List.length_map]
    exact horder.length_le_count
  · intro before x after hlog hfailed
    by_contra hafter
    have hmem : x ∈ (t.log r source).dropLast := by
      rw [hlog, List.dropLast_append_of_ne_nil (List.cons_ne_nil x after),
        List.dropLast_cons_of_ne_nil hafter]
      simp
    rw [horder.isOk x hmem] at hfailed
    cases hfailed
  · intro α q hq n s
    exact (q.silent_run (Level.silent_ofRoom _ n) hq).final_host s

/-- Code in a block, and code after a bracket that does not close on its line. -/
theorem calls_in_order_bracket :
    let t := splicing ['z']
    let source := "\\a:\n  \\pysplice: x\n\\b[\\pysplice: y\n% \\pysplice: n".toList
    (t.log .fragment source).map LoggedCall.place = [6, 22] ∧
    t.callsOf .fragment source = [⟨none, ['x']⟩, ⟨none, ['y']⟩] ∧
    (t.log .fragment source).Pairwise (fun x y => x.place < y.place) ∧
    (∀ x ∈ t.log .fragment source, IsCode source x.place) ∧
    (t.callsOf .fragment source).length ≤ source.tails.countP ("\\pysplice".toList.isPrefixOf ·) := by
  intro t source
  obtain ⟨-, hcode, hascending, hcount, -⟩ := calls_in_order t rfl (.inr rfl) source
  exact ⟨by decide +kernel, by decide +kernel, hascending, hcode, hcount⟩

end Translator

end IndentTex
