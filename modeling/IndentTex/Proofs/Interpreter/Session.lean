import IndentTex.Interpreter.Session
import Mathlib.Data.List.Basic
import Mathlib.Tactic.Lemma

/-!
# Interpreters that are gone

A process may exit at any moment. A call notices it in one of two ways: nothing can be written to
the process any more, or its output has ended. A `Round` is a call together with the host as it is at
that time, so that nothing is said about when processes exit. The main result, `after_gone`, says
what becomes of the session: the end of the output makes room for a new process, but after a refused
request the session stays and all further requests go to the same process.
-/

namespace IndentTex.Interpreter

variable {π : Type} {host : Host π} {config : Config} {sessions : Sessions π}
  {program : Text} {process : π}

/-! ### Sessions by program -/

namespace Sessions

/-- The first session of a program is found. -/
lemma find?_cons (s : Text × π) (sessions : Sessions π) (program : Text) :
    find? (s :: sessions) program = if program = s.1 then some s.2 else sessions.find? program := by
  rw [find?, List.lookup_cons]
  split
  case h_1 h => rw [if_pos (beq_iff_eq.1 h)]
  case h_2 h =>
    rw [if_neg (beq_eq_false_iff_ne.1 h)]
    rfl

/-- A session that is dropped is not found, and all others are. -/
lemma find?_erase (sessions : Sessions π) (program other : Text) :
    (sessions.erase program).find? other =
      if other = program then none else sessions.find? other := by
  induction sessions with
  | nil => exact (ite_self none).symm
  | cons s sessions ih =>
    by_cases hs : s.1 = program
    · have herase : erase (s :: sessions) program = erase sessions program := by
        simp [erase, hs]
      rw [herase, ih, find?_cons, hs]
      split <;> rfl
    · have herase : erase (s :: sessions) program = s :: erase sessions program := by
        simp [erase, hs]
      rw [herase, find?_cons, find?_cons, ih]
      by_cases ho : other = s.1
      · rw [if_pos ho, if_pos ho, if_neg (ho ▸ hs)]
      · rw [if_neg ho, if_neg ho]

/-- A session that is put is found, and all others are as before. -/
lemma find?_put (sessions : Sessions π) (program other : Text) (process : π) :
    (sessions.put program process).find? other =
      if other = program then some process else sessions.find? other := by
  rw [put, find?_cons, find?_erase]
  split <;> rfl

/-- The sessions after an exchange, which has left a process or none. -/
def keep (sessions : Sessions π) (program : Text) (left : Option π) : Sessions π :=
  left.elim (sessions.erase program) (sessions.put program)

/-- What an exchange has left is found, and all other sessions are as before. -/
lemma find?_keep (sessions : Sessions π) (program other : Text) (left : Option π) :
    (sessions.keep program left).find? other =
      if other = program then left else sessions.find? other := by
  cases left with
  | none => exact find?_erase sessions program other
  | some process => exact find?_put sessions program other process

/-- The process that a body for a program is sent to: the one that runs, or a new one. -/
def reach (sessions : Sessions π) (host : Host π) (config : Config) (program : Text) :
    Except Failure π :=
  (sessions.find? program).elim (start host config program) .ok

/-- A body is sent to the process that runs. -/
lemma reach_of_some (h : sessions.find? program = some process) :
    sessions.reach host config program = .ok process := by
  rw [reach, h, Option.elim_some]

/-- A body is sent to a new process if none runs. -/
lemma reach_of_none (h : sessions.find? program = none) :
    sessions.reach host config program = start host config program := by
  rw [reach, h, Option.elim_none]

end Sessions

/-! ### One exchange -/

section Exchange

variable {f : Format} {body reason : Text} {written left : π}

/-- Where a request cannot be written, the call has crashed and the process is kept. -/
lemma exchange_of_write_error (h : host.write (f.request body) process = .error reason) :
    exchange host f body process = (.error (.crashed reason), some process) := by
  rw [exchange, h]

/-- Where the output has ended, the call has crashed and no process is left. -/
lemma exchange_of_end (hwrite : host.write (f.request body) process = .ok written)
    (hread : (host.readLine written).1 = .ok []) :
    exchange host f body process = (.error (.crashed "the interpreter exited".toList), none) := by
  rw [exchange, hwrite]
  dsimp only
  rcases hreading : host.readLine written with ⟨line, left⟩
  rw [hreading] at hread
  cases hread
  rfl

/-- Where no text can be read, the call has crashed and the process is kept. -/
lemma exchange_of_read_error (hwrite : host.write (f.request body) process = .ok written)
    (hread : host.readLine written = (.error reason, left)) :
    exchange host f body process = (.error (.crashed reason), some left) := by
  rw [exchange, hwrite]
  dsimp only
  rw [hread]

/-- Where a line is read, it is the answer and the process is kept. -/
lemma exchange_of_line {line : Text} (hwrite : host.write (f.request body) process = .ok written)
    (hread : host.readLine written = (.ok line, left)) (hline : line ≠ []) :
    exchange host f body process = (f.answer line, some left) := by
  rw [exchange, hwrite]
  dsimp only
  rw [hread]
  dsimp only
  rw [if_neg (by simpa using hline)]

end Exchange

/-! ### One call -/

/-- Where no process can be started, no session changes. -/
lemma execute_of_error {failure : Failure} (body : Text)
    (h : sessions.reach host config program = .error failure) :
    execute host config program body sessions = (.error failure, sessions) := by
  cases hs : sessions.find? program with
  | some running =>
    rw [Sessions.reach_of_some hs] at h
    cases h
  | none =>
    rw [Sessions.reach_of_none hs] at h
    rw [execute, hs]
    dsimp only
    rw [h]

/-- A body is sent to the process of its program, and no other session changes. -/
lemma execute_of_ok (body : Text) (h : sessions.reach host config program = .ok process) :
    execute host config program body sessions =
      ((exchange host config.format body process).1,
        sessions.keep program (exchange host config.format body process).2) := by
  cases hs : sessions.find? program with
  | some running =>
    rw [Sessions.reach_of_some hs, Except.ok.injEq] at h
    rw [execute, hs]
    dsimp only
    rw [h]
    rcases exchange host config.format body process with ⟨answer, _ | left⟩ <;> rfl
  | none =>
    rw [Sessions.reach_of_none hs] at h
    rw [execute, hs]
    dsimp only
    rw [h]
    dsimp only
    rcases exchange host config.format body process with ⟨answer, _ | left⟩ <;> rfl

/-- The program that a call is for. -/
def Config.target (config : Config) (call : Call) : Text := call.interpreter.getD config.program

/-- A call, and the host as it is while the call is answered. -/
structure Round (π : Type) where
  host : Host π
  call : Call

namespace Round

variable {r : Round π} {reason : Text}

/-- The answer to a call, and the sessions afterwards. -/
def answer (config : Config) (r : Round π) (sessions : Sessions π) :
    Except Failure Text × Sessions π :=
  (executor r.host config).answer r.call sessions

/-- The request cannot be written to a process. -/
def IsRefused (config : Config) (r : Round π) (process : π) (reason : Text) : Prop :=
  r.host.write (config.format.request r.call.body) process = .error reason

/-- The request is written to a process, whose output then has ended. -/
def IsUnanswered (config : Config) (r : Round π) (process : π) : Prop :=
  ∃ written, r.host.write (config.format.request r.call.body) process = .ok written ∧
    (r.host.readLine written).1 = .ok []

/-- A process is gone when a call comes to it. -/
def IsLost (config : Config) (r : Round π) (process : π) : Prop :=
  r.IsUnanswered config process ∨ ∃ reason, r.IsRefused config process reason

/-- A refused request leaves the session as it was. -/
lemma answer_of_refused (hr : sessions.reach r.host config (config.target r.call) = .ok process)
    (h : r.IsRefused config process reason) :
    r.answer config sessions =
      (.error (.crashed reason), sessions.put (config.target r.call) process) := by
  have hexecute := execute_of_ok r.call.body hr
  rwa [exchange_of_write_error h] at hexecute

/-- An unanswered request drops the session. -/
lemma answer_of_unanswered (hr : sessions.reach r.host config (config.target r.call) = .ok process)
    (h : r.IsUnanswered config process) :
    r.answer config sessions = (.error (.crashed "the interpreter exited".toList),
      sessions.erase (config.target r.call)) := by
  obtain ⟨written, hwrite, hread⟩ := h
  have hexecute := execute_of_ok r.call.body hr
  rwa [exchange_of_end hwrite hread] at hexecute

/-- A call leaves the sessions of other programs alone. -/
lemma find?_answer_of_ne (sessions : Sessions π) (h : config.target r.call ≠ program) :
    (r.answer config sessions).2.find? program = sessions.find? program := by
  cases hr : sessions.reach r.host config (config.target r.call) with
  | error failure => exact congrArg (·.2.find? program) (execute_of_error r.call.body hr)
  | ok process =>
    have hexecute := congrArg (·.2.find? program) (execute_of_ok r.call.body hr)
    refine hexecute.trans ?_
    dsimp only
    rw [Sessions.find?_keep, if_neg h.symm]

end Round

/-! ### Many calls -/

/-- The sessions after calls that are answered one after the other. -/
def Sessions.after (config : Config) (sessions : Sessions π) (rounds : List (Round π)) :
    Sessions π :=
  rounds.foldl (fun sessions r => (r.answer config sessions).2) sessions

/-- The first of several calls is answered first. -/
lemma Sessions.after_cons (config : Config) (sessions : Sessions π) (r : Round π)
    (rounds : List (Round π)) :
    sessions.after config (r :: rounds) = (r.answer config sessions).2.after config rounds :=
  rfl

/-- Calls after calls are answered in the sessions that those have left. -/
lemma Sessions.after_append (config : Config) (sessions : Sessions π)
    (rounds later : List (Round π)) :
    sessions.after config (rounds ++ later) = (sessions.after config rounds).after config later :=
  List.foldl_append

/-- Calls for other programs leave a session alone. -/
lemma Sessions.find?_after_of_ne (sessions : Sessions π) {rounds : List (Round π)}
    (h : ∀ r ∈ rounds, config.target r.call ≠ program) :
    (sessions.after config rounds).find? program = sessions.find? program := by
  induction rounds generalizing sessions with
  | nil => rfl
  | cons r rounds ih =>
    rw [List.forall_mem_cons] at h
    rw [Sessions.after_cons, ih _ h.2, Round.find?_answer_of_ne sessions h.1]

/-- A process that refuses every request keeps its session. -/
lemma Sessions.find?_after_of_refused (hs : sessions.find? program = some process)
    {rounds : List (Round π)}
    (h : ∀ r ∈ rounds, config.target r.call = program → ∃ reason, r.IsRefused config process reason) :
    (sessions.after config rounds).find? program = some process := by
  induction rounds generalizing sessions with
  | nil => exact hs
  | cons r rounds ih =>
    rw [List.forall_mem_cons] at h
    rw [Sessions.after_cons]
    refine ih ?_ h.2
    by_cases hr : config.target r.call = program
    · obtain ⟨reason, hrefused⟩ := h.1 hr
      rw [r.answer_of_refused (Sessions.reach_of_some (hr ▸ hs)) hrefused, Sessions.find?_put,
        if_pos hr.symm]
    · rw [r.find?_answer_of_ne sessions hr, hs]

/-- What becomes of the session of a process that is gone when a call comes to it. If its output has
ended, then the session is dropped, and the next call for the program starts a new process. If the
request was refused, then the session stays and all later requests go to the same process: as long
as it refuses them, every call for the program fails and no process is started. -/
theorem after_gone (config : Config) (before : List (Round π)) (r : Round π) (process : π)
    (hr : (Sessions.after config [] before).reach r.host config (config.target r.call) =
      .ok process) :
    (r.IsUnanswered config process →
      (r.answer config (Sessions.after config [] before)).1 =
        .error (.crashed "the interpreter exited".toList) ∧
      ∀ (between : List (Round π)) (next : Round π),
        (∀ b ∈ between, config.target b.call ≠ config.target r.call) →
        config.target next.call = config.target r.call →
        (Sessions.after config [] (before ++ r :: between)).reach next.host config
          (config.target next.call) = start next.host config (config.target next.call)) ∧
    ∀ reason, r.IsRefused config process reason →
      (r.answer config (Sessions.after config [] before)).1 = .error (.crashed reason) ∧
      ∀ (between : List (Round π)) (next : Round π),
        (∀ b ∈ between, config.target b.call = config.target r.call →
          ∃ reason, b.IsRefused config process reason) →
        config.target next.call = config.target r.call →
        (Sessions.after config [] (before ++ r :: between)).reach next.host config
          (config.target next.call) = .ok process ∧
        ∀ reason, next.IsRefused config process reason →
          (next.answer config (Sessions.after config [] (before ++ r :: between))).1 =
            .error (.crashed reason) := by
  constructor
  · intro hlost
    have hanswer := Round.answer_of_unanswered hr hlost
    refine ⟨congrArg Prod.fst hanswer, ?_⟩
    intro between next hbetween hnext
    refine Sessions.reach_of_none ?_
    rw [hnext, Sessions.after_append, Sessions.after_cons, Sessions.find?_after_of_ne _ hbetween,
      hanswer, Sessions.find?_erase, if_pos rfl]
  · intro reason hlost
    have hanswer := Round.answer_of_refused hr hlost
    refine ⟨congrArg Prod.fst hanswer, ?_⟩
    intro between next hbetween hnext
    -- the process is put back as it was, so that nothing else can be reached from here on
    have hkept : (r.answer config (Sessions.after config [] before)).2.find?
        (config.target r.call) = some process := by
      rw [hanswer, Sessions.find?_put, if_pos rfl]
    have hreach : (Sessions.after config [] (before ++ r :: between)).reach next.host config
        (config.target next.call) = .ok process := by
      refine Sessions.reach_of_some ?_
      rw [hnext, Sessions.after_append, Sessions.after_cons,
        Sessions.find?_after_of_refused hkept hbetween]
    refine ⟨hreach, ?_⟩
    intro reason' hnext'
    exact congrArg Prod.fst (Round.answer_of_refused hreach hnext')

/-- Processes that answer one request and exit: what they have printed, and whether they have
exited. -/
def brief : Host (Text × Bool) where
  spawn _ _ _ := .ok ([], false)
  write _ process :=
    if process.2 then .error "Broken pipe (os error 32)".toList
    else .ok ("[\"done\", null]\n".toList, true)
  readLine process := (.ok process.1, ([], process.2))

/-- The process that has answered its only request. -/
lemma find?_after_brief :
    (Sessions.after ⟨['s', 'h'], [], [], .json⟩ [] [⟨brief, ⟨none, ['a']⟩⟩]).find? ['s', 'h'] =
      some ([], true) := by
  decide +kernel

/-- A process that is killed while it runs a body is replaced. One that has exited after its answer
is sent the second and the third body too. -/
theorem after_gone_brief :
    let config : Config := ⟨['s', 'h'], [], [], .json⟩
    let round (body : Text) : Round (Text × Bool) := ⟨brief, ⟨none, body⟩⟩
    let killed : Round (Text × Bool) := ⟨{ brief with readLine := (.ok [], ·) }, ⟨none, ['a']⟩⟩
    (Sessions.after config [] [killed]).reach brief config ['s', 'h'] =
        start brief config ['s', 'h'] ∧
      (Sessions.after config [] [round ['a']]).reach brief config ['s', 'h'] = .ok ([], true) ∧
      ((round ['c']).answer config (Sessions.after config [] [round ['a'], round ['b']])).1 =
        .error (.crashed "Broken pipe (os error 32)".toList) := by
  intro config round killed
  have hfirst : (Sessions.after config [] [round ['a']]).reach brief config ['s', 'h'] =
      .ok ([], true) := Sessions.reach_of_some find?_after_brief
  refine ⟨?_, hfirst, ?_⟩
  · have hkilled := (after_gone config [] killed ([], false) rfl).1 ⟨_, rfl, rfl⟩
    exact hkilled.2 [] (round ['b']) (by simp) rfl
  · have hrefused := (after_gone config [round ['a']] (round ['b']) ([], true) hfirst).2 _ rfl
    exact (hrefused.2 [] (round ['c']) (by simp) rfl).2 _ rfl

/-- It is not so that the session of a process that is gone is always dropped: that of a process
that has exited after its first answer stays. -/
theorem not_dropped_of_lost :
    ¬ ∀ (π : Type) (config : Config) (before : List (Round π)) (r : Round π) (process : π),
      (Sessions.after config [] before).reach r.host config (config.target r.call) = .ok process →
      r.IsLost config process →
      (Sessions.after config [] (before ++ [r])).find? (config.target r.call) = none := by
  intro hdropped
  have hnone := hdropped (Text × Bool) ⟨['s', 'h'], [], [], .json⟩ [⟨brief, ⟨none, ['a']⟩⟩]
    ⟨brief, ⟨none, ['b']⟩⟩ ([], true) (Sessions.reach_of_some find?_after_brief) (Or.inr ⟨_, rfl⟩)
  have hsome : (Sessions.after ⟨['s', 'h'], [], [], .json⟩ []
      [⟨brief, ⟨none, ['a']⟩⟩, ⟨brief, ⟨none, ['b']⟩⟩]).find? ['s', 'h'] = some ([], true) := by
    decide +kernel
  exact Option.some_ne_none _ (hsome.symm.trans hnone)

end IndentTex.Interpreter
