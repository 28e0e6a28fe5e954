import IndentTex.Simulation.Arithmetic
import IndentTex.Simulation.Builtin
import IndentTex.Simulation.Utility

/-!
# Running scripts

Words are expanded and commands are carried out on a machine. Every step is bounded, and a script
that goes on for too long counts as one that waits.
-/

namespace IndentTex.Simulation

/-- The commands whose arguments may be assignments. -/
def declaringNames : List Text := ["export", "local", "readonly"].map String.toList

/-- Glyphs for all parameters, each in fields of its own. -/
def parameterGlyphs (quoted : Bool) (params : List Text) : List Glyph :=
  match params.map fun p => if quoted then .quotes :: glyphs true p else glyphs false p with
  | [] => []
  | p :: ps => p ++ ps.flatMap (.fieldEnd :: ·) ++ [.seam quoted]

/-- Glyphs for the value of a parameter. All parameters together stay apart where fields are made,
and are joined otherwise. -/
def Machine.valueGlyphs (m : Machine) (full quoted : Bool) (name value : Text) : List Glyph :=
  if full && (name = ['@'] || (name = ['*'] && !quoted)) then parameterGlyphs quoted m.params
  else glyphs quoted value

/-- Where a command is found. -/
inductive Found where
  | function
  | builtin
  | reserved
  | utility
  deriving DecidableEq, Repr

/-- Where the command with a name is found. -/
def Machine.find? (m : Machine) (name : Text) : Option Found :=
  if reservedWords.contains name then some .reserved
  else if m.functions.any (·.1 = name) then some .function
  else if specialNames.contains name || regularNames.contains name then some .builtin
  else if (Utility.find? name).isSome then some .utility
  else none

/-- Whether a command is a program of its own. -/
def Machine.isForeign (m : Machine) (name : Text) : Bool :=
  m.find? name = none || m.find? name = some .utility

/-- Prints where commands are found. -/
def showCommands (long : Bool) (names : List Text) : Sh Unit := do
  let m ← get
  let path (name : Text) : Text := "/usr/bin/".toList ++ name
  let line (name : Text) : Text := match m.find? name with
    | some .function => if long then name ++ " is a shell function".toList else name
    | some .builtin =>
      if !long then name
      else if specialNames.contains name then name ++ " is a special shell builtin".toList
      else name ++ " is a shell builtin".toList
    | some .reserved => if long then name ++ " is a shell keyword".toList else name
    | some .utility => if long then name ++ " is ".toList ++ path name else path name
    | none => if long then name ++ ": not found".toList else []
  let lines := (names.map line).filter fun l => !l.isEmpty
  print (lines.flatMap fun l => l ++ ['\n']) (if names.all fun n => (m.find? n).isSome then 0 else 127)

/-- What the arguments of the shell ask for. -/
structure Invocation where
  /-- A script, its name and its parameters. -/
  script : Text
  self : Text
  params : List Text
  flags : Flags

/-- The options of the shell at the beginning of arguments, whether a script follows, and the
arguments left. There is nothing if an option is not known. -/
def shellOptions? : Flags → (command : Bool) → List Text → Option (Flags × Bool × List Text)
  | f, command, [] => some (f, command, [])
  | f, command, ['-'] :: args => some (f, command, args)
  | f, command, ['-', '-'] :: args => some (f, command, args)
  | f, command, ['-', 'o'] :: name :: args =>
    (optionLetter? name).bind fun c => shellOptions? (f.put true c) command args
  | f, command, (sign :: letters) :: args =>
    if (sign == '-' || sign == '+') && !letters.isEmpty then
      if letters.all fun c => c == 'c' || optionLetters.contains c then
        shellOptions? (letters.foldl (fun f c => f.put (sign == '-') c) f)
          (command || letters.contains 'c') args
      else none
    else some (f, command, (sign :: letters) :: args)
  | f, command, args => some (f, command, args)

/-- What the arguments of the shell ask for: a script after an option with `c`, or else the content
of a file. -/
def invocation? (file? : Text → Option Text) (args : List Text) : Option Invocation := do
  let (flags, command, args) ← shellOptions? ⟨false, false, false⟩ false args
  match command, args with
  | true, [] => none
  | true, [script] => return ⟨script, "sh".toList, [], flags⟩
  | true, script :: self :: params => return ⟨script, self, params, flags⟩
  | false, [] => none
  | false, path :: params => return ⟨← file? path, path, params, flags⟩

/-- The machine that a shell starts with. -/
def Invocation.machine (i : Invocation) (world : World) (streams : List (Nat × Nat))
    (vars : List (Text × Variable)) : Machine where
  world := world
  streams := streams
  vars := vars
  calls := []
  functions := []
  documents := ⟨[], 0⟩
  self := i.self
  params := i.params
  flags := i.flags
  status := 0
  outputStatus := 0
  loops := 0
  tested := false
  farewell := none

/-- Runs another shell with the same streams. Only what is exported is known to it. -/
def runInside (i : Invocation) (run : Sh Unit) : Sh Unit := fun m =>
  let inner := i.machine m.world m.streams (m.vars.filter fun v => v.2.exported)
  match run inner with
  | .ok _ r => .ok () (m.after r)
  | .error .waiting r => .error .waiting (m.after r)
  | .error .killed r => .error .killed (m.after r)
  | .error _ r => .ok () (m.after r)

/-- Ends the script if a failure is not allowed for. -/
def endOnFailure : Sh Unit := do
  let m ← get
  if m.status != 0 && m.flags.strict && !m.tested then throw .ended

/-- Runs the body of a function with its own parameters. -/
def calling (args : List Text) (body : Sh Unit) : Sh Unit := do
  let outer ← get
  set { outer with params := args, calls := [] :: outer.calls, loops := 0 }
  try body catch
    | .leaveFunction => pure ()
    | e => throw e
  modify fun m =>
    { m with
      params := outer.params
      loops := outer.loops
      calls := outer.calls
      vars := (m.calls.headD []).foldl restoreVariable m.vars }

mutual

/-- The glyphs of a word. `full` says whether fields are made of it, and `inBranch` whether it stands
in the braces of a parameter. -/
def expandWord : Nat → (full inBranch : Bool) → Word → Sh (List Glyph)
  | _, _, _, [] => return []
  | 0, _, _, _ => throw .waiting
  | n + 1, full, inBranch, p :: ps => do
    let first ← expandPiece n full inBranch p
    return first ++ (← expandWord n full inBranch ps)

/-- The glyphs of a piece of a word. -/
def expandPiece : Nat → (full inBranch : Bool) → Piece → Sh (List Glyph)
  | 0, _, _, _ => throw .waiting
  | n + 1, full, inBranch, p =>
    match p with
    | .literal c quoted => return [.char c quoted (inBranch && !quoted)]
    | .quotes => return [.quotes]
    | .output command quoted => do
      return glyphs quoted (← capture (completing (runCmd n command) (sayFarewell n)))
    | .arithmetic expression quoted => do
      let t := textOf (← expandWord n false false expression)
      let m ← get
      match Arithmetic.evaluate? (fun name => (m.value? name).getD []) t with
      | none => abort
      | some (value, changes) =>
        for (name, v) in changes.reverse do
          setVariable name v
        return glyphs quoted (Number.write value)
    | .parameter name use quoted => do
      let m ← get
      let value := m.parameter? name
      let isMissing (emptyToo : Bool) : Bool := value.all fun v => emptyToo && v.isEmpty
      let whole := m.valueGlyphs full quoted name (value.getD [])
      let known : Sh Text := match value with
        | some v => return v
        | none => if m.flags.demanding && name ≠ ['@'] && name ≠ ['*'] then abort else return []
      match use with
      | .value => do
        let _ ← known
        return whole
      | .length => return glyphs quoted (Text.ofNat (← known).length)
      | .orElse emptyToo word =>
        if isMissing emptyToo then
          return (← expandWord n full (!quoted) word) ++ [.seam false]
        else return whole
      | .assign emptyToo word =>
        if isMissing emptyToo then
          if !isName name then abort
          else
            let t := textOf (← expandWord n false false word)
            setVariable name t
            return glyphs quoted t
        else return whole
      | .instead emptyToo word =>
        if isMissing emptyToo then return []
        else return (← expandWord n full (!quoted) word) ++ [.seam false]
      | .demand emptyToo _ => if isMissing emptyToo then abort else return whole
      | .dropStart longest word => do
        let t ← known
        return glyphs quoted (dropMatch (← expandPattern n word) longest t)
      | .dropEnd longest word => do
        let t ← known
        return glyphs quoted (dropMatchEnd (← expandPattern n word) longest t)
      | .unknown => abort

/-- The pattern of a word. -/
def expandPattern : Nat → Word → Sh (List Glob)
  | 0, _ => throw .waiting
  | n + 1, w => return Glyph.pattern (← expandWord n false false w)

/-- The fields of words. -/
def expandWords : Nat → List Word → Sh (List Text)
  | _, [] => return []
  | 0, _ => throw .waiting
  | n + 1, w :: ws => do
    let gs ← expandWord n true false w
    let m ← get
    let fields := (breakUp m.separators none gs).flatMap m.fieldTexts
    return fields ++ (← expandWords n ws)

/-- The fields of words that may be assignments, whose values are not broken up. -/
def expandDeclarations : Nat → List Word → Sh (List Text)
  | _, [] => return []
  | 0, _ => throw .waiting
  | n + 1, w :: ws => do
    let fields ← match assignment? w with
      | some (name, value) => do
        pure [name ++ '=' :: textOf (← expandWord n false false value)]
      | none => expandWords n [w]
    return fields ++ (← expandDeclarations n ws)

/-- The name and the arguments of a command. -/
def expandCommand : Nat → List Word → Sh (List Text)
  | _, [] => return []
  | 0, _ => throw .waiting
  | n + 1, w :: ws =>
    match w.bare? with
    | some name =>
      if declaringNames.contains name then do
        return name :: (← expandDeclarations n ws)
      else expandWords n (w :: ws)
    | none => expandWords n (w :: ws)

/-- Sets variables to the values of words. -/
def assignAll : Nat → (exported : Bool) → List (Text × Word) → Sh Unit
  | _, _, [] => return
  | 0, _, _ => throw .waiting
  | n + 1, exported, (name, w) :: rest => do
    setVariable name (textOf (← expandWord n false false w))
    if exported then
      changeVariable name fun v => { v with exported := true }
    assignAll n exported rest

/-- Redirects streams. Says whether that was possible. -/
def connectAll : Nat → List Redirection → Sh Bool
  | _, [] => return true
  | 0, _ => throw .waiting
  | n + 1, .document stream number :: rs => do
    let word := ((← get).documents.words.lookup number).getD []
    let t := textOf (← expandWord n false false word)
    connect stream (some (← openNew (.input [t] false)))
    connectAll n rs
  | n + 1, .file stream opening w :: rs => do
    let target := textOf (← expandWord n false false w)
    if opening = .copy && target = ['-'] then
      connect stream none
      connectAll n rs
    else
      let place ← if opening = .copy then do
          let m ← get
          pure ((count? target).bind fun k => m.streams.lookup k)
        else openPath opening target
      match place with
      | some i =>
        connect stream (some i)
        connectAll n rs
      | none => return false

/-- Runs a script, one line after the other. A mistake ends it. -/
def runScript : Nat → Text → Sh Unit
  | 0, _ => throw .waiting
  | n + 1, t => do
    match nextLine? t (← get).documents with
    | none => abort
    | some (none, _, _) => return
    | some (some c, rest, documents) =>
      modify fun m => { m with documents := documents }
      runCmd n c
      runScript n rest

/-- Runs what is to be run at the end. The status stays. -/
def sayFarewell : Nat → Sh Unit
  | 0 => throw .waiting
  | n + 1 => do
    let m ← get
    match m.farewell with
    | none => return
    | some t =>
      set { m with farewell := none }
      runScript n t
      setStatus m.status

/-- Runs a command by its name and arguments. -/
def runWords : Nat → List Text → Sh Unit
  | _, [] => return
  | 0, _ => throw .waiting
  | n + 1, name :: args => do
    let m ← get
    match m.functions.lookup name with
    | some body => calling args (runCmd n body)
    | none =>
      match String.ofList name with
      | "eval" =>
        if args.all List.isEmpty then
          setStatus 0
        runScript n (Text.joinWith [' '] args)
      | "exec" => do
        runWords n args
        throw .ended
      | "command" =>
        match args with
        | ['-', 'v'] :: names => showCommands false (names.take 1)
        | ['-', 'V'] :: names => showCommands true (names.take 1)
        | ['-', 'p'] :: args => runWords n args
        | args => runWords n args
      | "type" => showCommands true args
      | "." =>
        match args with
        | path :: _ =>
          match if path.contains '/' then m.file? path else none with
          | some script =>
            try runScript n script catch
              | .leaveFunction => pure ()
              | e => throw e
          | none => abort
        | [] => abort
      | "sh" | "dash" | "/bin/sh" | "/bin/dash" | "/usr/bin/sh" | "/usr/bin/dash" =>
        match invocation? m.file? args with
        | some i => runInside i (completing (runScript n i.script) (sayFarewell n))
        | none => setStatus 2
      | _ =>
        if ← builtin name args then return
        else
          match Utility.find? name with
          | some run => run args
          | none =>
            match m.place name with
            | .ok (.found _ _) => setStatus (if name.contains '/' then 126 else 127)
            | _ => setStatus 127

/-- Runs a command. -/
def runCmd : Nat → Cmd → Sh Unit
  | 0, _ => throw .waiting
  | n + 1, c =>
    match c with
    | .nop => setStatus 0
    | .simple assignments words rs => do
      modify fun m => { m with outputStatus := 0 }
      let fields ← expandCommand n words
      match fields with
      | [] =>
        if ← keepingStreams (connectAll n rs) then
          assignAll n false assignments
          modify fun m => { m with status := m.outputStatus }
        else setStatus 2
      | name :: args =>
        if name == "exec".toList && args.isEmpty then
          if ← connectAll n rs then
            assignAll n false assignments
            setStatus 0
          else abort
        else
          let isSpecial := specialNames.contains name
          let run : Sh Unit := keepingStreams do
            if ← connectAll n rs then
              let saved := (← get).vars
              assignAll n (!isSpecial) assignments
              runWords n (name :: args)
              if !isSpecial then
                modify fun m =>
                  { m with
                    vars := assignments.foldl
                      (fun vars a => restoreVariable vars (a.1, saved.lookup a.1)) m.vars }
            else if isSpecial then abort
            else setStatus 2
          if (← get).isForeign name then apart run else run
      endOnFailure
    | .redirected rs c => do
      keepingStreams do
        if ← connectAll n rs then runCmd n c else setStatus 2
      endOnFailure
    | .seq a b => do
      runCmd n a
      runCmd n b
    | .both a b => do
      testing (runCmd n a)
      if (← get).status == 0 then
        runCmd n b
    | .either a b => do
      testing (runCmd n a)
      if (← get).status != 0 then
        runCmd n b
    | .negated a => do
      testing (runCmd n a)
      setStatus (if (← get).status == 0 then 1 else 0)
    | .pipe a b => do
      piped (completing (runCmd n a) (sayFarewell n)) (completing (runCmd n b) (sayFarewell n))
      endOnFailure
    | .subshell a => do
      apart (completing (runCmd n a) (sayFarewell n))
      endOnFailure
    | .background a => do
      keepingStreams do
        connect 0 (some (← openNew .null))
        apart (completing (runCmd n a) (sayFarewell n))
      setStatus 0
    | .cond test yes no => do
      testing (runCmd n test)
      if (← get).status == 0 then
        runCmd n yes
      else
        runCmd n no
    | .loop untilTrue test body => runLoop n untilTrue test body 0
    | .each name words body => do
      let fields ← match words with
        | some words => expandWords n words
        | none => pure (← get).params
      setStatus 0
      runEach n name body fields
    | .choose w branches => do
      let t := textOf (← expandWord n false false w)
      runBranches n t branches
    | .define name body => do
      modify fun m =>
        { m with functions := (name, body) :: m.functions.filter (·.1 ≠ name), status := 0 }

/-- Runs the rounds of a loop. `last` is the status of the last round. -/
def runLoop : Nat → (untilTrue : Bool) → (test body : Cmd) → (last : Nat) → Sh Unit
  | 0, _, _, _, _ => throw .waiting
  | n + 1, untilTrue, test, body, last => do
    if ← loopRound (testing (runCmd n test)) then
      if ((← get).status == 0) != untilTrue then
        if ← loopRound (runCmd n body) then
          runLoop n untilTrue test body (← get).status
      else
        setStatus last

/-- Runs the body of a loop over words. -/
def runEach : Nat → Text → Cmd → List Text → Sh Unit
  | _, _, _, [] => return
  | 0, _, _, _ => throw .waiting
  | n + 1, name, body, t :: ts => do
    setVariable name t
    if ← loopRound (runCmd n body) then
      runEach n name body ts

/-- Runs the first branch with a matching pattern. -/
def runBranches : Nat → Text → List (List Word × Cmd) → Sh Unit
  | _, _, [] => setStatus 0
  | 0, _, _ => throw .waiting
  | n + 1, t, (patterns, body) :: rest => do
    if ← matchesAny n t patterns then
      runCmd n body
    else
      runBranches n t rest

/-- Whether a text matches one of the patterns. -/
def matchesAny : Nat → Text → List Word → Sh Bool
  | _, _, [] => return false
  | 0, _, _ => throw .waiting
  | n + 1, t, w :: ws => do
    if isMatch (← expandPattern n w) t then return true
    else matchesAny n t ws

end

end IndentTex.Simulation
