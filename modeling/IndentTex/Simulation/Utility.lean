import IndentTex.Simulation.Field

/-!
# Utilities

Small programs that scripts call: they read files or their input, and print.
-/

namespace IndentTex.Simulation.Utility

/-- The options and the operands among arguments. A single dash is an operand, and after two of them
there are operands only. -/
def options : List Text → List Text × List Text
  | [] => ([], [])
  | a :: args =>
    if a = ['-', '-'] then ([], args)
    else
      let (opts, operands) := options args
      if a.head? == some '-' && 1 < a.length then (a :: opts, operands) else (opts, a :: operands)

/-- The content of operands, where a dash and no operand at all mean the input, and whether all of
them could be read. -/
def contents (operands : List Text) : Sh (Text × Bool) := do
  let read ← (if operands.isEmpty then [['-']] else operands).mapM fun path => do
    if path = ['-'] then return some (← readAll 0 fun _ => return)
    else return (← get).file? path
  return ((read.filterMap id).flatten, read.all Option.isSome)

/-- The lines of a text, each with its end. -/
def linesOf (t : Text) : List Text :=
  (go t).filter fun l => !l.isEmpty
where
  /-- The lines of a text, of which the last may be empty. -/
  go : Text → List Text
    | [] => [[]]
    | '\n' :: cs => ['\n'] :: go cs
    | c :: cs => match go cs with
      | [] => [[c]]
      | l :: ls => (c :: l) :: ls

/-- A line with an end. -/
def withEnd (line : Text) : Text := if line.getLast? == some '\n' then line else line ++ ['\n']

/-- A line without its end. -/
def withoutEnd (line : Text) : Text := if line.getLast? == some '\n' then line.dropLast else line

/-- Prints what becomes of the content of operands. -/
def transform (operands : List Text) (f : Text → Text) : Sh Unit := do
  let (t, found) ← contents operands
  print (f t) (if found then 0 else 1)

/-- Prints files, or the input as it comes. -/
def cat (args : List Text) : Sh Unit := do
  let (opts, operands) := options args
  if opts.any (· ≠ ['-', 'u']) then setStatus 1
  else if operands.isEmpty || operands = [['-']] then
    let rest ← readAll 0 fun t => do
      let _ ← printTo 1 t
    print rest 0
  else transform operands id

/-- How much of a text is asked for. -/
inductive Extent where
  | lines (n : Nat)
  | bytes (n : Nat)
  /-- Everything from a line on. -/
  | fromLine (n : Nat)

/-- The extent that options ask for, and the operands. -/
def extent : List Text → Extent × List Text
  | ['-', 'n'] :: count :: args => (number count, args)
  | ['-', 'c'] :: count :: args => (.bytes (Number.ofDigits 10 count), args)
  | ('-' :: 'n' :: count) :: args => (number count, args)
  | ('-' :: 'c' :: count) :: args => (.bytes (Number.ofDigits 10 count), args)
  | ('-' :: c :: count) :: args =>
    if c.isDigit then (.lines (Number.ofDigits 10 (c :: count)), args) else (.lines 10, args)
  | args => (.lines 10, args)
where
  /-- A number of lines, counted from the beginning after a plus sign. -/
  number : Text → Extent
    | '+' :: count => .fromLine (Number.ofDigits 10 count)
    | count => .lines (Number.ofDigits 10 count)

/-- The beginning of a text. -/
def firstPart (t : Text) : Extent → Text
  | .lines n => ((linesOf t).take n).flatten
  | .bytes n => t.take n
  | .fromLine n => ((linesOf t).take n).flatten

/-- Whether a text is long enough. -/
def Extent.isReached (t : Text) : Extent → Bool
  | .lines n => n ≤ t.count '\n'
  | .bytes n => n ≤ t.length
  | .fromLine n => n ≤ t.count '\n'

/-- Prints the beginning of the input or of a file. As much of the input is read as has come with
what is printed. -/
def head (args : List Text) : Sh Unit := do
  let (e, operands) := extent args
  if operands.isEmpty then
    match (← get).portions? 0 with
    | none => setStatus 1
    | some (portions, isOpen) =>
      let needed := (List.range (portions.length + 1)).find? fun k =>
        e.isReached (portions.take k).flatten
      match needed with
      | none => if isOpen then throw .waiting else pure ()
      | some _ => pure ()
      let k := needed.getD portions.length
      leavePortions 0 (portions.drop k)
      print (firstPart (portions.take k).flatten e) 0
  else transform operands (firstPart · e)

/-- Prints the end of the input or of a file. -/
def tail (args : List Text) : Sh Unit := do
  let (e, operands) := extent args
  transform operands fun t =>
    let ls := linesOf t
    match e with
    | .lines n => (ls.drop (ls.length - n)).flatten
    | .bytes n => t.drop (t.length - n)
    | .fromLine n => (ls.drop (n - 1)).flatten

/-- The number of words in a text. -/
def wordCount : (inside : Bool) → Text → Nat
  | _, [] => 0
  | inside, c :: cs =>
    if Number.isSpace c then wordCount false cs
    else wordCount true cs + (if inside then 0 else 1)

/-- A number in a column. -/
def column (n : Nat) : Text :=
  let digits := Text.ofNat n
  List.replicate (7 - digits.length) ' ' ++ digits

/-- Counts lines, words and bytes. -/
def count (args : List Text) : Sh Unit := do
  let (opts, operands) := options args
  let letters := opts.flatMap List.tail
  let wants (c : Char) : Bool := letters.isEmpty || letters.contains c
  let (t, found) ← contents operands
  let counts := (if wants 'l' then [t.count '\n'] else []) ++
    (if wants 'w' then [wordCount false t] else []) ++
    (if wants 'c' || letters.contains 'm' then [t.length] else [])
  let shown := match counts with
    | [n] => Text.ofNat n
    | counts => Text.joinWith [' '] (counts.map (if operands.isEmpty then column else Text.ofNat))
  let name := if operands.isEmpty then [] else ' ' :: Text.joinWith [' '] operands
  print (shown ++ name ++ ['\n']) (if found then 0 else 1)

/-- The characters of a written set: escapes, ranges and classes. -/
def setOf : Nat → Text → Text
  | 0, _ => []
  | _, [] => []
  | n + 1, '[' :: ':' :: rest =>
    let name := rest.takeWhile Char.isAlpha
    match classOf? name with
    | some isIn => ((List.range 256).map Char.ofNat).filter isIn ++ setOf n (rest.drop (name.length + 2))
    | none => '[' :: setOf n (':' :: rest)
  | n + 1, '\\' :: rest =>
    let (c, rest) := escapeOf rest
    c :: setOf n rest
  | n + 1, a :: '-' :: b :: rest =>
    ((List.range (b.toNat + 1)).drop a.toNat).map Char.ofNat ++ setOf n rest
  | n + 1, c :: rest => c :: setOf n rest
where
  /-- The character of an escape and what follows it. -/
  escapeOf : Text → Char × Text
    | [] => ('\\', [])
    | c :: rest =>
      let digits := ((c :: rest).take 3).takeWhile (Number.isDigitIn 8)
      if digits.isEmpty then
        ((List.lookup c [('n', '\n'), ('t', '\t'), ('r', '\r'), ('f', '\x0c'), ('v', '\x0b'),
          ('a', '\x07'), ('b', '\x08')]).getD c, rest)
      else (Char.ofNat (Number.ofDigits 8 digits % 256), (c :: rest).drop digits.length)

/-- Replaces, deletes or squeezes characters of the input. -/
def replace (args : List Text) : Sh Unit := do
  let (opts, operands) := options args
  let letters := opts.flatMap List.tail
  let written := operands.map fun t => setOf (t.length + 1) t
  let first := written.headD []
  let others := letters.contains 'c' || letters.contains 'C'
  let isIn (c : Char) : Bool := first.contains c != others
  let t ← readAll 0 fun _ => return
  let second := (written.drop 1).headD []
  let swap (c : Char) : Char :=
    if !isIn c || second.isEmpty then c
    else if others then second.getLastD c
    else second.getD ((first.idxOf c)) (second.getLastD c)
  let changed := if letters.contains 'd' then t.filter fun c => !isIn c else t.map swap
  let squeezed (c : Char) : Bool := if second.isEmpty then isIn c else second.contains c
  let out := if letters.contains 's' then
      (changed.foldl (fun (out : Text) c =>
        if out.head? == some c && squeezed c then out else c :: out) []).reverse
    else changed
  print out 0

/-- The numbers from one to another. -/
def numbers : Nat → (first step last : Int) → Text
  | 0, _, _, _ => []
  | n + 1, first, step, last =>
    if step == 0 || (0 < step && last < first) || (step < 0 && first < last) then []
    else Number.write first ++ '\n' :: numbers n (first + step) step last

/-- Prints numbers. -/
def sequence (args : List Text) : Sh Unit := do
  match args.mapM Number.decimal? with
  | some [last] => print (numbers (last.natAbs + 1) 1 1 last) 0
  | some [first, last] => print (numbers ((last - first).natAbs + 1) first 1 last) 0
  | some [first, step, last] => print (numbers ((last - first).natAbs + 1) first step last) 0
  | _ => setStatus 1

/-- Sorts lines. -/
def sort (args : List Text) : Sh Unit := do
  let (opts, operands) := options args
  let letters := opts.flatMap List.tail
  let key (t : Text) : Int := ((Number.signed? (Number.digitsIn? 10) t).map Prod.fst).getD 0
  let before (a b : Text) : Bool :=
    if letters.contains 'n' && key a != key b then key a < key b else !decide (b < a)
  transform operands fun t =>
    let ls := ((linesOf t).map withoutEnd).mergeSort before
    let ls := if letters.contains 'u' then ls.eraseDups else ls
    let ls := if letters.contains 'r' then ls.reverse else ls
    ls.flatMap withEnd

/-- The places that a list of numbers and ranges names. -/
def isListed (list : Text) (k : Nat) : Bool :=
  (list.splitOn ',').any fun part =>
    match part.splitOn '-' with
    | [a] => Number.ofDigits 10 a == k
    | [a, b] =>
      (a.isEmpty || Number.ofDigits 10 a ≤ k) && (b.isEmpty || k ≤ Number.ofDigits 10 b)
    | _ => false

/-- The items at listed places, counted from one. -/
def listed {α : Type} (list : Text) (items : List α) : List α :=
  (items.zipIdx 1).filterMap fun (a, k) => if isListed list k then some a else none

/-- The value of an option, in its argument or in the next one. -/
def optionValue (letter : Char) : List Text → Option Text
  | [] => none
  | ['-', c] :: value :: args => if c == letter then some value else optionValue letter args
  | ('-' :: c :: value) :: args => if c == letter then some value else optionValue letter args
  | _ :: args => optionValue letter args

/-- Prints parts of lines. -/
def cut (args : List Text) : Sh Unit := do
  let delimiter := ((optionValue 'd' args).bind List.head?).getD '\t'
  let line (t : Text) : Text :=
    match optionValue 'f' args, optionValue 'c' args <|> optionValue 'b' args with
    | some list, _ =>
      if t.contains delimiter then Text.joinWith [delimiter] (listed list (t.splitOn delimiter))
      else t
    | none, some list => listed list t
    | none, none => t
  let t ← readAll 0 fun _ => return
  print ((linesOf t).flatMap fun l => line (withoutEnd l) ++ ['\n']) 0

/-- Prints the names in directories, and the names of files. -/
def names (args : List Text) : Sh Unit := do
  let (_, operands) := options args
  let m ← get
  let listing (path : Text) : Option (List Text) :=
    match m.place path with
    | .ok (.found _ .directory) => some ((m.names path).filter fun n => n.head? != some '.')
    | .ok (.found _ _) => some [path]
    | _ => none
  let listings := (if operands.isEmpty then [['.']] else operands).map listing
  print ((listings.filterMap id).flatten.flatMap fun n => n ++ ['\n'])
    (if listings.all Option.isSome then 0 else 2)

/-- Removes files. -/
def remove (args : List Text) : Sh Unit := do
  let (opts, operands) := options args
  let m ← get
  let ways := operands.map fun path => match m.place path with
    | .ok (.found (.inner way) (.file _)) => some way
    | _ => none
  modify fun m =>
    let files := m.world.files.files.filter fun f => !ways.contains (some f.1)
    { m with world := { m.world with files := ⟨files⟩ } }
  setStatus (if opts.contains ['-', 'f'] || ways.all Option.isSome then 0 else 1)

/-- The last part of a path. -/
def baseName (args : List Text) : Sh Unit := do
  match args with
  | [] => setStatus 1
  | path :: rest =>
    let name := match (pathParts path).filter (fun p => !p.isEmpty) with
      | [] => if path.isEmpty then [] else ['/']
      | ps => ps.getLastD []
    let ending := rest.headD []
    let short := if ending.isSuffixOf name && ending.length < name.length
      then name.take (name.length - ending.length) else name
    print (short ++ ['\n']) 0

/-- A path without its last part. -/
def directoryName (args : List Text) : Sh Unit := do
  match args with
  | [] => setStatus 1
  | path :: _ =>
    let trimmed := (path.reverse.dropWhile (· == '/')).reverse
    let before := (trimmed.reverse.dropWhile (· != '/')).dropWhile (· == '/')
    let name := if !before.isEmpty then before.reverse
      else if path.head? == some '/' then ['/'] else ['.']
    print (name ++ ['\n']) 0

/-- The utility with a name. -/
def find? (name : Text) : Option (List Text → Sh Unit) :=
  match String.ofList name with
  | "basename" => some baseName
  | "cat" => some cat
  | "cut" => some cut
  | "dirname" => some directoryName
  | "head" => some head
  | "ls" => some names
  | "rev" => some fun args =>
    transform args fun t => (linesOf t).flatMap fun l =>
      (withoutEnd l).reverse ++ (if l.getLast? == some '\n' then ['\n'] else [])
  | "rm" => some remove
  | "seq" => some sequence
  | "sleep" => some fun _ => setStatus 0
  | "sort" => some sort
  | "tail" => some tail
  | "tr" => some replace
  | "wc" => some count
  | _ => none

end IndentTex.Simulation.Utility
