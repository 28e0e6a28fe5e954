import IndentTex.Definition
import IndentTex.Table

/-!
# The registry

The definitions that a translator knows: a table of commands and a table of environments. A name can
be given a new definition of the same sort, but not one of the other sort; whether it has one is looked
up in the other table each time.
-/

namespace IndentTex

/-- Why a definition is refused. -/
inductive RegistryError where
  /-- The name does not fit the sort of the definition. -/
  | invalidName (name : Text)
  /-- The name has a definition of the other sort, which is said in words. -/
  | conflict (name existing : Text)
  /-- The shorthand for the parameters has a character that is no flag. -/
  | invalidParams (shorthand : Text) (flag : Char)

/-- What the user is told about a refused definition. -/
def RegistryError.message : RegistryError → Text
  | invalidName name => "`".toList ++ name ++ "` is not a valid control sequence name".toList
  | conflict name existing =>
    "`".toList ++ name ++ "` is already registered as ".toList ++ existing
  | invalidParams shorthand flag =>
    "invalid parameter flag `".toList ++ flag :: "` in `".toList ++ shorthand ++ "`".toList

/-- The slots that a shorthand stands for. -/
def Params.ofShorthand (shorthand : Text) : Except RegistryError Params :=
  match Params.parse shorthand with
  | .ok params => .ok params
  | .error flag => .error (.invalidParams shorthand flag)

/-- The commands and the environments that are defined, each by the name that it was entered with. -/
structure Registry where
  commands : Table Command
  environments : Table Environment

namespace Registry

/-- The registry without definitions. -/
def empty : Registry := ⟨.empty, .empty⟩

/-- The command with the given name (`command`). -/
def command? (r : Registry) (name : Text) : Option Command := r.commands.find? name

/-- The environment with the given name (`environment`). -/
def environment? (r : Registry) (name : Text) : Option Environment := r.environments.find? name

/-- What a name stands for: its command, or else its environment (`classify`). A name with neither
is left to the typesetter. -/
def find? (r : Registry) (name : Text) : Option Definition :=
  ((r.command? name).map .command).or ((r.environment? name).map .environment)

/-- The names of the commands and of the environments, sorted (`names`). -/
def names (r : Registry) : List Text :=
  (r.commands.keys ++ r.environments.keys).mergeSort fun a b => !decide (b < a)

/-- Enters a definition under its name, without any check. One of the same sort that had the name is
lost. -/
def insert (r : Registry) : Definition → Registry
  | .command c => { r with commands := r.commands.insert c.name c }
  | .environment e => { r with environments := r.environments.insert e.name e }

/-- Whether the name of a definition has a definition of the other sort. -/
def conflicts (r : Registry) : Definition → Bool
  | .command c => r.environments.contains c.name
  | .environment e => r.commands.contains e.name

/-- Enters a definition if its name fits and has no definition of the other sort
(`register_command`, `register_environment`). -/
def register (d : Definition) : EStateM RegistryError Registry Unit := do
  if !d.hasValidName then
    throw (.invalidName d.name)
  else if (← get).conflicts d then
    throw (.conflict d.name d.otherSort)
  else
    modify (·.insert d)

end Registry

end IndentTex
