import IndentTex.Json

/-!
# Messages between the translator and an interpreter

A request is one line with the code to execute, and a response is one line with its output and the
error that it ended with, if any. How the two are written is a `Format`, of which nothing more is
known than that a request is one line. `Format.json` is the one that the interpreters are started
with.
-/

namespace IndentTex.Interpreter

/-- What an interpreter answers (`Response`). -/
structure Response where
  output : Text
  error : Option Text
  deriving DecidableEq, Repr

namespace Response

/-- The error of a response: a string, or null for none. -/
def error? : Json → Option (Option Text)
  | .null => some none
  | .string (some t) => some (some t)
  | _ => none

/-- The response that the members of an object make up. The output must be there once, the error
at most once, and the values of other members do not matter. -/
def ofMembers? (members : List (Option Text × Json)) : Option Response :=
  if members.any fun m => m.1.isNone then none
  else match members.filter (·.1 = some "output".toList),
      members.filter (·.1 = some "error".toList) with
    | [(_, .string (some output))], [] => some ⟨output, none⟩
    | [(_, .string (some output))], [(_, e)] => (error? e).map (⟨output, ·⟩)
    | _, _ => none

/-- The response that a value stands for: an object, or a list of the output and the error. -/
def ofJson? : Json → Option Response
  | .object members => ofMembers? members
  | .array [.string (some output), e] => (error? e).map (⟨output, ·⟩)
  | _ => none

/-- The response on a line. -/
def parse? (line : Text) : Option Response := (Json.parse? line).bind ofJson?

end Response

/-- How requests are written and responses are read. -/
structure Format where
  /-- The request for a body, without its newline. -/
  write : Text → Text
  /-- A request is one line. -/
  newline_notMem_write : ∀ body, '\n' ∉ write body
  /-- The response on a line, or why it cannot be read. -/
  read : Text → Except Text Response

namespace Format

/-- The request line for a body. -/
def request (f : Format) (body : Text) : Text := f.write body ++ ['\n']

/-- A request that is an object. -/
def writeObject (body : Text) : Text :=
  "\x7b\"code\":".toList ++ Json.writeString body ++ ['\x7d']

/-- A request that is an object is one line, since its strings hold no newlines. -/
theorem newline_notMem_writeObject (body : Text) : '\n' ∉ writeObject body := by
  have hopen : '\n' ∉ "\x7b\"code\":".toList := by simp
  intro h
  rcases List.mem_append.1 h with h | h
  · rcases List.mem_append.1 h with h | h
    · exact hopen h
    · exact Json.newline_notMem_writeString body h
  · exact absurd h (by decide)

/-- Requests and responses that are objects. -/
def json : Format where
  write := writeObject
  newline_notMem_write := newline_notMem_writeObject
  read line := (Response.parse? line).elim (.error "the response cannot be read".toList) .ok

end Format

end IndentTex.Interpreter
