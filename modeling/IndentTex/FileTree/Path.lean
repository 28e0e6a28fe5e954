import IndentTex.Text.Basic

/-!
# Paths

Paths as texts with separators.
-/

namespace IndentTex

/-- The parts of a path between its separators. -/
def pathParts : Text → List Text
  | [] => [[]]
  | c :: cs =>
    if c = '/' then [] :: pathParts cs
    else match pathParts cs with
      | [] => [[c]]
      | p :: ps => (c :: p) :: ps

/-- Whether a part of a path stays where it is. -/
def isIdlePart (part : Text) : Bool := part.isEmpty || part = ['.']

/-- The parts of a path that lead somewhere. -/
def pathWay (path : Text) : List Text := (pathParts path).filter fun p => !isIdlePart p

/-- The name of the file that a path leads to. A path that ends with the parent directory names no
file. -/
def fileName? (path : Text) : Option Text :=
  match (pathWay path).getLast? with
  | some name => if name = ['.', '.'] then none else some name
  | none => none

/-- A path up to the end of the file name in it: without separators and idle parts at its end. -/
def trimPath (path : Text) : Text :=
  let parts := (pathParts path).reverse.dropWhile isIdlePart
  Text.joinWith ['/'] parts.reverse

end IndentTex
