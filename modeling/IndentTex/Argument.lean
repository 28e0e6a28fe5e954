import IndentTex.Error
import IndentTex.Params

/-!
# Arguments

Arguments as they are written, in braces or in brackets, and how they are matched with the slots
that a command or environment declares.
-/

namespace IndentTex

/-- A written argument (`Arg`). -/
structure Argument where
  content : Text
  /-- Whether it stands in brackets. -/
  optional : Bool
  deriving DecidableEq, Repr

namespace Argument

/-- An argument in braces. -/
def required (content : Text) : Argument := ⟨content, false⟩

/-- An argument in brackets. -/
def bracketed (content : Text) : Argument := ⟨content, true⟩

/-- An argument with its delimiters. -/
def written (a : Argument) : Text :=
  if a.optional then '[' :: a.content ++ [']'] else '\x7b' :: a.content ++ ['\x7d']

/-- Arguments with their delimiters, one after the other; absent ones leave nothing (`unresolve`).
-/
def writeAll (args : List (Option Argument)) : Text :=
  args.flatMap fun a => (a.map written).getD []

/-- Matches arguments with slots from left to right: an optional slot takes a bracket argument if
it is next and stays empty otherwise, a required slot takes a brace argument. -/
def fill (name : Text) : Params → List Argument → Except Cause (List (Option Text))
  | [], [] => .ok []
  | [], _ :: _ => .error (.tooManyArguments name)
  | slot :: slots, [] =>
    if slot.optional then (fill name slots []).map (none :: ·)
    else .error (.missingArgument name)
  | slot :: slots, a :: args =>
    if slot.optional = a.optional then (fill name slots args).map (some a.content :: ·)
    else if slot.optional then (fill name slots (a :: args)).map (none :: ·)
    else .error (.superfluousOptional name)

/-- The value of every slot (`resolve`). More arguments than slots are refused before any is
matched. -/
def resolve (name : Text) (params : Params) (args : List Argument) :
    Except Cause (List (Option Text)) :=
  if params.length < args.length then .error (.tooManyArguments name) else fill name params args

end Argument

end IndentTex
