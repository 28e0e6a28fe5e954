import IndentTex.Text.Basic

/-!
# Parameters

The argument slots of a command or environment, and their shorthand: one flag for each slot.
-/

namespace IndentTex

/-- An argument slot (`Param`). -/
structure Slot where
  /-- Optional arguments stand in brackets and may be left out, required ones stand in braces. -/
  optional : Bool
  /-- Raw arguments are read literally; in others, control sequences are expanded. -/
  raw : Bool
  deriving DecidableEq, Repr

/-- The slots of a command or environment, in order (`ParamSpec`). -/
abbrev Params := List Slot

namespace Slot

/-- The flag of a slot. -/
def flag : Slot → Char
  | ⟨false, false⟩ => '!'
  | ⟨true, false⟩ => '?'
  | ⟨false, true⟩ => 'x'
  | ⟨true, true⟩ => 'o'

/-- The slot that a flag stands for. -/
def ofFlag? (c : Char) : Option Slot :=
  if c = '!' then some ⟨false, false⟩
  else if c = '?' then some ⟨true, false⟩
  else if c = 'x' then some ⟨false, true⟩
  else if c = 'o' then some ⟨true, true⟩
  else none

end Slot

namespace Params

/-- The shorthand of a list of slots. -/
def shorthand (params : Params) : Text := params.map Slot.flag

/-- The slots that a shorthand stands for, or its first character that is no flag (`from_str`). -/
def parse : Text → Except Char Params
  | [] => .ok []
  | c :: cs =>
    match Slot.ofFlag? c with
    | none => .error c
    | some slot => (parse cs).map (slot :: ·)

end Params

end IndentTex
