import IndentTex.Error

/-!
# Indentation

Indentation is measured in units. The first indentation that is not empty becomes the unit, and
from then on every indentation must be a repetition of it.
-/

namespace IndentTex

/-- The indentation unit, once there is one (`IndentationState`). -/
structure Indentation where
  unit : Option Text
  deriving DecidableEq, Repr

namespace Indentation

/-- No unit yet. -/
def unset : Indentation := ⟨none⟩

/-- A given unit (`with_unit`). -/
def ofUnit (unit : Text) : Indentation := ⟨some unit⟩

/-- The unit, which is empty as long as there is none. -/
def unitText (i : Indentation) : Text := i.unit.getD []

/-- The indentation of a level; it is empty as long as there is no unit (`prefix`). -/
def margin (i : Indentation) (level : Nat) : Text := i.unitText.times level

/-- Whether an indentation is all spaces or all tabs (`validate`). -/
def isUniform (indent : Text) : Bool := indent.all (· == ' ') || indent.all (· == '\t')

/-- The level of an indentation (`level_of`). The first indentation that is not empty becomes the
unit. -/
def levelOf (indent : Text) : EStateM Cause Indentation Nat := do
  if ¬ isUniform indent then
    throw .mixedIndentation
  else if indent = [] then
    return 0
  else
    let unit := (← get).unit.getD indent
    set (ofUnit unit)
    if indent.head? ≠ unit.head? then
      throw (.foreignIndentation unit)
    else if indent.byteSize % unit.byteSize ≠ 0 then
      throw (.unevenIndentation unit)
    else
      return indent.byteSize / unit.byteSize

end Indentation

end IndentTex
