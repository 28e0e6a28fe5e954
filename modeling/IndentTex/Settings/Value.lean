import IndentTex.Decimal.Shortest

/-!
# Setting values

The values that settings files hold, and how a value of one form is read as another.
-/

namespace IndentTex.Settings

/-- A value in a settings file. -/
inductive Value where
  /-- No value: the filling of a list that was extended. -/
  | nothing
  | boolean (b : Bool)
  | integer (n : Int)
  | float (x : Float)
  | string (t : Text)
  | list (items : List Value)
  | table (entries : List (Text × Value))

/-- Entries of a table. -/
abbrev Entries := List (Text × Value)

namespace Value

/-- A value read as a text. Numbers and booleans are written out. -/
def asText? : Value → Option Text
  | string t => some t
  | boolean b => some (if b then "true" else "false").toList
  | integer n => some (if n < 0 then '-' :: Text.ofNat n.natAbs else Text.ofNat n.natAbs)
  | float x => some (Decimal.write x)
  | _ => none

/-- Words for true, in lower case. -/
def trueWords : List Text := ["1", "true", "on", "yes"].map String.toList

/-- Words for false, in lower case. -/
def falseWords : List Text := ["0", "false", "off", "no"].map String.toList

/-- A value read as a boolean. A number is true unless it is zero, and the words for booleans may be
in any case. -/
def asBoolean? : Value → Option Bool
  | boolean b => some b
  | integer n => some (n != 0)
  | float x => some (x != 0)
  | string t =>
    if trueWords.contains (t.map Char.toLower) then some true
    else if falseWords.contains (t.map Char.toLower) then some false
    else none
  | _ => none

/-- A value read as a list of texts. -/
def asTexts? : Value → Option (List Text)
  | list items => items.mapM asText?
  | _ => none

/-- The value of a field of a group of settings. A group is a table, or a list of the values of its
fields in order. -/
def field? (fields : List Text) (name : Text) : Value → Option Value
  | table entries => entries.lookup name
  | list items => if items.length < fields.length then none else items[fields.idxOf name]?
  | _ => none

end Value

end IndentTex.Settings
