import IndentTex.Registry

/-!
# Default definitions

The commands and environments that every translator knows unless it is told otherwise.
-/

namespace IndentTex.Registry

/-- The value of the slot with the given number, if it has one. -/
def value (values : List (Option Text)) (i : Nat) : Option Text := (values[i]?).join

/-- Declares the class of the document. -/
def docclass : Command where
  name := "docclass".toList
  params := [⟨true, false⟩, ⟨false, false⟩]
  generate values := .ok <| Markup.command "documentclass".toList
    [(value values 0).map Argument.bracketed, (value values 1).map Argument.required]

/-- Literal text in a line. -/
def verb : Command where
  name := "verb".toList
  params := [⟨false, true⟩]
  generate values := .ok <| Markup.command "verb".toList [(value values 0).map Argument.required]

/-- A colon that opens no environment. -/
def colon : Command where
  name := "colon".toList
  params := []
  generate _ := .ok [':']

/-- Literal lines. -/
def verbatim : Environment where
  name := "verbatim".toList
  params := []
  raw := true
  generate _ body _ := .text (Markup.environment "verbatim".toList [] body)

/-- A text without the newline at its end, if there is one. -/
def dropFinalNewline (t : Text) : Text := if t.getLast? = some '\n' then t.dropLast else t

/-- The output of code. The optional argument names the interpreter, and one newline at the end of
the output is dropped. -/
def pysplice : Environment where
  name := "pysplice".toList
  params := [⟨true, true⟩]
  raw := true
  generate _ body values := .executing ((value values 0).map Text.trim) body dropFinalNewline

/-- The default definitions, entered one after the other without any check (`default_registry`). -/
def defaults : Registry :=
  [.command docclass, .command verb, .command colon, .environment verbatim,
    .environment pysplice].foldl insert empty

end IndentTex.Registry
