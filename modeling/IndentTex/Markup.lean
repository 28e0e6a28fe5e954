import IndentTex.Argument

/-!
# Markup

The commands and environments that a translator writes.
-/

namespace IndentTex.Markup

/-- A control sequence. -/
def control (name : Text) : Text := '\\' :: name

/-- A control sequence with arguments; absent ones leave nothing (`latex_cmd`). -/
def command (name : Text) (args : List (Option Argument)) : Text :=
  control name ++ Argument.writeAll args

/-- An environment with the text of its arguments and its body (`latex_env`). -/
def environment (name args body : Text) : Text :=
  "\\begin\x7b".toList ++ name ++ ['\x7d'] ++ args ++ body ++ "\\end\x7b".toList ++ name ++ ['\x7d']

end IndentTex.Markup
