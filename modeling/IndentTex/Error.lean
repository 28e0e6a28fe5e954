import IndentTex.Execution
import IndentTex.Location
import IndentTex.Text.Quoted

/-!
# Errors

The first violation ends a run. An error is a cause, which fixes its kind and its message,
together with the place where it was found. `Error.report` shows it with the line of the source.
-/

namespace IndentTex

/-- The kinds of error. -/
inductive ErrorKind where
  | unexpectedEof
  | missingArgument
  | invalidIndentation
  | unexpectedIndentation
  | invalidSyntax
  | internalError
  | dependencyError
  deriving DecidableEq, Repr

/-- The word for a kind of error in reports (`as_str`). -/
def ErrorKind.code : ErrorKind → Text
  | unexpectedEof => "unexpected-eof".toList
  | missingArgument => "missing-argument".toList
  | invalidIndentation => "invalid-indentation".toList
  | unexpectedIndentation => "unexpected-indentation".toList
  | invalidSyntax => "invalid-syntax".toList
  | internalError => "internal-error".toList
  | dependencyError => "dependency-error".toList

/-- What went wrong. -/
inductive Cause where
  /-- A backslash ends the source. -/
  | loneBackslash
  /-- A group is not closed. -/
  | unclosedGroup (close : Char)
  /-- The braces of a raw argument are not closed. -/
  | unclosedArgument (name : Text)
  /-- A closing brace closes nothing. -/
  | unexpectedBrace
  /-- The source ends where a required argument must stand. -/
  | argumentAtEnd (name : Text)
  /-- Something else stands where a required argument must stand. -/
  | missingArgument (name : Text)
  /-- More arguments are given than there are slots for them. -/
  | tooManyArguments (name : Text)
  /-- A bracket argument stands where a required argument must stand. -/
  | superfluousOptional (name : Text)
  /-- Groups, arguments and environments are nested deeper than the limit. -/
  | nestingTooDeep
  /-- An indentation is neither all spaces nor all tabs. -/
  | mixedIndentation
  /-- An indentation does not use the character of the indentation unit. -/
  | foreignIndentation (unit : Text)
  /-- An indentation is not a multiple of the indentation unit. -/
  | unevenIndentation (unit : Text)
  /-- A line is indented although no environment was opened. -/
  | strayIndentation
  /-- A line of the preamble is indented. -/
  | indentedPreamble
  /-- The first line of the document is indented. -/
  | indentedDocument
  /-- The source ends before the colon of an environment. -/
  | colonAtEnd
  /-- Something else stands where the colon of an environment must stand. -/
  | missingColon
  /-- An environment has no body. -/
  | missingBody
  /-- The body of an environment is not one level deeper. -/
  | missingIndentation
  /-- The preamble holds text. -/
  | textInPreamble
  /-- A document delimiter is followed by text on its line. -/
  | textAfterDelimiter
  /-- The source ends before its document. -/
  | missingDocument
  /-- A case that cannot arise. -/
  | internal
  /-- A code body gave no output. -/
  | failed (failure : Failure)
  /-- An error raised by a definition outside this library. -/
  | custom (kind : ErrorKind) (message : Text)
  deriving DecidableEq, Repr

namespace Cause

/-- The kind of error that a cause leads to. -/
def kind : Cause → ErrorKind
  | loneBackslash => .unexpectedEof
  | unclosedGroup _ => .unexpectedEof
  | unclosedArgument _ => .unexpectedEof
  | unexpectedBrace => .invalidSyntax
  | argumentAtEnd _ => .unexpectedEof
  | missingArgument _ => .missingArgument
  | tooManyArguments _ => .invalidSyntax
  | superfluousOptional _ => .invalidSyntax
  | nestingTooDeep => .invalidSyntax
  | mixedIndentation => .invalidIndentation
  | foreignIndentation _ => .invalidIndentation
  | unevenIndentation _ => .invalidIndentation
  | strayIndentation => .unexpectedIndentation
  | indentedPreamble => .unexpectedIndentation
  | indentedDocument => .unexpectedIndentation
  | colonAtEnd => .unexpectedEof
  | missingColon => .invalidSyntax
  | missingBody => .unexpectedEof
  | missingIndentation => .invalidSyntax
  | textInPreamble => .invalidSyntax
  | textAfterDelimiter => .invalidSyntax
  | missingDocument => .unexpectedEof
  | internal => .internalError
  | failed _ => .dependencyError
  | custom kind _ => kind

/-- What the user is told about a cause. -/
def message : Cause → Text
  | loneBackslash => "Unescaped backslashes must be followed by at least one character".toList
  | unclosedGroup close => "Missing closing `".toList ++ close :: "`".toList
  | unclosedArgument name => "Missing closing `\x7d` for `".toList ++ name ++ "`".toList
  | unexpectedBrace => "Unexpected `\x7d`".toList
  | argumentAtEnd name => "Missing required argument for `".toList ++ name ++ "`".toList
  | missingArgument name => "Missing required argument for `".toList ++ name ++ "`".toList
  | tooManyArguments name =>
    "Too many arguments while resolving arguments for `".toList ++ name ++ "`".toList
  | superfluousOptional name =>
    "Superfluous optional argument provided to `".toList ++ name ++ "`".toList
  | nestingTooDeep => "Nesting too deep".toList
  | mixedIndentation => "Indentation must be all spaces or all tabs".toList
  | foreignIndentation unit =>
    "Indentation must use the same character as the base indentation ".toList ++ unit.quote
  | unevenIndentation unit =>
    "Indentation must be in multiples of the base indentation ".toList ++ unit.quote
  | strayIndentation => "Indentation should only follow environments".toList
  | indentedPreamble => "The preamble must not be indented".toList
  | indentedDocument => "The document as a whole must not be indented".toList
  | colonAtEnd => "Environments must be followed by colons".toList
  | missingColon => "Environments must be followed by colons".toList
  | missingBody => "Environment missing body".toList
  | missingIndentation => "Missing indentation after environment".toList
  | textInPreamble => "Only control sequences may appear in the preamble".toList
  | textAfterDelimiter => "Missing newline after document delimiter".toList
  | missingDocument => "Missing document body".toList
  | internal => "Something went wrong".toList
  | failed failure => failure.message
  | custom _ message => message

end Cause

/-- A cause and, once it is known, the place where it was found (`TranslationError`). -/
structure Error where
  cause : Cause
  location : Option Location
  deriving DecidableEq, Repr

namespace Error

/-- An error whose place is not known yet. -/
def ofCause (cause : Cause) : Error := ⟨cause, none⟩

/-- The error, placed at `location` unless it has a place already (`or_at`). -/
def orAt (e : Error) (location : Location) : Error :=
  match e.location with
  | some _ => e
  | none => { e with location := some location }

/-- The kind of an error. -/
def kind (e : Error) : ErrorKind := e.cause.kind

/-- The message of an error. -/
def message (e : Error) : Text := e.cause.message

/-- The line with the given number, from one, as a report shows it: a carriage return before the
newline is left out. There is no text beyond the last line. -/
def shownLine (source : Text) : Nat → Text
  | 0 => []
  | n + 1 =>
    match source.splitLines.drop n with
    | [] => []
    | [last] => last
    | l :: _ :: _ => if l.getLast? = some '\r' then l.dropLast else l

/-- An error as the user sees it: its kind and message and, if its place is known, the line of the
source with a caret under the column (`report`). -/
def report (e : Error) (source : Text) : Text :=
  let head := "error[".toList ++ e.kind.code ++ "]: ".toList ++ e.message
  match e.location with
  | none => head
  | some l =>
    let number := Text.ofNat l.line
    let pad := List.replicate number.length ' '
    head
      ++ '\n' :: pad ++ "--> ".toList ++ l.describe
      ++ '\n' :: pad ++ " |".toList
      ++ '\n' :: number ++ " | ".toList ++ shownLine source l.line
      ++ '\n' :: pad ++ " | ".toList ++ List.replicate (l.column - 1) ' ' ++ ['^']

end Error

end IndentTex
