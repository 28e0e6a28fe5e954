import IndentTex.FileTree.Path

/-!
# Names of output files

The default name of an output file: the stem of the source file with the extension for output.
-/

namespace IndentTex.CommandLine

/-- A file name up to its last point. A point at the beginning does not count. -/
def stem (name : Text) : Text :=
  let reversed := name.reverse.dropWhile (· != '.')
  match reversed.tail.reverse with
  | [] => name
  | before => before

/-- A path of one part with what follows the last point of its file name replaced. A path that
names no file stays as it is. -/
def withExtension (path extension : Text) : Text :=
  match fileName? path with
  | none => path
  | some name => if extension.isEmpty then stem name else stem name ++ '.' :: extension

/-- Where the output for a source file goes by default: in the working directory, under the stem of
the source file with the given extension (`default_output_path`). An extension with a separator
makes no name. -/
def defaultOutput? (source extension : Text) : Option Text :=
  if extension.contains '/' then none
  else some (withExtension ((fileName? source).elim "out".toList stem) extension)

end IndentTex.CommandLine
