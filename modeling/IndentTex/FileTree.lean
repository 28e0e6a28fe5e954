import IndentTex.FileTree.Path

/-!
# File trees

The files that a program finds: those below its working directory, which it may change, and a few
directories, programs and devices that are the same on every system. Reading and writing a path give
what is there or say why not.
-/

namespace IndentTex

/-- The content of a file. -/
abbrev Content := List UInt8

/-- The text that the content of a file stands for. -/
def Content.text? (c : Content) : Option Text := (String.fromUTF8? ⟨c.toArray⟩).map String.toList

/-- The bytes that a text is stored as. -/
def Content.ofText (t : Text) : Content := t.flatMap String.utf8EncodeChar

/-- Why a path cannot be read, written or started. -/
inductive PathFault where
  | notFound
  | noDevice
  | noAccess
  | notDirectory
  | isDirectory
  | noSpace
  | nameTooLong
  | nulByte
  | notText
  deriving DecidableEq, Repr

/-- What the system says about a fault. -/
def PathFault.message : PathFault → Text
  | notFound => "No such file or directory (os error 2)".toList
  | noDevice => "No such device or address (os error 6)".toList
  | noAccess => "Permission denied (os error 13)".toList
  | notDirectory => "Not a directory (os error 20)".toList
  | isDirectory => "Is a directory (os error 21)".toList
  | noSpace => "No space left on device (os error 28)".toList
  | nameTooLong => "File name too long (os error 36)".toList
  | nulByte => "file name contained an unexpected NUL byte".toList
  | notText => "stream did not contain valid UTF-8".toList

/-- The devices, by what becomes of bytes that are written to them. All of them are empty. -/
inductive Device where
  /-- Bytes are dropped. -/
  | null
  /-- There is never room. -/
  | full
  /-- Bytes are printed. -/
  | output
  /-- There is no terminal behind it. -/
  | terminal
  deriving DecidableEq, Repr

/-- A place in the file tree. -/
inductive Spot where
  /-- Below the working directory. -/
  | inner (way : List Text)
  /-- Below the root. -/
  | outer (way : List Text)
  deriving DecidableEq, Repr

/-- What is at a place. -/
inductive Node where
  | directory
  | file (content : Content)
  | device (d : Device)
  /-- A file that can be started, and that holds no text. -/
  | program
  deriving DecidableEq, Repr

namespace Spot

/-- The directory that holds a place. The working directory is one for temporary files, and the root
holds itself. -/
def parent : Spot → Spot
  | inner [] => outer ["tmp".toList]
  | inner way => inner way.dropLast
  | outer way => outer way.dropLast

/-- The names at the root that stand for directories below `usr`. -/
def links : List Text := ["bin", "sbin", "lib", "lib64"].map String.toList

/-- The place of a name in a directory. -/
def child (name : Text) : Spot → Spot
  | inner way => inner (way ++ [name])
  | outer way =>
    if way.isEmpty && links.contains name then outer ["usr".toList, name]
    else outer (way ++ [name])

end Spot

namespace Node

/-- The directories, programs and devices of every system. -/
def everywhere : List (String × Node) :=
  (["", "boot", "dev", "dev/fd", "dev/pts", "dev/shm", "etc", "home", "media", "mnt", "opt", "proc",
    "proc/self", "root", "run", "srv", "sys", "tmp", "usr", "usr/bin", "usr/include", "usr/lib",
    "usr/lib64", "usr/local", "usr/local/bin", "usr/sbin", "usr/share", "usr/src", "var", "var/lib",
    "var/log", "var/tmp"].map (·, directory)) ++
  (["usr/bin/cat", "usr/bin/dash", "usr/bin/echo", "usr/bin/false", "usr/bin/sh",
    "usr/bin/true"].map (·, program)) ++
  [("dev/full", device .full), ("dev/null", device .null), ("dev/stderr", device .null),
    ("dev/stdin", device .null), ("dev/stdout", device .output), ("dev/tty", device .terminal),
    ("dev/zero", device .null)]

/-- What is at a way from the root. -/
def outer? (way : List Text) : Option Node :=
  everywhere.lookup (String.ofList (Text.joinWith ['/'] way))

end Node

/-- Files by their way from the working directory. The directories are those on the way to a
file. -/
structure FileTree where
  files : List (List Text × Content)

/-- What a path leads to: something that is there, or a place for something new. -/
inductive Place where
  | found (spot : Spot) (node : Node)
  | vacant (spot : Spot)
  deriving DecidableEq, Repr

namespace FileTree

/-- The tree with a file in it, which replaces a file at the same place. -/
def put (t : FileTree) (way : List Text) (content : Content) : FileTree :=
  if t.files.any (·.1 = way) then
    ⟨t.files.map fun f => if f.1 = way then (way, content) else f⟩
  else ⟨t.files ++ [(way, content)]⟩

/-- Whether a way from the working directory leads to a directory. -/
def hasDirectory (t : FileTree) (way : List Text) : Bool :=
  way.isEmpty || t.files.any fun f => way.isPrefixOf f.1 && way.length < f.1.length

/-- What is at a place. -/
def node? (t : FileTree) : Spot → Option Node
  | .inner way =>
    match t.files.lookup way with
    | some content => some (.file content)
    | none => if t.hasDirectory way then some .directory else none
  | .outer way => Node.outer? way

/-- The number of bytes that the name of a file may have. -/
def maxName : Nat := 255

/-- The number of bytes that a path may have. -/
def maxPath : Nat := 4095

/-- Follows the parts of a path from a place. Only from a directory is there a way on, and only the
last part may lead to nothing. -/
def follow (t : FileTree) : Spot → Node → List Text → Except PathFault Place
  | spot, node, [] => .ok (.found spot node)
  | spot, .directory, p :: ps =>
    if isIdlePart p then follow t spot .directory ps
    else if p = ['.', '.'] then follow t spot.parent .directory ps
    else if maxName < p.byteSize then .error .nameTooLong
    else
      let next := spot.child p
      match t.node? next with
      | some node => follow t next node ps
      | none => if ps.isEmpty then .ok (.vacant next) else .error .notFound
  | _, _, _ :: _ => .error .notDirectory

/-- Follows parts from where a path starts: the root or the working directory. -/
def walk (t : FileTree) (path : Text) (parts : List Text) : Except PathFault Place :=
  t.follow (if path.head? = some '/' then .outer [] else .inner []) .directory parts

/-- Why a text is no path. -/
def pathFault? (path : Text) : Option PathFault :=
  if path.contains '\x00' then some .nulByte
  else if path.isEmpty then some .notFound
  else if maxPath < path.byteSize then some .nameTooLong
  else none

/-- What a path leads to. -/
def place (t : FileTree) (path : Text) : Except PathFault Place :=
  match pathFault? path with
  | some e => .error e
  | none => t.walk path (pathParts path)

/-- Whether a path leads to a file. A device is none. -/
def isFile (t : FileTree) (path : Text) : Bool :=
  match t.place path with
  | .ok (.found _ (.file _)) => true
  | .ok (.found _ .program) => true
  | _ => false

/-- Reads a file. -/
def read (t : FileTree) (path : Text) : Except PathFault Content :=
  match t.place path with
  | .error e => .error e
  | .ok (.found _ .directory) => .error .isDirectory
  | .ok (.found _ (.file content)) => .ok content
  | .ok (.found _ (.device .terminal)) => .error .noDevice
  | .ok (.found _ (.device _)) => .ok []
  | .ok (.found _ .program) => .error .notText
  | .ok (.vacant _) => .error .notFound

/-- What a path to a file that is to be written leads to. A separator at the end asks for a directory,
whether it is there or not, but the way to it must be there. -/
def target (t : FileTree) (path : Text) : Except PathFault Place :=
  match pathFault? path with
  | some e => .error e
  | none =>
    if path.getLast? = some '/' then
      let named := (path.reverse.dropWhile (· == '/')).reverse
      match t.walk path ((pathParts named).dropLast ++ [['.']]) with
      | .error e => .error e
      | .ok _ => .error .isDirectory
    else t.walk path (pathParts path)

/-- Writes a file, in a directory that is there. The result is the tree afterwards and what is
printed by that. What is written outside the working directory is of no further interest. -/
def write (t : FileTree) (path : Text) (content : Content) :
    Except PathFault (FileTree × Content) :=
  match t.target path with
  | .error e => .error e
  | .ok (.found _ .directory) => .error .isDirectory
  | .ok (.found _ .program) => .error .noAccess
  | .ok (.found _ (.device .full)) => if content.isEmpty then .ok (t, []) else .error .noSpace
  | .ok (.found _ (.device .terminal)) => .error .noDevice
  | .ok (.found _ (.device .output)) => .ok (t, content)
  | .ok (.found _ (.device .null)) => .ok (t, [])
  | .ok (.found (.inner way) (.file _)) => .ok (t.put way content, [])
  | .ok (.vacant (.inner way)) => .ok (t.put way content, [])
  | .ok _ => .ok (t, [])

end FileTree

end IndentTex
