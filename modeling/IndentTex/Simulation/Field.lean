import IndentTex.Simulation.Machine
import IndentTex.Simulation.Pattern

/-!
# Fields

What words are expanded to: characters that remember where they come from. They are broken up into
fields at separators, and fields with wildcards stand for the files whose names match.
-/

namespace IndentTex.Simulation

/-- A character of an expanded word. -/
inductive Glyph where
  /-- A character, whether it only stands for itself, and whether it may separate fields. -/
  | char (c : Char) (literal splits : Bool)
  /-- A quotation mark that has been removed. -/
  | quotes
  /-- The end of a field. -/
  | fieldEnd
  /-- The end of an expansion, and whether that was the list of all parameters in quotes. -/
  | seam (ofList : Bool)
  deriving DecidableEq, Repr

/-- The characters of glyphs. -/
def textOf (gs : List Glyph) : Text :=
  gs.filterMap fun g => match g with
    | .char c _ _ => some c
    | _ => none

/-- The pattern that glyphs stand for. -/
def Glyph.pattern (gs : List Glyph) : List Glob :=
  let marks : List Mark := gs.filterMap fun g => match g with
    | .char c literal _ => some (c, literal)
    | _ => none
  patternOf (marks.length + 1) marks

/-- Glyphs for the value of an expansion. -/
def glyphs (quoted : Bool) (t : Text) : List Glyph :=
  if quoted then t.map (.char · true false)
  else if t.isEmpty then []
  else t.map (.char · false true) ++ [.seam false]

/-- What has been broken up so far. -/
structure Breaking where
  /-- The fields that are complete, the latest first. -/
  done : List (List Glyph)
  /-- The present field, the latest glyph first. -/
  field : List Glyph
  /-- Whether a blank has just ended a field. -/
  afterBlank : Bool
  /-- Whether the list of all parameters in quotes has been the expansion before. Then blanks are
  separators like all others. -/
  afterList : Bool
  /-- How many fields there may be at most, if there is a limit. -/
  room : Option Nat
  /-- How long the last field is without the separators at its end. -/
  kept : Option Nat

namespace Breaking

/-- Ends the present field. -/
def cut (b : Breaking) : Breaking := { b with done := b.field :: b.done, field := [] }

/-- Adds to the present field. -/
def push (b : Breaking) (g : Glyph) : Breaking := { b with field := g :: b.field }

/-- Takes a character that may separate fields. Blanks among the separators only separate, every
other separator ends a field, and blanks around it belong to it. The last of a limited number of
fields takes the rest, but not a single separator at its end, and no blanks there. -/
def separating (separators : Text) (g : Glyph) (c : Char) (b : Breaking) : Breaking :=
  let isSeparator := separators.contains c
  let isBlank := isSeparator && (c == ' ' || c == '\t' || c == '\n')
  let absorbs := isBlank && !b.afterList
  if b.room == some 0 then
    if isBlank then { b.push g with kept := b.kept <|> some b.field.length }
    else
      { b.push g with
        kept := if isSeparator && b.afterBlank then b.kept else none
        afterBlank := false }
  else if b.afterBlank then
    if isBlank then { b with field := [] }
    else if isSeparator then { b with field := [], afterBlank := false }
    else { b with field := [g], afterBlank := false }
  else if isSeparator then
    if absorbs && b.field.isEmpty then b
    else
      match b.room with
      | some 1 =>
        { b.push g with room := some 0, kept := some b.field.length, afterBlank := absorbs }
      | room => { b.cut with room := room.map (· - 1), afterBlank := absorbs }
  else { b.push g with afterBlank := false }

/-- Takes a glyph. -/
def step (separators : Text) (b : Breaking) : Glyph → Breaking
  | .char c literal true => b.separating separators (.char c literal true) c
  | .fieldEnd => if b.field.isEmpty then b else { b.cut with afterBlank := false }
  | .seam ofList => { b with afterBlank := false, afterList := ofList }
  | g => b.push g

/-- The fields at the end. -/
def fields (b : Breaking) : List (List Glyph) :=
  let last := match b.kept with
    | some k => b.field.drop (b.field.length - k)
    | none => b.field
  ((if last.isEmpty then b.done else last :: b.done).map List.reverse).reverse

end Breaking

/-- The fields that glyphs are broken up into, with a limit on their number if one is given. -/
def breakUp (separators : Text) (room : Option Nat) (gs : List Glyph) : List (List Glyph) :=
  (gs.foldl (Breaking.step separators) ⟨[], [], false, false, room, none⟩).fields

/-- Glyphs between separators of paths. -/
def pathGlyphs : List Glyph → List (List Glyph)
  | [] => [[]]
  | g :: gs =>
    match pathGlyphs gs with
    | [] => [[g]]
    | p :: ps =>
      match g with
      | .char '/' _ _ => [] :: p :: ps
      | g => (g :: p) :: ps

/-- Whether glyphs hold a wildcard. -/
def hasWildcard (gs : List Glyph) : Bool :=
  gs.any fun g => match g with
    | .char c false _ => c == '*' || c == '?' || c == '['
    | _ => false

/-- The names in a directory, given by its path, in ascending order. -/
def Machine.names (m : Machine) (directory : Text) : List Text :=
  match m.place (if directory.isEmpty then ['.'] else directory) with
  | .ok (.found (.inner way) .directory) =>
    let below := m.world.files.files.filterMap fun f =>
      if way.isPrefixOf f.1 then ((f.1.drop way.length).head?).map encode else none
    below.eraseDups.mergeSort fun a b => !decide (b < a)
  | _ => []

/-- The paths that match the parts of a pattern, after the beginning of a path. A point at the
beginning of a name must be written. -/
def matchingPaths (m : Machine) (before : Text) : List (List Glyph) → List Text
  | [] => []
  | [p] =>
    if hasWildcard p then matching before p
    else
      let path := before ++ textOf p
      match m.place path with
      | .ok (.found _ _) => [path]
      | _ => []
  | p :: ps =>
    let starts := if hasWildcard p then matching before p else [before ++ textOf p]
    starts.flatMap fun start => matchingPaths m (start ++ ['/']) ps
where
  /-- The paths in a directory whose names match. -/
  matching (before : Text) (p : List Glyph) : List Text :=
    let pattern := Glyph.pattern p
    let names := (m.names before).filter fun name =>
      isMatch pattern name && (name.head? != some '.' || (textOf p).head? == some '.')
    names.map (before ++ ·)

/-- The texts that a field stands for: the paths that match it, or else itself. -/
def Machine.fieldTexts (m : Machine) (field : List Glyph) : List Text :=
  let paths := if hasWildcard field && !m.flags.noGlob then matchingPaths m [] (pathGlyphs field)
    else []
  if paths.isEmpty then [textOf field] else paths

end IndentTex.Simulation
