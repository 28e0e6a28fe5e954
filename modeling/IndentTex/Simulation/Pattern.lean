import IndentTex.Text.Basic

/-!
# Patterns

The patterns of the shell: literal characters, wildcards and sets of characters. A pattern is matched
by following all its beginnings at once, so that the time it takes grows with the length of the text
and the pattern only.
-/

namespace IndentTex.Simulation

/-- A member of a set of characters. -/
inductive Member where
  /-- The characters from one to another. -/
  | range (first last : Char)
  /-- The characters of a named class. -/
  | named (name : Text)
  deriving DecidableEq, Repr

/-- One element of a pattern. -/
inductive Glob where
  /-- The character itself. -/
  | char (c : Char)
  /-- Any one character. -/
  | any
  /-- Any text. -/
  | star
  /-- One character inside the set, or outside of it. -/
  | set (outside : Bool) (members : List Member)
  deriving DecidableEq, Repr

/-- Whether a character is visible, but neither a letter nor a digit. -/
def isPunctuation (c : Char) : Bool := '!' ≤ c && c ≤ '~' && !c.isAlphanum

/-- The named classes. -/
def classOf? (name : Text) : Option (Char → Bool) :=
  match String.ofList name with
  | "alnum" => some Char.isAlphanum
  | "alpha" => some Char.isAlpha
  | "blank" => some fun c => c == ' ' || c == '\t'
  | "cntrl" => some fun c => c < ' ' || c == '\x7f'
  | "digit" => some Char.isDigit
  | "graph" => some fun c => '!' ≤ c && c ≤ '~'
  | "lower" => some Char.isLower
  | "print" => some fun c => ' ' ≤ c && c ≤ '~'
  | "punct" => some isPunctuation
  | "space" => some fun c => c == ' ' || ('\t' ≤ c && c ≤ '\r')
  | "upper" => some Char.isUpper
  | "xdigit" => some fun c => c.isDigit || ('a' ≤ c && c ≤ 'f') || ('A' ≤ c && c ≤ 'F')
  | _ => none

/-- Whether a character belongs to a member of a set. -/
def Member.contains (c : Char) : Member → Bool
  | range first last => first ≤ c && c ≤ last
  | named name => (classOf? name).any (· c)

/-- Whether a character has the form of an element. -/
def Glob.accepts (c : Char) : Glob → Bool
  | char d => c == d
  | any => true
  | star => true
  | set outside members => (members.any (·.contains c)) != outside

/-- A text and what is left of it after each of its characters. -/
def tailsOf : Text → List Text
  | [] => [[]]
  | c :: cs => (c :: cs) :: tailsOf cs

/-- What is left of texts after an element at their beginnings. The texts are ends of each other, the
longest first, and so are the results. -/
def Glob.step (ends : List Text) : Glob → List Text
  | star => (ends.head?).elim [] tailsOf
  | g => ends.filterMap fun t => match t with
    | c :: cs => if g.accepts c then some cs else none
    | [] => none

/-- What is left of a text after a beginning that has the form of a pattern, the longest first. -/
def endsAfter (pattern : List Glob) (t : Text) : List Text := pattern.foldl Glob.step [t]

/-- Whether a whole text has the form of a pattern. -/
def isMatch (pattern : List Glob) (t : Text) : Bool := (endsAfter pattern t).getLast?.any List.isEmpty

/-- A text without the shortest or the longest beginning of the form of a pattern, if it has one. -/
def dropMatch (pattern : List Glob) (longest : Bool) (t : Text) : Text :=
  let ends := endsAfter pattern t
  (if longest then ends.getLast? else ends.head?).getD t

/-- A text without the shortest or the longest end of the form of a pattern, if it has one. -/
def dropMatchEnd (pattern : List Glob) (longest : Bool) (t : Text) : Text :=
  (dropMatch pattern.reverse longest t.reverse).reverse

/-- A character of a written pattern, and whether it stands for itself in any case. -/
abbrev Mark := Char × Bool

/-- The name of a class, just after the bracket in front of it, and what follows it. -/
def className? : List Mark → Option (Text × List Mark)
  | (':', _) :: marks =>
    let name := (marks.takeWhile fun m => m.1.isAlpha).map Prod.fst
    match marks.drop name.length with
    | (':', _) :: (']', _) :: rest => if (classOf? name).isSome then some (name, rest) else none
    | _ => none
  | _ => none

/-- The character at the beginning of marks, where a backslash protects the next one. -/
def protected? : List Mark → Option (Char × List Mark)
  | ('\\', false) :: (c, _) :: rest => some (c, rest)
  | (c, _) :: rest => some (c, rest)
  | [] => none

/-- The members of a set up to its closing bracket, and what follows it. A closing bracket at the
beginning belongs to the set. -/
def members? : Nat → (first : Bool) → List Mark → Option (List Member × List Mark)
  | 0, _, _ => none
  | _, _, [] => none
  | n + 1, first, (c, literal) :: rest =>
    if c == ']' && !first && !literal then some ([], rest)
    else
      match if c == '[' then className? rest else none with
      | some (name, rest) => (members? n false rest).map fun r => (.named name :: r.1, r.2)
      | none =>
        match protected? ((c, literal) :: rest) with
        | none => none
        | some (a, rest) =>
          let single := (members? n false rest).map fun r => (.range a a :: r.1, r.2)
          match rest with
          | ('-', false) :: after =>
            if after.head?.any fun m => m.1 == ']' then single
            else match protected? after with
              | some (b, rest) => (members? n false rest).map fun r => (.range a b :: r.1, r.2)
              | none => none
          | _ => single

/-- The pattern that marks stand for. A bracket that is not closed stands for itself. -/
def patternOf : Nat → List Mark → List Glob
  | 0, _ => []
  | _, [] => []
  | n + 1, (c, true) :: rest => .char c :: patternOf n rest
  | n + 1, (c, false) :: rest =>
    match c, rest with
    | '*', rest => .star :: patternOf n rest
    | '?', rest => .any :: patternOf n rest
    | '\\', (d, _) :: rest => .char d :: patternOf n rest
    | '[', rest =>
      let (outside, marks) := match rest with
        | ('!', false) :: marks => (true, marks)
        | marks => (false, marks)
      match members? (marks.length + 1) true marks with
      | some (members, rest) => .set outside members :: patternOf n rest
      | none => .char c :: patternOf n rest
    | c, rest => .char c :: patternOf n rest

end IndentTex.Simulation
