/-!
# Text

Texts are lists of characters. Sizes in bytes are those of UTF-8, and lines are separated by the
newline character alone.
-/

namespace IndentTex

/-- A text, character by character. -/
abbrev Text := List Char

/-- Whether the code point of a character lies in one of the ranges, ends included. -/
def inRanges (ranges : List (Nat × Nat)) (c : Char) : Bool :=
  ranges.any fun r => r.1 ≤ c.toNat && c.toNat ≤ r.2

namespace Text

/-- The number of bytes that a text takes. -/
def byteSize : Text → Nat
  | [] => 0
  | c :: cs => c.utf8Size + byteSize cs

/-- Whether a character of a text, or the text itself, ends after `n` bytes. -/
def isBoundary : Nat → Text → Bool
  | 0, _ => true
  | _ + 1, [] => false
  | n + 1, c :: cs => c.utf8Size ≤ n + 1 && isBoundary (n + 1 - c.utf8Size) cs

/-- The last boundary of a text that is at most `n`, searched from `n` downward. -/
def lastBoundary (t : Text) : Nat → Nat
  | 0 => 0
  | n + 1 => if isBoundary (n + 1) t then n + 1 else lastBoundary t n

/-- The longest beginning of a text that takes at most `n` bytes. -/
def takeBytes : Nat → Text → Text
  | _, [] => []
  | n, c :: cs => if c.utf8Size ≤ n then c :: takeBytes (n - c.utf8Size) cs else []

/-- The lines of a text, without their newlines; a text without a newline is one line. -/
def splitLines : Text → List Text
  | [] => [[]]
  | c :: cs =>
    if c = '\n' then [] :: splitLines cs
    else match splitLines cs with
      | [] => [[c]]
      | l :: ls => (c :: l) :: ls

/-- Lines put together with a newline between each two. -/
def joinLines : List Text → Text
  | [] => []
  | [l] => l
  | l :: ls => l ++ '\n' :: joinLines ls

/-- Texts put together with a separator between each two. -/
def joinWith (sep : Text) : List Text → Text
  | [] => []
  | [t] => t
  | t :: ts => t ++ sep ++ joinWith sep ts

/-- The part of a text after a given beginning, if it begins so. -/
def dropStart? : Text → Text → Option Text
  | [], t => some t
  | _ :: _, [] => none
  | p :: ps, c :: cs => if p = c then dropStart? ps cs else none

/-- A text repeated `n` times. -/
def times (t : Text) (n : Nat) : Text := (List.replicate n t).flatten

/-- A number in decimal digits. -/
def ofNat (n : Nat) : Text := Nat.toDigits 10 n

end Text

end IndentTex
