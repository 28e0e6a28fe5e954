import IndentTex.Scan.Body

/-!
# Nesting

Groups, arguments and lines contain each other. Each nesting level reads them with the help of the
next one, and beyond the last level nothing can be read any more.
-/

namespace IndentTex

/-- How deep groups, arguments and bodies can be nested (`MAX_NESTING`). -/
def maxNesting : Nat := 128

namespace Level

variable {σ : Type}

/-- The level beyond the limit, where everything fails. -/
def exhausted : Level σ where
  group _ := Scan.raise .nestingTooDeep
  brackets := Scan.raise .nestingTooDeep
  line _ _ := Scan.raise .nestingTooDeep

/-- The level just above another one (`nested`). -/
def above (S : Setup σ) (inner : Level σ) : Level σ where
  group close := Scan.bounded (Scan.groupLoop S inner close)
  brackets := Scan.bracketText S inner
  line level stopAtComment := Scan.bounded (Scan.lineLoop S inner level stopAtComment)

/-- The level with room for `n` further ones. -/
def ofRoom (S : Setup σ) : Nat → Level σ
  | 0 => exhausted
  | n + 1 => above S (ofRoom S n)

/-- The outermost level. -/
def outermost (S : Setup σ) : Level σ := ofRoom S maxNesting

end Level

end IndentTex
