import IndentTex.Proofs.Grammar.Completeness
import IndentTex.Proofs.Grammar.Soundness
import IndentTex.Proofs.Text.Indent

/-!
# Tidy one-line bodies

The body of an environment may stand on the line of its colon. It can still end with a newline: an
escaped newline before an empty line, or the last newline of the output of code. Then the end of the
environment stands at the start of a line. A reading is tidy if this does not happen in it. Tidy
readings are readings with a check after every one-line body, and the grammar has the same check.
-/

namespace IndentTex

variable {σ τ : Type}

namespace Scan

/-- Whether the body of a one-line environment ends its line with a newline of its own. A body that
a comment follows does not end its line. -/
def breaksOff (stop : Bool) (text rest : Text) : Bool :=
  stop && Text.lineStart false text && rest.atLineEnd

/-- Reads a line, which is refused if it is a body that ends with a newline of its own. -/
def tidyLine (stop : Bool) (line : Scan σ Text) : Scan σ Text := do
  let text ← line
  let place ← mark
  if breaksOff stop text place.rest then raise .missingIndentation else return text

/-- A tidy line that is read is a line, and does not break off. -/
lemma tidyLine_ok {stop : Bool} {line : Scan σ Text} {s s' : State σ} {out : Text}
    (h : tidyLine stop line s = .ok out s') :
    line s = .ok out s' ∧ breaksOff stop out s'.cursor.rest = false := by
  rw [tidyLine, bind_run] at h
  cases hl : line s with
  | error e s₁ =>
    rw [hl] at h
    cases h
  | ok text s₁ =>
    simp only [hl, bind_of_ok (mark_run s₁), ite_run] at h
    split at h
    case isTrue => cases h
    case isFalse hb =>
      cases h
      exact ⟨rfl, by simpa using hb⟩

end Scan

namespace Level

/-- The level that refuses one-line bodies that end their line with a newline of their own. -/
def tidy (inner : Level σ) : Level σ where
  group := inner.group
  brackets := inner.brackets
  line level stop := Scan.tidyLine stop (inner.line level stop)

/-- The tidy level with room for `n` further ones. -/
def tidyRoom (S : Setup σ) : Nat → Level σ
  | 0 => exhausted
  | n + 1 => (above S (tidyRoom S n)).tidy

/-- The outermost tidy level. -/
def outermostTidy (S : Setup σ) : Level σ := tidyRoom S maxNesting

end Level

namespace Lockstep

variable {L : Lockstep σ τ} {S : Setup σ} {T : Setup τ}

/-- Tidy levels keep in step if the levels do. -/
lemma Levels.tidy {inner : Level σ} {inner' : Level τ} (h : L.Levels inner inner') :
    L.Levels inner.tidy inner'.tidy where
  group := h.group
  brackets := h.brackets
  line level stop := by
    refine (h.line level stop).bindEq fun text => Sim.mark.bind fun c d hcd => ?_
    rw [L.rest_eq hcd]
    split
    · exact .raise nofun
    · exact .pure rfl

/-- Tidy levels with the same room keep in step. -/
lemma Levels.tidyRoom (hS : L.Setups S T) (n : Nat) :
    L.Levels (.tidyRoom S n) (.tidyRoom T n) := by
  induction n with
  | zero => exact Levels.ofRoom hS 0
  | succ n ih => exact (ih.above hS).tidy

end Lockstep

namespace Grammar

/-- The level without one-line bodies that end their line with a newline of their own. -/
def tidy (G : Grammar σ) : Grammar σ where
  group := G.group
  brackets := G.brackets
  line level stop k out k' := G.line level stop k out k' ∧ Scan.breaksOff stop out k'.rest = false

/-- The tidy level with room for `n` further ones. -/
def tidyRoom (S : Setup σ) : Nat → Grammar σ
  | 0 => exhausted
  | n + 1 => (above S (tidyRoom S n)).tidy

end Grammar

namespace Level

variable {inner : Level σ} {G : Grammar σ}

/-- A tidy reading is in the tidy grammar. -/
lemma Sound.tidy (hI : inner.Sound G) : inner.tidy.Sound G.tidy where
  onward start i := (hI.onward start i).tidy
  group h := hI.group h
  brackets h := hI.brackets h
  line h := by
    obtain ⟨hl, hb⟩ := Scan.tidyLine_ok h
    exact ⟨hI.line hl, hb⟩
  ends h := hI.ends h.1

/-- What a tidy level reads is in the tidy grammar. -/
lemma tidyRoom_sound (S : Setup σ) (n : Nat) :
    (tidyRoom S n).Sound (Grammar.tidyRoom S n) := by
  induction n with
  | zero => exact ofRoom_sound S 0
  | succ n ih => exact ih.above.tidy

/-- What is in the tidy grammar is read without the check too. -/
lemma Complete.of_tidy (hI : inner.Complete G) : inner.Complete G.tidy where
  onward := hI.onward
  group i h hg := hI.group i h hg
  brackets i h hb := hI.brackets i h hb
  line hl := hI.line hl.1

/-- What is in the tidy grammar is read without the check. -/
lemma ofRoom_complete_tidyRoom (S : Setup σ) (n : Nat) :
    (ofRoom S n).Complete (Grammar.tidyRoom S n) := by
  induction n with
  | zero => exact ofRoom_complete S 0
  | succ n ih => exact ih.above.of_tidy

end Level

end IndentTex
