import IndentTex.Indentation
import IndentTex.Proofs.Text

/-!
# Measuring indentations

What `Indentation.levelOf` answers, as one equation, and what follows for the unit.
-/

namespace IndentTex.Indentation

variable {i j : Indentation} {indent u : Text}

/-- The level of an indentation, or why it has none, and the unit from then on. -/
lemma levelOf_run (indent : Text) (i : Indentation) :
    levelOf indent i =
      if isUniform indent = false then .error .mixedIndentation i
      else if indent = [] then .ok 0 i
      else if indent.head? ≠ (i.unit.getD indent).head? then
        .error (.foreignIndentation (i.unit.getD indent)) (ofUnit (i.unit.getD indent))
      else if indent.byteSize % Text.byteSize (i.unit.getD indent) ≠ 0 then
        .error (.unevenIndentation (i.unit.getD indent)) (ofUnit (i.unit.getD indent))
      else
        .ok (indent.byteSize / Text.byteSize (i.unit.getD indent))
          (ofUnit (i.unit.getD indent)) := by
  simp only [levelOf, Bool.not_eq_true]
  split
  · rfl
  split
  · rfl
  -- From here on there is a unit, whatever the answer is.
  change (if indent.head? ≠ (i.unit.getD indent).head? then
      throw (.foreignIndentation (i.unit.getD indent))
    else if indent.byteSize % Text.byteSize (i.unit.getD indent) ≠ 0 then
      throw (.unevenIndentation (i.unit.getD indent))
    else return indent.byteSize / Text.byteSize (i.unit.getD indent) :
      EStateM Cause Indentation Nat) (ofUnit (i.unit.getD indent)) = _
  split
  · rfl
  split <;> rfl

/-- Measuring never fails for the reason that marks unreachable cases. -/
lemma levelOf_ne_internal {cause : Cause} (h : levelOf indent i = .error cause j) :
    cause.kind ≠ .internalError := by
  rw [levelOf_run] at h
  repeat' split at h
  all_goals cases h
  all_goals exact nofun

/-- Measuring keeps a unit that is set. -/
lemma levelOf_unit (hu : i.unit = some u) :
    (∀ level, levelOf indent i = .ok level j → j.unit = some u) ∧
    (∀ cause, levelOf indent i = .error cause j → j.unit = some u) := by
  rw [levelOf_run, hu]
  constructor <;> intro x h <;> repeat' split at h
  all_goals cases h
  all_goals first | exact hu | rfl

/-! ### Units -/

/-- The margin of a level is the unit, repeated. -/
@[simp] lemma margin_ofUnit (u : Text) (level : Nat) : (ofUnit u).margin level = u.times level := rfl

/-- What can be an indentation unit: one or more spaces, or one or more tabs. -/
structure IsUnit (u : Text) : Prop where
  ne_nil : u ≠ []
  uniform : isUniform u

/-- A uniform text repeats a space or a tab. -/
lemma isUniform_iff {t : Text} :
    isUniform t ↔ ∃ a, (a = ' ' ∨ a = '\t') ∧ t = List.replicate t.length a := by
  simp only [isUniform, Bool.or_eq_true, List.all_eq_true, beq_iff_eq, List.eq_replicate_iff,
    true_and]
  constructor
  · rintro (h | h)
    · exact ⟨' ', Or.inl rfl, h⟩
    · exact ⟨'\t', Or.inr rfl, h⟩
  · rintro ⟨a, rfl | rfl, h⟩
    · exact Or.inl h
    · exact Or.inr h

/-- Spaces and tabs take one byte each. -/
lemma byteSize_replicate {a : Char} (ha : a = ' ' ∨ a = '\t') (n : Nat) :
    Text.byteSize (List.replicate n a) = n := by
  induction n with
  | zero => rfl
  | succ n ih =>
    have h1 : a.utf8Size = 1 := by rcases ha with rfl | rfl <;> rfl
    rw [List.replicate_succ, Text.byteSize, ih, h1, Nat.add_comm]

/-- Repetitions of one character, repeated. -/
lemma times_replicate (a : Char) (m n : Nat) :
    Text.times (List.replicate m a) n = List.replicate (n * m) a := by
  simp [Text.times]

/-- The character that a unit repeats. -/
lemma IsUnit.exists_replicate (hu : IsUnit u) :
    ∃ a m, (a = ' ' ∨ a = '\t') ∧ u = List.replicate (m + 1) a := by
  obtain ⟨a, ha, he⟩ := isUniform_iff.1 hu.uniform
  cases hl : u.length with
  | zero => exact absurd (List.eq_nil_of_length_eq_zero hl) hu.ne_nil
  | succ m => exact ⟨a, m, ha, hl ▸ he⟩

/-- A unit and its repetitions are horizontal blanks. -/
lemma IsUnit.isBlankLine_times (hu : IsUnit u) (level : Nat) : (u.times level).isBlankLine := by
  obtain ⟨a, m, ha, rfl⟩ := hu.exists_replicate
  have hh : isHorizontal a := by rcases ha with rfl | rfl <;> decide
  simp [times_replicate, Text.isBlankLine, List.all_replicate, hh]

/-- A unit is blank. -/
lemma IsUnit.isBlankLine (hu : IsUnit u) : u.isBlankLine := by
  simpa [Text.times] using hu.isBlankLine_times 1

/-- With a unit, an indentation has the level `level` if it is the unit repeated `level` times. -/
lemma levelOf_ofUnit (hu : IsUnit u) (level : Nat) :
    levelOf (u.times level) (ofUnit u) = .ok level (ofUnit u) := by
  obtain ⟨a, m, ha, rfl⟩ := hu.exists_replicate
  cases level with
  | zero => rfl
  | succ level =>
    have huni : isUniform (List.replicate ((level + 1) * (m + 1)) a) :=
      isUniform_iff.2 ⟨a, ha, by rw [List.length_replicate]⟩
    rw [times_replicate, levelOf_run]
    rw [if_neg (by simpa using huni), if_neg (by simp),
      if_neg (by simp [List.head?_replicate, ofUnit]), if_neg (by simp [ofUnit, byteSize_replicate ha])]
    simp [ofUnit, byteSize_replicate ha]

/-- With a unit, only repetitions of the unit have a level. -/
lemma levelOf_ofUnit_ok (hu : IsUnit u) {level : Nat} (h : levelOf indent (ofUnit u) = .ok level j) :
    indent = u.times level ∧ j = ofUnit u := by
  obtain ⟨a, m, ha, rfl⟩ := hu.exists_replicate
  rw [levelOf_run] at h
  split at h
  case isTrue => cases h
  case isFalse huni =>
    obtain ⟨b, hb, he⟩ := isUniform_iff.1 (by simpa using huni)
    generalize indent.length = n at he
    subst he
    split at h
    case isTrue h0 => cases h; exact ⟨by simpa [Text.times] using h0, rfl⟩
    case isFalse hne =>
      split at h
      case isTrue => cases h
      case isFalse hhead =>
        split at h
        case isTrue => cases h
        case isFalse hmod =>
          cases h
          have hab : b = a := by
            cases n with
            | zero => exact absurd rfl hne
            | succ n => simpa [ofUnit, List.replicate_succ] using hhead
          subst hab
          simp only [ofUnit, Option.getD_some, byteSize_replicate ha] at hmod ⊢
          rw [times_replicate, Nat.div_mul_cancel (Nat.dvd_of_mod_eq_zero (by omega))]
          exact ⟨rfl, trivial⟩

/-- The first indentation that is not empty becomes the unit. -/
lemma levelOf_unset (hu : IsUnit u) : levelOf u unset = .ok 1 (ofUnit u) := by
  have h1 := levelOf_ofUnit hu 1
  rw [show u.times 1 = u by simp [Text.times], levelOf_run] at h1
  rw [levelOf_run]
  rw [if_neg (by simp [hu.uniform]), if_neg hu.ne_nil] at h1 ⊢
  exact h1

/-- Without a unit, the level is 0 or 1. -/
lemma levelOf_unset_ok {level : Nat} (h : levelOf indent unset = .ok level j) :
    (indent = [] ∧ level = 0 ∧ j = unset) ∨ (IsUnit indent ∧ level = 1 ∧ j = ofUnit indent) := by
  by_cases he : indent = []
  · subst he
    cases h
    exact Or.inl ⟨rfl, rfl, rfl⟩
  · by_cases hu : isUniform indent
    · rw [levelOf_unset ⟨he, hu⟩] at h
      cases h
      exact Or.inr ⟨⟨he, hu⟩, rfl, rfl⟩
    · rw [levelOf_run, if_pos (by simpa using hu)] at h
      cases h

/-- Only the empty indentation is at level 0. -/
lemma eq_nil_of_levelOf (h : levelOf indent i = .ok 0 j) : indent = [] := by
  rw [levelOf_run] at h
  split at h
  case isTrue => cases h
  split at h
  case isTrue h0 => exact h0
  split at h
  case isTrue => cases h
  split at h
  case isTrue => cases h
  case isFalse hne _ hmod =>
    have hdiv := (EStateM.Result.ok.inj h).1
    have hsize := Nat.div_add_mod indent.byteSize (Text.byteSize (i.unit.getD indent))
    rw [hdiv, Decidable.not_not.1 hmod] at hsize
    cases indent with
    | nil => rfl
    | cons c t =>
      have hc := Char.utf8Size_pos c
      rw [Text.byteSize] at hsize
      omega

/-! ### Levels -/

variable {level : Nat}

/-- The unit is `u` if it is known, and it is known below level 0. -/
def Fits (u : Text) (level : Nat) (i : Indentation) : Prop :=
  i = ofUnit u ∨ (i = unset ∧ level = 0)

/-- A unit that is known stays the same. -/
def Keeps (i j : Indentation) : Prop := ∀ v, i.unit = some v → j.unit = some v

/-- A unit stays the same where nothing happens. -/
lemma Keeps.refl (i : Indentation) : Keeps i i := fun _ h => h

/-- A unit that stays the same twice stays the same. -/
lemma Keeps.trans {k : Indentation} (h : Keeps i j) (h' : Keeps j k) : Keeps i k :=
  fun v hv => h' v (h v hv)

/-- Measuring an indentation keeps the unit. -/
lemma Keeps.of_levelOf (h : levelOf indent i = .ok level j) : Keeps i j :=
  fun _ hv => (levelOf_unit hv).1 _ h

/-- Below the level 0 there is a unit. -/
lemma Fits.eq_ofUnit (h : Fits u (level + 1) i) : i = ofUnit u := by
  rcases h with h | ⟨-, h⟩
  · exact h
  · cases h

/-- A unit that is known later was the same before or not known. -/
lemma Fits.of_keeps (hk : Keeps i j) (hj : Fits u 0 j) : Fits u 0 i := by
  obtain ⟨_ | v⟩ := i
  · exact Or.inr ⟨rfl, rfl⟩
  · have hv := hk v rfl
    rcases hj with rfl | ⟨rfl, -⟩
    · cases hv
      exact Or.inl rfl
    · cases hv

/-- A level that fits still does after the unit has become known. -/
lemma Fits.keeps (hk : Keeps i j) (hi : Fits u level i) (hj : Fits u 0 j) : Fits u level j := by
  rcases hi with rfl | ⟨rfl, rfl⟩
  · have hv := hk u rfl
    rcases hj with rfl | ⟨rfl, -⟩
    · exact Or.inl rfl
    · cases hv
  · exact hj

/-- One more repetition in front. -/
lemma times_succ (u : Text) (n : Nat) : u.times (n + 1) = u ++ u.times n := by
  simp [Text.times, List.replicate_succ]

/-- One more repetition behind. -/
lemma times_succ_right (u : Text) (n : Nat) : u.times (n + 1) = u.times n ++ u := by
  simp [Text.times, List.replicate_succ']

/-- An indentation at a level is the unit, repeated. -/
lemma Fits.eq_times (hu : IsUnit u) (hi : Fits u 0 i) (hj : Fits u 0 j)
    (h : levelOf indent i = .ok level j) : indent = u.times level := by
  rcases hi with rfl | ⟨rfl, -⟩
  · exact (levelOf_ofUnit_ok hu h).1
  · rcases levelOf_unset_ok h with ⟨rfl, rfl, rfl⟩ | ⟨-, rfl, rfl⟩
    · rfl
    · rcases hj with hj | ⟨hj, -⟩
      · obtain rfl : indent = u := by simpa [ofUnit] using hj
        simp [Text.times]
      · cases hj

/-- The margin one level deeper. -/
lemma Fits.margin (h : Fits u level i) : (ofUnit u).margin (level + 1) = u ++ i.margin level := by
  rcases h with rfl | ⟨rfl, rfl⟩
  · exact times_succ u level
  · exact times_succ u 0

/-- The margin of a level that fits is the unit repeated. -/
lemma Fits.margin_eq (h : Fits u level i) : i.margin level = u.times level := by
  rcases h with rfl | ⟨rfl, rfl⟩
  · rfl
  · rfl

/-- The margin of a level that fits is blank. -/
lemma Fits.isBlankLine_margin (hu : IsUnit u) (h : Fits u level i) : (i.margin level).isBlankLine := by
  rcases h with rfl | ⟨rfl, rfl⟩
  · exact hu.isBlankLine_times level
  · rfl

/-- The indentation of the level itself. -/
lemma Fits.levelOf_times (hu : IsUnit u) (hi : Fits u level i) :
    levelOf (u.times level) i = .ok level i := by
  rcases hi with rfl | ⟨rfl, rfl⟩
  · exact levelOf_ofUnit hu level
  · rfl

/-- The indentation of the next level. -/
lemma Fits.levelOf_succ (hu : IsUnit u) (hi : Fits u level i) :
    levelOf (u.times (level + 1)) i = .ok (level + 1) (ofUnit u) := by
  rcases hi with rfl | ⟨rfl, rfl⟩
  · exact levelOf_ofUnit hu (level + 1)
  · simpa [Text.times] using levelOf_unset hu

/-- An indentation one level deeper is measured as one level deeper. -/
lemma Fits.levelOf (hu : IsUnit u) (hi : Fits u 0 i) (hj : Fits u 0 j)
    (h : levelOf indent i = .ok level j) :
    Fits u level j ∧ Indentation.levelOf (u ++ indent) (ofUnit u) = .ok (level + 1) (ofUnit u) := by
  have hlevel : Fits u level j := by
    rcases hi with rfl | ⟨rfl, -⟩
    · exact Or.inl (levelOf_ofUnit_ok hu h).2
    · rcases levelOf_unset_ok h with ⟨-, rfl, rfl⟩ | ⟨-, rfl, rfl⟩
      · exact hj
      · rcases hj with hj | ⟨hj, -⟩
        · exact Or.inl hj
        · cases hj
  refine ⟨hlevel, ?_⟩
  rw [hi.eq_times hu hj h, ← times_succ]
  exact levelOf_ofUnit hu (level + 1)

/-! ### Units that were measured -/

/-- The unit, once there is one, is spaces or tabs. -/
def IsValid (i : Indentation) : Prop := ∀ u, i.unit = some u → IsUnit u

/-- No unit is no invalid one. -/
lemma isValid_unset : unset.IsValid := nofun

/-- Measuring keeps the unit valid. -/
lemma IsValid.of_levelOf (hi : i.IsValid) (h : levelOf indent i = .ok level j) : j.IsValid := by
  intro u hu
  cases hv : i.unit with
  | some v =>
    obtain rfl : u = v := Option.some.inj (hu.symm.trans ((levelOf_unit hv).1 level h))
    exact hi u hv
  | none =>
    obtain rfl : i = unset := by rw [unset, ← hv]
    rcases levelOf_unset_ok h with ⟨-, -, rfl⟩ | ⟨hunit, -, rfl⟩
    · cases hu
    · cases hu
      exact hunit

/-- Where measuring fails, the unit is as it was. -/
lemma eq_of_levelOf_error {cause : Cause} (h : levelOf indent i = .error cause j) : j = i := by
  obtain ⟨_ | u⟩ := i
  · -- Without a unit only a mixed indentation has no level.
    by_cases huni : isUniform indent
    · by_cases hne : indent = []
      · subst hne
        cases h
      · rw [show (⟨none⟩ : Indentation) = unset from rfl, levelOf_unset ⟨hne, huni⟩] at h
        cases h
    · rw [levelOf_run, if_pos (by simpa using huni)] at h
      cases h
      rfl
  · exact congrArg Indentation.mk ((levelOf_unit rfl).2 cause h)

/-- The margin of a level is blank. -/
lemma IsValid.isBlankLine_margin (hi : i.IsValid) (level : Nat) : (i.margin level).isBlankLine := by
  obtain ⟨_ | u⟩ := i
  · simp [margin, unitText, Text.times, Text.isBlankLine]
  · exact (hi u rfl).isBlankLine_times level

end IndentTex.Indentation
