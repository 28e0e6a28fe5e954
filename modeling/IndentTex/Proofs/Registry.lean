import IndentTex.Proofs.Lookup

/-!
# Registrations one after the other

Definitions are offered to a registry one after the other, and each of them is accepted or refused.
`Registry.attempt` is one such step. What every step keeps is `Registry.IsSound`: each definition stands
under its own name, the name fits the sort of the definition, and no name is in both tables. The main
result, `Registry.attempts_invariant`, says what can be relied on after any number of steps, which
definitions are refused and what a name stands for in the end.
-/

namespace IndentTex.Registry

/-- The registry after a definition has been offered to it, accepted or not. -/
def attempt (r : Registry) (d : Definition) : Registry :=
  match register d r with
  | .ok _ r' => r'
  | .error _ r' => r'

/-- The registry after definitions have been offered to it one after the other. -/
def attempts (r : Registry) (ds : List Definition) : Registry := ds.foldl attempt r

/-- Those of the definitions that are accepted when they are offered one after the other. -/
def accepted (r : Registry) : List Definition → List Definition
  | [] => []
  | d :: ds =>
    match register d r with
    | .ok _ r' => d :: accepted r' ds
    | .error _ r' => accepted r' ds

/-- The table for its sort has a definition under a name. -/
def Holds (r : Registry) (name : Text) : Definition → Prop
  | .command c => r.command? name = some c
  | .environment e => r.environment? name = some e

/-- Definitions stand under their own names, the names fit their sorts, and no name has a command and
an environment. -/
structure IsSound (r : Registry) : Prop where
  name_eq {name : Text} {d : Definition} : r.Holds name d → d.name = name
  hasValidName {name : Text} {d : Definition} : r.Holds name d → d.hasValidName
  disjoint {name : Text} : r.commands.contains name → r.environments.contains name = false

/-! ### One definition -/

section Register

variable {r r' : Registry} {d : Definition}

/-- What happens to a definition that is offered, in the order of the checks. -/
lemma register_run (d : Definition) (r : Registry) :
    register d r =
      if d.hasValidName = false then .error (.invalidName d.name) r
      else if r.conflicts d then .error (.conflict d.name d.otherSort) r
      else .ok () (r.insert d) := by
  unfold register
  cases hvalid : d.hasValidName with
  | false => rfl
  | true =>
    change (if r.conflicts d then throw _ else modify _ : EStateM RegistryError Registry Unit) r = _
    cases hconflict : r.conflicts d with
    | false => rfl
    | true => rfl

/-- What an accepted definition is, and where it goes. -/
lemma register_eq_ok (h : register d r = .ok () r') :
    d.hasValidName ∧ r.conflicts d = false ∧ r' = r.insert d := by
  rw [register_run] at h
  split at h
  case isTrue => cases h
  case isFalse hvalid =>
    split at h
    case isTrue => cases h
    case isFalse hconflict =>
      cases h
      exact ⟨by simpa using hvalid, by simpa using hconflict, rfl⟩

/-- A definition is refused because its name does not fit, or because the name has a definition of
the other sort. Either way nothing changes. -/
lemma register_eq_error_iff {error : RegistryError} :
    register d r = .error error r' ↔ r' = r ∧
      ((d.hasValidName = false ∧ error = .invalidName d.name) ∨
        (d.hasValidName = true ∧ r.conflicts d = true ∧
          error = .conflict d.name d.otherSort)) := by
  rw [register_run]
  cases d.hasValidName with
  | false => simp [@eq_comm _ r, @eq_comm _ error, and_comm]
  | true => cases r.conflicts d <;> simp [@eq_comm _ r, @eq_comm _ error, and_comm]

/-- An accepted definition is entered. -/
lemma attempt_of_ok (h : register d r = .ok () r') : r.attempt d = r.insert d := by
  unfold attempt
  rw [h]
  exact (register_eq_ok h).2.2

/-- A refused definition changes nothing. -/
lemma attempt_of_error {error : RegistryError} (h : register d r = .error error r') :
    r.attempt d = r := by
  unfold attempt
  rw [h]
  exact (register_eq_error_iff.1 h).1

/-- What the tables have under a name after a definition has been entered: the definition under its own
name, and everything else as before. -/
lemma holds_insert {x : Definition} {name : Text} (h : (r.insert d).Holds name x) :
    (x = d ∧ name = d.name) ∨ r.Holds name x := by
  cases d with
  | command c =>
    cases x with
    | environment e => exact Or.inr h
    | command c' =>
      change (r.commands.insert c.name c).find? name = some c' at h
      rw [Table.find?_insert] at h
      split at h
      case isTrue hname =>
        cases h
        exact Or.inl ⟨rfl, hname.symm⟩
      case isFalse => exact Or.inr h
  | environment e =>
    cases x with
    | command c => exact Or.inr h
    | environment e' =>
      change (r.environments.insert e.name e).find? name = some e' at h
      rw [Table.find?_insert] at h
      split at h
      case isTrue hname =>
        cases h
        exact Or.inl ⟨rfl, hname.symm⟩
      case isFalse => exact Or.inr h

/-- A key has a value after an insertion if it is the new key or had one before. -/
lemma contains_insert {α : Type} (t : Table α) (key k : Text) (value : α) :
    (t.insert key value).contains k = (decide (key = k) || t.contains k) := by
  unfold Table.contains
  rw [Table.find?_insert]
  by_cases h : key = k <;> simp [h]

/-- The tables stay disjoint if the other table does not have the name of what is entered. -/
lemma disjoint_insert (hr : ∀ name, r.commands.contains name → r.environments.contains name = false)
    (hd : r.conflicts d = false) {name : Text} (h : (r.insert d).commands.contains name) :
    (r.insert d).environments.contains name = false := by
  cases d with
  | command c =>
    change (r.commands.insert c.name c).contains name at h
    rw [contains_insert, Bool.or_eq_true, decide_eq_true_eq] at h
    rcases h with rfl | h
    · exact hd
    · exact hr name h
  | environment e =>
    change r.commands.contains name at h
    change (r.environments.insert e.name e).contains name = false
    rw [contains_insert, hr name h, Bool.or_false, decide_eq_false_iff_not]
    rintro rfl
    rw [show r.commands.contains e.name = false from hd] at h
    cases h

/-- What entering a definition with a fitting name that is free keeps. -/
lemma IsSound.insert (hr : r.IsSound) (hvalid : d.hasValidName) (hd : r.conflicts d = false) :
    (r.insert d).IsSound where
  name_eq h := by
    rcases holds_insert h with ⟨rfl, rfl⟩ | h
    · rfl
    · exact hr.name_eq h
  hasValidName h := by
    rcases holds_insert h with ⟨rfl, -⟩ | h
    · exact hvalid
    · exact hr.hasValidName h
  disjoint := disjoint_insert (fun _ => hr.disjoint) hd

/-- What one step keeps. -/
lemma IsSound.attempt (hr : r.IsSound) (d : Definition) : (r.attempt d).IsSound := by
  cases h : register d r with
  | error error r' =>
    rw [attempt_of_error h]
    exact hr
  | ok _ r' =>
    rw [attempt_of_ok h]
    obtain ⟨hvalid, hconflict, -⟩ := register_eq_ok h
    exact hr.insert hvalid hconflict

end Register

/-! ### Sorted names -/

section Names

/-- No text is before itself or before one that is before it. -/
lemma text_le_trans (a b c : Text) (hab : !decide (b < a)) (hbc : !decide (c < b)) :
    !decide (c < a) := by
  simp only [Bool.not_eq_true', decide_eq_false_iff_not] at *
  exact fun h => List.not_lt.2 (List.le_trans (List.not_lt.1 hab) (List.not_lt.1 hbc)) h

/-- Of two texts one is not before the other. -/
lemma text_le_total (a b : Text) : (!decide (b < a) || !decide (a < b)) = true := by
  by_cases h : b < a
  · simp [h, List.lt_asymm h]
  · simp [h]

variable {r : Registry}

/-- The names are the keys of the two tables. -/
lemma names_perm (r : Registry) : r.names.Perm (r.commands.keys ++ r.environments.keys) :=
  List.mergeSort_perm _ _

/-- A name is listed exactly if it stands for something. -/
lemma mem_names_iff (name : Text) : name ∈ r.names ↔ r.find? name ≠ none := by
  rw [(names_perm r).mem_iff, List.mem_append, Table.mem_keys_iff, Table.mem_keys_iff, Ne,
    find?_eq_none_iff]
  unfold Table.contains command? environment?
  cases r.commands.find? name <;> simp [Option.isSome_iff_ne_none]

/-- No name is listed twice if the tables are disjoint. -/
lemma IsSound.nodup_names (hr : r.IsSound) : r.names.Nodup := by
  rw [(names_perm r).nodup_iff, List.nodup_append]
  refine ⟨r.commands.nodup, r.environments.nodup, ?_⟩
  rintro name hc _ he rfl
  rw [Table.mem_keys_iff] at hc he
  rw [hr.disjoint hc] at he
  cases he

/-- The names are strictly ascending. -/
lemma IsSound.pairwise_names (hr : r.IsSound) : r.names.Pairwise (· < ·) := by
  have hsorted : r.names.Pairwise fun a b => !decide (b < a) :=
    List.pairwise_mergeSort text_le_trans text_le_total _
  refine hsorted.imp₂ (fun a b hle hne => ?_) hr.nodup_names
  refine Decidable.byContradiction fun hlt => hne ?_
  have hge : ¬ b < a := by simpa using hle
  exact List.le_antisymm (List.not_lt.1 hge) (List.not_lt.1 hlt)

end Names

/-! ### Any number of definitions -/

section Attempts

variable {r : Registry}

/-- The empty registry is sound. -/
lemma isSound_empty : empty.IsSound where
  name_eq {name d} h := by cases d <;> cases h
  hasValidName {name d} h := by cases d <;> cases h
  disjoint h := by cases h

/-- The default definitions are sound, although they are entered without any check. -/
lemma isSound_defaults : defaults.IsSound := by
  have hdocclass : (empty.insert (.command docclass)).IsSound :=
    isSound_empty.insert (by decide +kernel) rfl
  have hverb := hdocclass.insert (d := .command verb) (by decide +kernel) rfl
  have hcolon := hverb.insert (d := .command colon) (by decide +kernel) rfl
  have hverbatim := hcolon.insert (d := .environment verbatim) (by decide +kernel) (by decide +kernel)
  exact hverbatim.insert (d := .environment pysplice) (by decide +kernel) (by decide +kernel)

/-- What any number of steps keeps. -/
lemma IsSound.attempts (hr : r.IsSound) (ds : List Definition) : (r.attempts ds).IsSound := by
  induction ds generalizing r with
  | nil => exact hr
  | cons d ds ih => exact ih (hr.attempt d)

/-- A name stands for the last definition of it that was accepted. -/
lemma find?_attempts (r : Registry) (ds : List Definition) (name : Text) :
    (r.attempts ds).find? name =
      ((r.accepted ds).reverse.find? fun d => d.name = name).or (r.find? name) := by
  induction ds generalizing r with
  | nil => rfl
  | cons d ds ih =>
    rw [show r.attempts (d :: ds) = (r.attempt d).attempts ds from rfl, ih, accepted]
    cases h : register d r with
    | error error r' =>
      obtain rfl := (register_eq_error_iff.1 h).1
      rw [attempt_of_error h]
    | ok _ r' =>
      obtain ⟨-, hconflict, rfl⟩ := register_eq_ok h
      rw [attempt_of_ok h, find?_insert hconflict, List.reverse_cons, List.find?_append,
        Option.or_assoc, List.find?_singleton]
      simp only [decide_eq_true_eq]
      split <;> rfl

/-- After any definitions have been offered to the empty registry or to the default one, whether they
were accepted or not: no name is in both tables; every command and every environment stands under its
own name, which fits its sort; the names are listed in strictly ascending order, and they are those that
stand for something. The next definition is refused exactly if its name does not fit, or fits and has a
definition of the other sort, and then the registry is left as it was. A name stands for the definition
of it that was accepted last, or else for the one that it had at first. -/
theorem attempts_invariant {base : Registry} (hbase : base = .empty ∨ base = .defaults)
    (ds : List Definition) :
    let r := base.attempts ds
    (∀ name, ¬ (r.commands.contains name ∧ r.environments.contains name)) ∧
    (∀ name c, r.command? name = some c → c.name = name ∧ Definition.isControlName name) ∧
    (∀ name e, r.environment? name = some e →
      e.name = name ∧ name ≠ [] ∧ ∀ x ∈ name, isAlphabetic x) ∧
    (r.names.Pairwise (· < ·) ∧ ∀ name, name ∈ r.names ↔ r.find? name ≠ none) ∧
    (∀ d error r', register d r = .error error r' ↔ r' = r ∧
      ((d.hasValidName = false ∧ error = .invalidName d.name) ∨
        (d.hasValidName = true ∧ r.conflicts d = true ∧
          error = .conflict d.name d.otherSort))) ∧
    (∀ name, r.find? name =
      ((base.accepted ds).reverse.find? fun d => d.name = name).or (base.find? name)) := by
  intro r
  have hr : r.IsSound := by
    rcases hbase with rfl | rfl
    · exact isSound_empty.attempts ds
    · exact isSound_defaults.attempts ds
  refine ⟨?_, ?_, ?_, ⟨hr.pairwise_names, mem_names_iff⟩, fun _ _ _ => register_eq_error_iff,
    find?_attempts base ds⟩
  · rintro name ⟨hc, he⟩
    rw [hr.disjoint hc] at he
    cases he
  · intro name c hc
    have hname : c.name = name := hr.name_eq (d := .command c) hc
    have hvalid : Definition.isControlName c.name := hr.hasValidName (d := .command c) hc
    exact ⟨hname, hname ▸ hvalid⟩
  · intro name e he
    have hname : e.name = name := hr.name_eq (d := .environment e) he
    have hvalid : Definition.isEnvironmentName e.name := hr.hasValidName (d := .environment e) he
    rw [hname] at hvalid
    exact ⟨hname, by simpa [Definition.isEnvironmentName] using hvalid⟩

/-- An environment for the examples below. -/
def box : Environment where
  name := "box".toList
  params := []
  raw := false
  generate _ body _ := .text body

/-- A second meaning of a default command. -/
def loud : Command where
  name := "verb".toList
  params := []
  generate _ := .ok "!".toList

/-- A new environment and a new meaning are accepted. A command with the name of an environment and
an environment with a blank in its name are refused. -/
theorem attempts_invariant_refused :
    let offered : List Definition := [.environment box, .command loud,
      .command ⟨"box".toList, [], loud.generate⟩, .environment ⟨"a b".toList, [], false, box.generate⟩]
    let r := defaults.attempts offered
    defaults.accepted offered = [.environment box, .command loud] ∧
    r.names = ["box", "colon", "docclass", "pysplice", "verb", "verbatim"].map String.toList ∧
    r.names.Pairwise (· < ·) ∧
    r.find? "verb".toList = some (.command loud) ∧
    r.find? "colon".toList = some (.command colon) ∧
    register (.command ⟨"pysplice".toList, [], loud.generate⟩) r =
      .error (.conflict "pysplice".toList "an environment".toList) r := by
  intro offered r
  obtain ⟨-, -, -, ⟨hsorted, -⟩, hrefused, hlast⟩ := attempts_invariant (.inr rfl) offered
  have haccepted : defaults.accepted offered = [.environment box, .command loud] := rfl
  have hkeys : r.commands.keys ++ r.environments.keys =
      ["docclass", "verb", "colon", "verbatim", "pysplice", "box"].map String.toList := by
    decide +kernel
  refine ⟨haccepted, ?_, hsorted, ?_, ?_, ?_⟩
  · -- There is only one strictly ascending list of these keys.
    have hperm : r.names.Perm
        (["box", "colon", "docclass", "pysplice", "verb", "verbatim"].map String.toList) :=
      (List.mergeSort_perm _ _).trans (hkeys ▸ by decide)
    exact hperm.eq_of_pairwise (fun _ _ _ _ hab hba => absurd hba (List.lt_asymm hab)) hsorted
      (by decide)
  · exact (hlast _).trans (by rw [haccepted]; rfl)
  · exact (hlast _).trans (by rw [haccepted]; rfl)
  · exact (hrefused _ _ _).2 ⟨rfl, .inr ⟨rfl, rfl, rfl⟩⟩

end Attempts

end IndentTex.Registry
