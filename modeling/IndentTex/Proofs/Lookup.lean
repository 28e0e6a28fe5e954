import IndentTex.Registry.Defaults
import Mathlib.Tactic.Lemma

/-!
# Looking up definitions

What a table gives for a key after it has been changed, and what that means for the definitions that a
registry finds. A registry looks into two tables, and its commands come first. Everything that is
proved about readers goes through the lemmas of this module and not through the tables.
-/

namespace IndentTex

/-! ### Tables -/

namespace Table

variable {α β : Type}

/-- The first entry is taken if its key is looked for. -/
lemma lookup_cons (entry : Text × α) (entries : List (Text × α)) (key : Text) :
    (entry :: entries).lookup key = if entry.1 = key then some entry.2 else entries.lookup key := by
  rw [List.lookup_cons]
  split
  case h_1 h => rw [if_pos (beq_iff_eq.1 h).symm]
  case h_2 h => rw [if_neg fun he => beq_eq_false_iff_ne.1 h he.symm]

/-- Among entries, only the key that is set gets another value. -/
lemma lookup_set (key k : Text) (value : α) (entries : List (Text × α)) :
    (set key value entries).lookup k = if key = k then some value else entries.lookup k := by
  induction entries with
  | nil => exact lookup_cons (key, value) [] k
  | cons entry entries ih =>
    rw [set]
    split
    case isTrue heq =>
      rw [lookup_cons, lookup_cons, heq]
      split <;> rfl
    case isFalse hne =>
      rw [lookup_cons, lookup_cons, ih]
      -- The entry that is passed does not have the key that is set.
      split
      case isTrue he => rw [if_neg fun hk => hne (he.trans hk.symm)]
      case isFalse => rfl

/-- The key that is set has the new value, and all other keys have the value that they had. -/
lemma find?_insert (t : Table α) (key k : Text) (value : α) :
    (t.insert key value).find? k = if key = k then some value else t.find? k :=
  lookup_set key k value t.entries

/-- Changing the values changes what is found. -/
lemma find?_map (f : α → β) (t : Table α) (key : Text) :
    (t.map f).find? key = (t.find? key).map f := by
  change (t.entries.map fun entry => (entry.1, f entry.2)).lookup key = (t.entries.lookup key).map f
  induction t.entries with
  | nil => rfl
  | cons entry entries ih =>
    rw [List.map_cons, lookup_cons, lookup_cons, ih]
    split <;> rfl

/-- The keys are those with a value. -/
lemma mem_keys_iff (t : Table α) (key : Text) : key ∈ t.keys ↔ t.contains key := by
  change key ∈ t.entries.map Prod.fst ↔ (t.entries.lookup key).isSome
  induction t.entries with
  | nil => simp
  | cons entry entries ih =>
    rw [List.map_cons, List.mem_cons, lookup_cons, ih]
    split
    case isTrue h => simp [h]
    case isFalse h => simp [Ne.symm h]

end Table

/-! ### Registries -/

namespace Registry

variable {r : Registry} {name : Text} {d : Definition}

/-- What is found is a command exactly if the name has one, since commands come first. -/
lemma find?_eq_command_iff {c : Command} :
    r.find? name = some (.command c) ↔ r.command? name = some c := by
  unfold find?
  cases r.command? name with
  | none => cases r.environment? name <;> simp
  | some c' => simp

/-- An environment is found where no command has its name. -/
lemma find?_eq_environment_iff {e : Environment} :
    r.find? name = some (.environment e) ↔
      r.command? name = none ∧ r.environment? name = some e := by
  unfold find?
  cases r.command? name with
  | none => cases r.environment? name <;> simp
  | some c => simp

/-- Nothing is found where neither table has the name. -/
lemma find?_eq_none_iff :
    r.find? name = none ↔ r.command? name = none ∧ r.environment? name = none := by
  unfold find?
  simp

/-- The command with a name is what the name stands for, if that is a command. -/
lemma command?_eq_find? (r : Registry) (name : Text) :
    r.command? name = match r.find? name with
      | some (.command c) => some c
      | _ => none := by
  unfold find?
  cases r.command? name with
  | none => cases r.environment? name <;> rfl
  | some c => rfl

/-- Entering a command changes the command of its name only. -/
lemma find?_insert_command (r : Registry) (c : Command) (name : Text) :
    (r.insert (.command c)).find? name =
      if c.name = name then some (.command c) else r.find? name := by
  unfold find? command?
  rw [insert, Table.find?_insert]
  split <;> rfl

/-- A definition that is entered without a conflict is what its name stands for, and other names stand
for what they did. -/
lemma find?_insert (hd : r.conflicts d = false) (name : Text) :
    (r.insert d).find? name = if d.name = name then some d else r.find? name := by
  cases d with
  | command c => exact find?_insert_command r c name
  | environment e =>
    change ((r.command? name).map Definition.command).or
      (((r.environments.insert e.name e).find? name).map .environment) = _
    rw [Table.find?_insert]
    split
    case isTrue hname =>
      -- The name has no command that would come first.
      have hnone : r.command? name = none := by
        rw [← hname]
        exact Option.isNone_iff_eq_none.1 (Option.isSome_eq_false_iff.1 hd)
      rw [hnone]
      exact (if_pos hname).symm
    case isFalse hname => exact (if_neg hname).symm

/-- The registry with every command and every environment changed. -/
def map (f : Command → Command) (g : Environment → Environment) (r : Registry) : Registry :=
  ⟨r.commands.map f, r.environments.map g⟩

/-- What is found in a changed registry is what was found before, changed. -/
lemma find?_map {f : Command → Command} {g : Environment → Environment}
    {change : Definition → Definition} (hf : ∀ c, change (.command c) = .command (f c))
    (hg : ∀ e, change (.environment e) = .environment (g e)) (r : Registry) (name : Text) :
    (r.map f g).find? name = (r.find? name).map change := by
  unfold find? command? environment? map
  rw [Table.find?_map, Table.find?_map]
  cases r.commands.find? name with
  | none => cases r.environments.find? name <;> simp [hg]
  | some c => simp [hf]

/-- What can be found among the default definitions. -/
lemma defaults_cases (h : defaults.find? name = some d) :
    name = d.name ∧ (d = .command colon ∨ d = .command docclass ∨ d = .environment pysplice ∨
      d = .command verb ∨ d = .environment verbatim) := by
  have hcommands : defaults.commands =
    ((Table.empty.insert docclass.name docclass).insert verb.name verb).insert colon.name colon := rfl
  have henvironments : defaults.environments =
    (Table.empty.insert verbatim.name verbatim).insert pysplice.name pysplice := rfl
  cases d with
  | command c =>
    rw [find?_eq_command_iff, command?, hcommands, Table.find?_insert, Table.find?_insert,
      Table.find?_insert] at h
    split at h
    case isTrue hname =>
      cases h
      exact ⟨hname.symm, Or.inl rfl⟩
    split at h
    case isTrue hname =>
      cases h
      exact ⟨hname.symm, Or.inr (Or.inr (Or.inr (Or.inl rfl)))⟩
    split at h
    case isTrue hname =>
      cases h
      exact ⟨hname.symm, Or.inr (Or.inl rfl)⟩
    case isFalse => cases h
  | environment e =>
    replace h := (find?_eq_environment_iff.1 h).2
    rw [environment?, henvironments, Table.find?_insert, Table.find?_insert] at h
    split at h
    case isTrue hname =>
      cases h
      exact ⟨hname.symm, Or.inr (Or.inr (Or.inl rfl))⟩
    split at h
    case isTrue hname =>
      cases h
      exact ⟨hname.symm, Or.inr (Or.inr (Or.inr (Or.inr rfl)))⟩
    case isFalse => cases h

end Registry

end IndentTex
