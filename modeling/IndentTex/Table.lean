import IndentTex.Text.Basic

/-!
# Tables

Finite maps whose keys are texts. A key has at most one value, and nothing depends on the order of the
entries.
-/

namespace IndentTex

namespace Table

/-- Entries with the value of a key set: in the place of the one that it had, or at the end. -/
def set {α : Type} (key : Text) (value : α) : List (Text × α) → List (Text × α)
  | [] => [(key, value)]
  | entry :: entries =>
    if entry.1 = key then (key, value) :: entries else entry :: set key value entries

/-- Setting the value of a key adds no other key. -/
theorem mem_keys_set {α : Type} {key k : Text} {value : α} {entries : List (Text × α)}
    (h : k ∈ (set key value entries).map Prod.fst) : k = key ∨ k ∈ entries.map Prod.fst := by
  induction entries with
  | nil => exact Or.inl (List.mem_singleton.1 h)
  | cons entry entries ih =>
    rw [set] at h
    split at h
    case isTrue => exact (List.mem_cons.1 h).imp_right (List.mem_cons_of_mem _)
    case isFalse =>
      rcases List.mem_cons.1 h with rfl | h
      · exact Or.inr List.mem_cons_self
      · exact (ih h).imp_right (List.mem_cons_of_mem _)

/-- Setting the value of a key leaves the keys distinct. -/
theorem nodup_keys_set {α : Type} (key : Text) (value : α) {entries : List (Text × α)}
    (h : (entries.map Prod.fst).Nodup) : ((set key value entries).map Prod.fst).Nodup := by
  induction entries with
  | nil => exact List.nodup_cons.2 ⟨List.not_mem_nil, List.nodup_nil⟩
  | cons entry entries ih =>
    obtain ⟨hnew, hrest⟩ := List.nodup_cons.1 h
    rw [set]
    split
    case isTrue heq => exact List.nodup_cons.2 ⟨heq ▸ hnew, hrest⟩
    case isFalse hne =>
      refine List.nodup_cons.2 ⟨fun hmem => ?_, ih hrest⟩
      exact (mem_keys_set hmem).elim hne hnew

/-- Changing the values leaves the keys as they are. -/
theorem nodup_keys_map {α β : Type} (f : α → β) {entries : List (Text × α)}
    (h : (entries.map Prod.fst).Nodup) :
    ((entries.map fun entry => (entry.1, f entry.2)).map Prod.fst).Nodup := by
  rw [List.map_map]
  exact h

end Table

/-- A finite map from texts: entries with distinct keys. -/
structure Table (α : Type) where
  entries : List (Text × α)
  nodup : (entries.map Prod.fst).Nodup

namespace Table

variable {α β : Type}

/-- The table without entries. -/
def empty : Table α := ⟨[], List.nodup_nil⟩

/-- The value of a key. -/
def find? (t : Table α) (key : Text) : Option α := t.entries.lookup key

/-- Whether a key has a value. -/
def contains (t : Table α) (key : Text) : Bool := (t.find? key).isSome

/-- The keys that have a value. -/
def keys (t : Table α) : List Text := t.entries.map Prod.fst

/-- The table where a key has the given value, whether it had one before or not. -/
def insert (t : Table α) (key : Text) (value : α) : Table α :=
  ⟨set key value t.entries, nodup_keys_set key value t.nodup⟩

/-- The table with every value changed. -/
def map (f : α → β) (t : Table α) : Table β :=
  ⟨t.entries.map fun entry => (entry.1, f entry.2), nodup_keys_map f t.nodup⟩

end Table

end IndentTex
