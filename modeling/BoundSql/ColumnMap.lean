import BoundSql.Predicate

/-!
Maps keyed by column name that keep the order in which their keys were first put, because that is
the order in which they are written.
-/

namespace BoundSql

/-- A map from column names, as the list of its entries. -/
structure ColumnMap (α : Type) where
  entries : List (String × α) := []
  deriving BEq

/-- Values to be assigned to columns. -/
abbrev Assignments := ColumnMap Value

/-- Predicates on columns. -/
abbrev Tests := ColumnMap Predicate

namespace ColumnMap

variable {α : Type}

def empty : ColumnMap α := {}

/-- Puts an entry into a list: in the place of the entry with the same key, else at the end. -/
def putEntry (key : String) (value : α) : List (String × α) → List (String × α)
  | [] => [(key, value)]
  | (k, v) :: rest =>
      if k = key then (key, value) :: rest else (k, v) :: putEntry key value rest

def put (map : ColumnMap α) (key : String) (value : α) : ColumnMap α :=
  ⟨putEntry key value map.entries⟩

/-- Puts several entries in order. -/
def extend (map : ColumnMap α) (pairs : List (String × α)) : ColumnMap α :=
  pairs.foldl (fun built (key, value) => built.put key value) map

/-- A map of some entries; of several with one key the last value counts, in the first place. -/
def ofPairs (pairs : List (String × α)) : ColumnMap α :=
  empty.extend pairs

def get? (map : ColumnMap α) (key : String) : Option α :=
  map.entries.lookup key

def contains (map : ColumnMap α) (key : String) : Bool :=
  (map.get? key).isSome

def size (map : ColumnMap α) : Nat :=
  map.entries.length

def isEmpty (map : ColumnMap α) : Bool :=
  map.entries.isEmpty

def keys (map : ColumnMap α) : List String :=
  map.entries.map Prod.fst

theorem map_fst_putEntry (key : String) (value : α) (entries : List (String × α)) :
    (putEntry key value entries).map Prod.fst =
      if key ∈ entries.map Prod.fst then entries.map Prod.fst
      else entries.map Prod.fst ++ [key] := by
  induction entries with
  | nil => simp [putEntry]
  | cons entry rest ih =>
      obtain ⟨k, v⟩ := entry
      by_cases hk : k = key
      · simp [putEntry, hk]
      · by_cases hmem : key ∈ rest.map Prod.fst <;>
          simp_all [putEntry, eq_comm]

/-- A key that is put again keeps its place; a new one comes last. -/
theorem keys_put (map : ColumnMap α) (key : String) (value : α) :
    (map.put key value).keys =
      if key ∈ map.keys then map.keys else map.keys ++ [key] :=
  map_fst_putEntry key value map.entries

theorem lookup_putEntry (key other : String) (value : α) (entries : List (String × α)) :
    (putEntry key value entries).lookup other =
      if other = key then some value else entries.lookup other := by
  induction entries with
  | nil => grind [putEntry]
  | cons entry rest ih => grind [putEntry]

/-- The value put last is the one that is found. -/
theorem get?_put (map : ColumnMap α) (key other : String) (value : α) :
    (map.put key value).get? other = if other = key then some value else map.get? other :=
  lookup_putEntry key other value map.entries

end ColumnMap

end BoundSql
