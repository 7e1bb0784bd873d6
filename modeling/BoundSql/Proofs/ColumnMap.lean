import Mathlib.Data.List.Dedup
import Mathlib.Data.List.Induction
import BoundSql.ColumnMap

/-!
Maps over their whole history. Whatever has been put and put again, a map lists each of its keys
once, in the order of the first puts, and with the value of the last put.

The same map can be kept in two parts: a list of the keys in their order, and a store that finds
values but knows no order. Listing such a map passes over a key that is not in the store, and a
value whose key is not in the list is never shown. The parts are changed one by one, so it takes a
proof that they stay in step; then both forms show the same at every point of every history.
-/

namespace BoundSql

namespace ColumnMap

variable {α : Type}

/-- A change of a map. -/
inductive Edit (α : Type) where
  | put (key : String) (value : α)
  | extend (pairs : List (String × α))
  /-- Takes a new map of some pairs in the place of the old one. -/
  | collect (pairs : List (String × α))

def edit (map : ColumnMap α) : Edit α → ColumnMap α
  | .put key value => map.put key value
  | .extend pairs => map.extend pairs
  | .collect pairs => ofPairs pairs

/-- The map after some edits, made in order on the empty one. -/
def ofEdits (edits : List (Edit α)) : ColumnMap α :=
  edits.foldl edit empty

/-- The puts that a map has seen after one more edit. -/
def Edit.seen (before : List (String × α)) : Edit α → List (String × α)
  | .put key value => before ++ [(key, value)]
  | .extend pairs => before ++ pairs
  | .collect pairs => pairs

/-- The puts that led to the map after some edits. -/
def puts (edits : List (Edit α)) : List (String × α) :=
  edits.foldl Edit.seen []

theorem extend_append (map : ColumnMap α) (front back : List (String × α)) :
    map.extend (front ++ back) = (map.extend front).extend back :=
  List.foldl_append

theorem ofPairs_append_singleton (pairs : List (String × α)) (key : String) (value : α) :
    ofPairs (pairs ++ [(key, value)]) = (ofPairs pairs).put key value :=
  extend_append empty pairs [(key, value)]

/-- Only the puts of a history count. -/
theorem ofEdits_eq_ofPairs (edits : List (Edit α)) : ofEdits edits = ofPairs (puts edits) := by
  induction edits using List.reverseRecOn with
  | nil => rfl
  | append_singleton rest last ih =>
      have hmap : ofEdits (rest ++ [last]) = (ofEdits rest).edit last := by
        simp [ofEdits]
      have hputs : puts (rest ++ [last]) = last.seen (puts rest) := by
        simp [puts]
      rw [hmap, hputs, ih]
      cases last with
      | put key value => exact (ofPairs_append_singleton (puts rest) key value).symm
      | extend pairs => exact (extend_append empty (puts rest) pairs).symm
      | collect pairs => rfl

theorem size_eq_length_keys (map : ColumnMap α) : map.size = map.keys.length := by
  simp [size, keys]

theorem isEmpty_iff_size (map : ColumnMap α) : map.isEmpty = true ↔ map.size = 0 := by
  rw [isEmpty, size, List.isEmpty_iff, List.length_eq_zero_iff]

/-- The keys of a map are those that have a value. -/
theorem mem_keys_iff (map : ColumnMap α) (key : String) :
    key ∈ map.keys ↔ (map.get? key).isSome = true := by
  rw [get?, List.lookup_isSome_iff, keys, List.mem_map]
  constructor
  · rintro ⟨entry, hentry, rfl⟩
    exact ⟨entry, hentry, beq_self_eq_true _⟩
  · rintro ⟨entry, hentry, hkey⟩
    exact ⟨entry, hentry, (beq_iff_eq.mp hkey).symm⟩

/-- A key that is put again is not listed again. -/
theorem nodup_keys_put {map : ColumnMap α} (h : map.keys.Nodup) (key : String) (value : α) :
    (map.put key value).keys.Nodup := by
  rw [keys_put]
  split
  · exact h
  · rename_i hnew
    rw [← List.concat_eq_append]
    exact h.concat hnew

/-- Keys come in the order of their first puts. -/
theorem keys_ofPairs (pairs : List (String × α)) :
    (ofPairs pairs).keys = (pairs.map Prod.fst).eraseDups := by
  induction pairs using List.reverseRecOn with
  | nil => rfl
  | append_singleton rest last ih =>
      obtain ⟨key, value⟩ := last
      rw [ofPairs_append_singleton, keys_put, ih, List.map_append, List.eraseDups_append]
      by_cases hkey : key ∈ rest.map Prod.fst
      · simp [List.removeAll, hkey]
      · simp [List.removeAll, hkey, List.eraseDups_cons]

theorem eraseDups_keys_eq_nil_iff (pairs : List (String × α)) :
    (pairs.map Prod.fst).eraseDups = [] ↔ pairs = [] := by
  cases pairs with
  | nil => simp
  | cons pair rest => simp [List.eraseDups_cons]

theorem nodup_keys_ofPairs (pairs : List (String × α)) : (ofPairs pairs).keys.Nodup := by
  induction pairs using List.reverseRecOn with
  | nil => exact List.nodup_nil
  | append_singleton rest last ih =>
      rw [ofPairs_append_singleton]
      exact nodup_keys_put ih last.1 last.2

/-- A key has the value of its last put. -/
theorem get?_ofPairs (pairs : List (String × α)) (key : String) :
    (ofPairs pairs).get? key = pairs.reverse.lookup key := by
  induction pairs using List.reverseRecOn with
  | nil => rfl
  | append_singleton rest last ih =>
      obtain ⟨k, value⟩ := last
      rw [ofPairs_append_singleton, get?_put, ih, List.reverse_append, List.reverse_singleton,
        List.singleton_append, List.lookup_cons]
      by_cases hkey : key = k
      · simp [hkey]
      · simp [hkey, beq_eq_false_iff_ne.mpr hkey]

private theorem map_entries {entries : List (String × α)} (h : (entries.map Prod.fst).Nodup) :
    entries.map (fun (key, value) => (key, some value)) =
      (entries.map Prod.fst).map fun key => (key, entries.lookup key) := by
  induction entries with
  | nil => rfl
  | cons entry rest ih =>
      obtain ⟨hnew, hrest⟩ := List.nodup_cons.mp h
      have hothers : (rest.map Prod.fst).map (fun key => (key, rest.lookup key)) =
          (rest.map Prod.fst).map fun key => (key, (entry :: rest).lookup key) := by
        apply List.map_congr_left
        intro key hkey
        have hne : key ≠ entry.1 := by
          rintro rfl
          exact hnew hkey
        rw [List.lookup_cons, beq_eq_false_iff_ne.mpr hne]
      have hfirst : (entry :: rest).lookup entry.1 = some entry.2 := List.lookup_cons_self
      rw [List.map_cons, List.map_cons, List.map_cons, ih hrest, hothers, hfirst]

/-- Where no key occurs twice, the entries are the keys with what is found under them. -/
theorem map_entries_eq {map : ColumnMap α} (h : map.keys.Nodup) :
    map.entries.map (fun (key, value) => (key, some value)) =
      map.keys.map fun key => (key, map.get? key) :=
  map_entries h

/-- Looking a key up and finding its entry are the same, as long as no key is there twice. -/
theorem get?_eq_some_iff {map : ColumnMap α} (h : map.keys.Nodup) (key : String) (value : α) :
    map.get? key = some value ↔ (key, value) ∈ map.entries := by
  have hmem : (key, value) ∈ map.entries ↔
      (key, some value) ∈ map.entries.map fun (key, value) => (key, some value) := by
    simp
  rw [hmem, map_entries_eq h]
  constructor
  · intro hget
    have hkey : key ∈ map.keys := by
      rw [mem_keys_iff, hget]
      rfl
    exact List.mem_map.mpr ⟨key, hkey, by rw [hget]⟩
  · intro hentry
    obtain ⟨other, _, hpair⟩ := List.mem_map.mp hentry
    obtain ⟨rfl, hget⟩ := Prod.mk.inj hpair
    exact hget

/-- What a map shows is the list of some puts with each key in the place of its first put and the
value of its last. -/
structure ListsPuts (map : ColumnMap α) (pairs : List (String × α)) : Prop where
  entries_eq : map.entries.map (fun (key, value) => (key, some value)) =
    (pairs.map Prod.fst).eraseDups.map fun key => (key, pairs.reverse.lookup key)
  keys_eq : map.keys = (pairs.map Prod.fst).eraseDups
  nodup_keys : map.keys.Nodup
  size_eq_distinct : map.size = (pairs.map Prod.fst).eraseDups.length
  size_eq_length : map.size = map.entries.length
  isEmpty_iff : map.isEmpty = true ↔ pairs = []
  get?_iff : ∀ key value, map.get? key = some value ↔ (key, value) ∈ map.entries
  contains_iff : ∀ key, map.contains key = true ↔ key ∈ map.keys

theorem listsPuts_ofPairs (pairs : List (String × α)) : (ofPairs pairs).ListsPuts pairs := by
  have hkeys := keys_ofPairs pairs
  have hnodup := nodup_keys_ofPairs pairs
  have hsize : (ofPairs pairs).size = (pairs.map Prod.fst).eraseDups.length := by
    rw [size_eq_length_keys, hkeys]
  refine ⟨?_, hkeys, hnodup, hsize, rfl, ?_, ?_, ?_⟩
  · rw [map_entries_eq hnodup, hkeys]
    simp only [get?_ofPairs]
  · rw [isEmpty_iff_size, hsize, List.length_eq_zero_iff]
    exact eraseDups_keys_eq_nil_iff pairs
  · intro key value
    exact get?_eq_some_iff hnodup key value
  · intro key
    exact ((ofPairs pairs).mem_keys_iff key).symm

end ColumnMap

/-- A map as the list of its keys in order, and a store for the values that has no order. -/
structure IndexedStore (α : Type) where
  order : List String := []
  values : Std.HashMap String α := {}

namespace IndexedStore

variable {α : Type}

def empty : IndexedStore α := {}

/-- A key that the store does not know yet comes last in the order. The value goes into the store in
any case. -/
def put (store : IndexedStore α) (key : String) (value : α) : IndexedStore α :=
  { order := if store.values.contains key then store.order else store.order ++ [key]
    values := store.values.insert key value }

def extend (store : IndexedStore α) (pairs : List (String × α)) : IndexedStore α :=
  pairs.foldl (fun built (key, value) => built.put key value) store

def edit (store : IndexedStore α) : ColumnMap.Edit α → IndexedStore α
  | .put key value => store.put key value
  | .extend pairs => store.extend pairs
  | .collect pairs => empty.extend pairs

def ofEdits (edits : List (ColumnMap.Edit α)) : IndexedStore α :=
  edits.foldl edit empty

/-- The keys in order with their values. A key without a value is passed over. -/
def entries (store : IndexedStore α) : List (String × α) :=
  store.order.filterMap fun key => store.values[key]?.map fun value => (key, value)

def keys (store : IndexedStore α) : List String :=
  store.entries.map Prod.fst

/-- Carries a state along the entries in order. -/
def each {σ : Type} (store : IndexedStore α) (visit : σ → String → α → σ) (state : σ) : σ :=
  store.entries.foldl (fun state (key, value) => visit state key value) state

/-- The order lists the keys of the store, each once. -/
structure InStep (store : IndexedStore α) : Prop where
  nodup : store.order.Nodup
  mem_order_iff : ∀ key, key ∈ store.order ↔ key ∈ store.values

/-- Both forms of a map have the same keys in the same order, and find the same under every key. -/
structure Represents (store : IndexedStore α) (map : ColumnMap α) : Prop where
  order_eq : store.order = map.keys
  getElem?_eq : ∀ key, store.values[key]? = map.get? key
  size_eq : store.values.size = map.size

theorem represents_empty : Represents (empty : IndexedStore α) .empty := by
  refine ⟨rfl, ?_, ?_⟩
  · intro key
    exact Std.HashMap.getElem?_empty
  · exact Std.HashMap.size_empty

theorem Represents.contains_iff {store : IndexedStore α} {map : ColumnMap α}
    (h : store.Represents map) (key : String) : key ∈ store.values ↔ key ∈ map.keys := by
  rw [Std.HashMap.mem_iff_isSome_getElem?, h.getElem?_eq, map.mem_keys_iff]

/-- One put keeps both forms together. -/
theorem Represents.put {store : IndexedStore α} {map : ColumnMap α} (h : store.Represents map)
    (key : String) (value : α) : (store.put key value).Represents (map.put key value) := by
  have hcontains : store.values.contains key = true ↔ key ∈ map.keys := by
    rw [Std.HashMap.contains_iff_mem]
    exact h.contains_iff key
  refine ⟨?_, ?_, ?_⟩
  · rw [ColumnMap.keys_put, IndexedStore.put, h.order_eq]
    simp only [hcontains]
  · intro other
    rw [ColumnMap.get?_put, IndexedStore.put, Std.HashMap.getElem?_insert, h.getElem?_eq]
    simp only [beq_iff_eq, eq_comm (a := key)]
  · rw [ColumnMap.size_eq_length_keys, ColumnMap.keys_put, IndexedStore.put,
      Std.HashMap.size_insert, h.size_eq, ColumnMap.size_eq_length_keys]
    simp only [h.contains_iff]
    split <;> simp

theorem Represents.extend {store : IndexedStore α} {map : ColumnMap α} (h : store.Represents map)
    (pairs : List (String × α)) : (store.extend pairs).Represents (map.extend pairs) := by
  induction pairs generalizing store map with
  | nil => exact h
  | cons pair rest ih => exact ih (h.put pair.1 pair.2)

/-- So does one edit, and so does a history of edits. -/
theorem Represents.edit {store : IndexedStore α} {map : ColumnMap α} (h : store.Represents map)
    (next : ColumnMap.Edit α) : (store.edit next).Represents (map.edit next) := by
  cases next with
  | put key value => exact h.put key value
  | extend pairs => exact h.extend pairs
  | collect pairs => exact represents_empty.extend pairs

/-- By induction on the edits, store and map stay in correspondence. -/
theorem represents_ofEdits (edits : List (ColumnMap.Edit α)) :
    (ofEdits edits).Represents (ColumnMap.ofEdits edits) := by
  have hrun (store : IndexedStore α) (map : ColumnMap α) (h : store.Represents map) :
      (edits.foldl IndexedStore.edit store).Represents (edits.foldl ColumnMap.edit map) := by
    induction edits generalizing store map with
    | nil => exact h
    | cons next rest ih => exact ih (store.edit next) (map.edit next) (h.edit next)
  exact hrun empty .empty represents_empty

theorem Represents.inStep {store : IndexedStore α} {map : ColumnMap α} (h : store.Represents map)
    (hnodup : map.keys.Nodup) : store.InStep := by
  refine ⟨?_, ?_⟩
  · rw [h.order_eq]
    exact hnodup
  · intro key
    rw [h.contains_iff, h.order_eq]

/-- No key is passed over, so both forms list the same entries. -/
theorem Represents.entries_eq {store : IndexedStore α} {map : ColumnMap α}
    (h : store.Represents map) (hnodup : map.keys.Nodup) : store.entries = map.entries := by
  have hentry (entry : String × Option α) :
      (entry.2.map fun value => (entry.1, value)) = entry.2.map (Prod.mk entry.1) := rfl
  calc
    store.entries
        = (map.keys.map fun key => (key, map.get? key)).filterMap
            (fun entry => entry.2.map (Prod.mk entry.1)) := by
          rw [entries, h.order_eq, List.filterMap_map]
          simp only [h.getElem?_eq]
          rfl
    _ = (map.entries.map fun (key, value) => (key, some value)).filterMap
            (fun entry => entry.2.map (Prod.mk entry.1)) := by
          rw [ColumnMap.map_entries_eq hnodup]
    _ = map.entries := by
          simp [List.filterMap_map]

/-- Whatever can be asked of a map has the same answer in both forms. -/
structure AgreesWith (store : IndexedStore α) (map : ColumnMap α) : Prop where
  entries_eq : store.entries = map.entries
  keys_eq : store.keys = map.keys
  each_eq : ∀ {σ : Type} (visit : σ → String → α → σ) (state : σ), store.each visit state =
    map.entries.foldl (fun state (key, value) => visit state key value) state
  size_eq : store.values.size = map.size
  isEmpty_eq : store.values.isEmpty = map.isEmpty
  getElem?_eq : ∀ key, store.values[key]? = map.get? key
  contains_eq : ∀ key, store.values.contains key = map.contains key

theorem Represents.agreesWith {store : IndexedStore α} {map : ColumnMap α}
    (h : store.Represents map) (hnodup : map.keys.Nodup) : store.AgreesWith map := by
  have hentries := h.entries_eq hnodup
  refine ⟨hentries, ?_, ?_, h.size_eq, ?_, h.getElem?_eq, ?_⟩
  · rw [keys, hentries]
    rfl
  · intro σ visit state
    rw [each, hentries]
  · rw [Std.HashMap.isEmpty_eq_size_eq_zero, h.size_eq, Bool.eq_iff_iff, beq_iff_eq,
      ColumnMap.isEmpty_iff_size]
  · intro key
    rw [Std.HashMap.contains_eq_isSome_getElem?, h.getElem?_eq]
    rfl

end IndexedStore

/-- After every history of edits the two parts of a map are in step, so that nothing is passed over,
and the map shows the same as the list of its entries. That is the list of the puts of the history,
with each key once: in the place of its first put, with the value of its last. -/
theorem inStep_and_listsPuts_ofEdits {α : Type} (edits : List (ColumnMap.Edit α)) :
    (IndexedStore.ofEdits edits).InStep ∧
      (IndexedStore.ofEdits edits).AgreesWith (ColumnMap.ofEdits edits) ∧
      (ColumnMap.ofEdits edits).ListsPuts (ColumnMap.puts edits) := by
  have hrepresents := IndexedStore.represents_ofEdits edits
  have hputs : (ColumnMap.ofEdits edits).ListsPuts (ColumnMap.puts edits) := by
    rw [ColumnMap.ofEdits_eq_ofPairs]
    exact ColumnMap.listsPuts_ofPairs (ColumnMap.puts edits)
  exact ⟨hrepresents.inStep hputs.nodup_keys, hrepresents.agreesWith hputs.nodup_keys, hputs⟩

example : (ColumnMap.ofEdits [.put "a" 1, .extend [("b", 2), ("a", 3)]]).entries =
    [("a", 3), ("b", 2)] := by decide

end BoundSql
