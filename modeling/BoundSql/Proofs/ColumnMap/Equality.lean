import BoundSql.Proofs.ColumnMap
import BoundSql.Proofs.Lists

/-!
When maps are equal, and maps that are put together again from their own entries. Where a map is
kept in two parts, equality compares the order of the keys and then the stores, which know no order.
As long as the parts are in step, this comes to comparing the entries one by one, so that of the two
histories nothing else is left. A value need not be equal to itself, and then neither is a map that
has it.

What a map shows is all that there is to it. Collecting the entries gives the same map again, and
putting them once more changes nothing.
-/

namespace BoundSql

namespace ColumnMap

variable {α : Type}

/-- The same key, with values that are equal. -/
def SameEntry [BEq α] (entry other : String × α) : Prop :=
  entry.1 = other.1 ∧ (entry.2 == other.2) = true

/-- Equality goes through the entries: the same keys in the same order, with equal values. -/
theorem beq_iff_sameEntries [BEq α] {map other : ColumnMap α} :
    (map == other) = true ↔ List.Forall₂ SameEntry map.entries other.entries := by
  have hentries : (map == other) = (map.entries == other.entries) := rfl
  have hentry (entry entry' : String × α) :
      (entry == entry') = true ↔ SameEntry entry entry' := by
    change (entry.1 == entry'.1 && entry.2 == entry'.2) = true ↔ _
    rw [Bool.and_eq_true, beq_iff_eq, SameEntry]
  rw [hentries, beq_iff_forall₂]
  simp only [hentry]

/-- Where no key occurs twice, equality can be told from the keys and from what is found under
them. -/
theorem beq_iff_keys_and_get? [BEq α] {map other : ColumnMap α} (h : map.keys.Nodup)
    (hother : other.keys.Nodup) :
    (map == other) = true ↔
      map.keys = other.keys ∧ ∀ key ∈ map.keys, (map.get? key == other.get? key) = true := by
  have hfound : (map == other) = true ↔
      List.Forall₂ SameEntry (map.keys.map fun key => (key, map.get? key))
        (other.keys.map fun key => (key, other.get? key)) := by
    rw [← map_entries_eq h, ← map_entries_eq hother, List.forall₂_map_left_iff,
      List.forall₂_map_right_iff, beq_iff_sameEntries]
    rfl
  rw [hfound, List.forall₂_map_left_iff, List.forall₂_map_right_iff]
  constructor
  · intro hall
    have hkeys : map.keys = other.keys :=
      List.forall₂_eq_eq_eq ▸ hall.imp fun _ _ hentry => hentry.1
    rw [← hkeys, List.forall₂_same] at hall
    exact ⟨hkeys, fun key hkey => (hall key hkey).2⟩
  · rintro ⟨hkeys, hget⟩
    rw [← hkeys, List.forall₂_same]
    intro key hkey
    exact ⟨rfl, hget key hkey⟩

theorem putEntry_of_lookup {entries : List (String × α)} {key : String} {value : α}
    (h : entries.lookup key = some value) : putEntry key value entries = entries := by
  induction entries with
  | nil => cases h
  | cons entry rest ih =>
      obtain ⟨k, v⟩ := entry
      by_cases hkey : k = key
      · subst hkey
        rw [List.lookup_cons_self] at h
        obtain rfl := Option.some.inj h
        rw [putEntry, if_pos rfl]
      · have hne : (key == k) = false := beq_eq_false_iff_ne.mpr (Ne.symm hkey)
        rw [List.lookup_cons, hne] at h
        rw [putEntry, if_neg hkey, ih h]

/-- Putting what is there already changes nothing. -/
theorem put_of_get? {map : ColumnMap α} {key : String} {value : α}
    (h : map.get? key = some value) : map.put key value = map := by
  rw [put, putEntry_of_lookup h]

theorem extend_of_get? {map : ColumnMap α} {pairs : List (String × α)}
    (h : ∀ pair ∈ pairs, map.get? pair.1 = some pair.2) : map.extend pairs = map := by
  induction pairs with
  | nil => rfl
  | cons pair rest ih =>
      obtain ⟨hpair, hrest⟩ := List.forall_mem_cons.mp h
      have hput : map.extend (pair :: rest) = (map.put pair.1 pair.2).extend rest := rfl
      rw [hput, put_of_get? hpair, ih hrest]

theorem extend_entries {map : ColumnMap α} (h : map.keys.Nodup) :
    map.extend map.entries = map := by
  apply extend_of_get?
  intro pair hpair
  exact (get?_eq_some_iff h pair.1 pair.2).mpr hpair

theorem putEntry_of_not_mem {entries : List (String × α)} {key : String} (value : α)
    (h : key ∉ entries.map Prod.fst) : putEntry key value entries = entries ++ [(key, value)] := by
  induction entries with
  | nil => rfl
  | cons entry rest ih =>
      obtain ⟨k, v⟩ := entry
      obtain ⟨hkey, hrest⟩ := not_or.mp (fun hor => h (List.mem_cons.mpr hor))
      rw [putEntry, if_neg (Ne.symm hkey), ih hrest, List.cons_append]

/-- Pairs with distinct keys are the entries of the map of them. -/
theorem entries_ofPairs {pairs : List (String × α)} (h : (pairs.map Prod.fst).Nodup) :
    (ofPairs pairs).entries = pairs := by
  induction pairs using List.reverseRecOn with
  | nil => rfl
  | append_singleton rest last ih =>
      rw [List.map_append, List.map_singleton, ← List.concat_eq_append, List.nodup_concat] at h
      obtain ⟨hnew, hrest⟩ := h
      rw [ofPairs_append_singleton, put, ih hrest, putEntry_of_not_mem last.2 hnew]

theorem ofPairs_entries {map : ColumnMap α} (h : map.keys.Nodup) :
    ofPairs map.entries = map := by
  have hentries := entries_ofPairs h
  cases hmap : ofPairs map.entries with
  | mk entries =>
    rw [hmap] at hentries
    exact congrArg mk hentries

end ColumnMap

namespace IndexedStore

variable {α : Type} {store other : IndexedStore α} {map map' : ColumnMap α}

/-- Equality of both parts, one after the other. Stores are equal when they have as many keys and
every value of the first is equal to the one that the second has under its key. -/
def equal [BEq α] (store other : IndexedStore α) : Bool :=
  store.order == other.order && (store.values.size == other.values.size &&
    store.values.all fun key value => other.values[key]?.any fun found => value == found)

/-- The same order of keys, with the same stored values. -/
structure Same (store other : IndexedStore α) : Prop where
  order_eq : store.order = other.order
  getElem?_eq : ∀ key : String, store.values[key]? = other.values[key]?

theorem Represents.same (h : store.Represents map) (hother : other.Represents map) :
    store.Same other := by
  refine ⟨h.order_eq.trans hother.order_eq.symm, ?_⟩
  intro key
  rw [h.getElem?_eq, hother.getElem?_eq]

theorem Represents.all_iff (h : store.Represents map) (p : String → α → Bool) :
    store.values.all p = true ↔
      ∀ key value, map.get? key = some value → p key value = true := by
  rw [Std.HashMap.all_eq_true_iff_forall_mem_getElem]
  constructor
  · intro hall key value hget
    rw [← h.getElem?_eq] at hget
    obtain ⟨hmem, rfl⟩ := Std.HashMap.getElem?_eq_some_iff.mp hget
    exact hall key hmem
  · intro hall key hmem
    apply hall
    rw [← h.getElem?_eq, Std.HashMap.getElem?_eq_some_getElem hmem]

/-- Comparing both parts comes to comparing the entries. -/
theorem Represents.equal_iff [BEq α] (h : store.Represents map) (hnodup : map.keys.Nodup)
    (hother : other.Represents map') (hnodup' : map'.keys.Nodup) :
    store.equal other = true ↔ (map == map') = true := by
  have hfound (value : α) (found : Option α) :
      (some value == found) = found.any fun found => value == found := by
    cases found <;> rfl
  rw [equal, Bool.and_eq_true, Bool.and_eq_true, beq_iff_eq, beq_iff_eq, h.all_iff, h.order_eq,
    hother.order_eq, h.size_eq, hother.size_eq, ColumnMap.beq_iff_keys_and_get? hnodup hnodup']
  simp only [hother.getElem?_eq, ← hfound]
  constructor
  · rintro ⟨hkeys, _, hall⟩
    refine ⟨hkeys, ?_⟩
    intro key hkey
    obtain ⟨value, hget⟩ := Option.isSome_iff_exists.mp ((map.mem_keys_iff key).mp hkey)
    rw [hget]
    exact hall key value hget
  · rintro ⟨hkeys, hall⟩
    refine ⟨hkeys, ?_, ?_⟩
    · rw [map.size_eq_length_keys, map'.size_eq_length_keys, hkeys]
    · intro key value hget
      have hkey : key ∈ map.keys := by
        rw [map.mem_keys_iff, hget]
        rfl
      rw [← hget]
      exact hall key hkey

/-- Collecting the entries of a map gives the same map. -/
theorem Represents.same_collected (h : store.Represents map) (hnodup : map.keys.Nodup) :
    (empty.extend store.entries).Same store := by
  have hcollected : (empty.extend store.entries).Represents (ColumnMap.ofPairs store.entries) :=
    represents_empty.extend store.entries
  rw [h.entries_eq hnodup, ColumnMap.ofPairs_entries hnodup] at hcollected
  rw [h.entries_eq hnodup]
  exact hcollected.same h

/-- Putting the entries of a map once more changes nothing. -/
theorem Represents.same_extended (h : store.Represents map) (hnodup : map.keys.Nodup) :
    (store.extend store.entries).Same store := by
  have hextended : (store.extend store.entries).Represents (map.extend store.entries) :=
    h.extend store.entries
  rw [h.entries_eq hnodup, ColumnMap.extend_entries hnodup] at hextended
  rw [h.entries_eq hnodup]
  exact hextended.same h

end IndexedStore

theorem ColumnMap.nodup_keys_ofEdits {α : Type} (edits : List (Edit α)) :
    (ofEdits edits).keys.Nodup := by
  rw [ofEdits_eq_ofPairs]
  exact nodup_keys_ofPairs (puts edits)

/-- Two maps that have been made by any histories are equal exactly when they show the same keys in
the same order with equal values, whether they are compared as lists of entries or part by part. So
a map is equal to itself exactly when each of its values is. What a map shows puts it together
again: collecting the entries gives the same keys in the same order with the same values, and
putting the entries once more changes nothing. Putting pairs in two goes is the same as putting them
all. -/
theorem equality_and_rebuilding_ofEdits {α : Type} [BEq α] (edits others : List (ColumnMap.Edit α)) :
    let map := ColumnMap.ofEdits edits
    let store := IndexedStore.ofEdits edits
    let other := IndexedStore.ofEdits others
    (store.equal other = true ↔ List.Forall₂ ColumnMap.SameEntry store.entries other.entries) ∧
      store.equal other = (map == ColumnMap.ofEdits others) ∧
      (store.equal store = true ↔ ∀ entry ∈ store.entries, (entry.2 == entry.2) = true) ∧
      ((IndexedStore.empty.extend store.entries).Same store ∧
        ColumnMap.ofPairs map.entries = map) ∧
      ((store.extend store.entries).Same store ∧ map.extend map.entries = map) ∧
      ∀ front back, store.extend (front ++ back) = (store.extend front).extend back ∧
        map.extend (front ++ back) = (map.extend front).extend back := by
  intro map store other
  have hnodup : map.keys.Nodup := ColumnMap.nodup_keys_ofEdits edits
  have hnodup' : (ColumnMap.ofEdits others).keys.Nodup := ColumnMap.nodup_keys_ofEdits others
  have hstore : store.Represents map := IndexedStore.represents_ofEdits edits
  have hother : other.Represents (ColumnMap.ofEdits others) :=
    IndexedStore.represents_ofEdits others
  have hequal : store.equal other = true ↔ (map == ColumnMap.ofEdits others) = true :=
    hstore.equal_iff hnodup hother hnodup'
  refine ⟨?_, Bool.eq_iff_iff.mpr hequal, ?_, ?_, ?_, ?_⟩
  · rw [hequal, ColumnMap.beq_iff_sameEntries, hstore.entries_eq hnodup, hother.entries_eq hnodup']
  · rw [hstore.equal_iff hnodup hstore hnodup, ColumnMap.beq_iff_sameEntries, List.forall₂_same,
      hstore.entries_eq hnodup]
    simp only [ColumnMap.SameEntry, true_and]
  · exact ⟨hstore.same_collected hnodup, ColumnMap.ofPairs_entries hnodup⟩
  · exact ⟨hstore.same_extended hnodup, ColumnMap.extend_entries hnodup⟩
  · intro front back
    exact ⟨List.foldl_append, map.extend_append front back⟩

/-- A value that is not a number makes a map differ from itself. -/
theorem map_with_nan_ne_itself :
    let edits : List (ColumnMap.Edit Value) :=
      [.put "a" (.int 1), .extend [("b", .float (0.0 / 0.0)), ("a", .null)]]
    (ColumnMap.ofEdits edits).get? "b" = some (.float (0.0 / 0.0)) ∧
      (IndexedStore.ofEdits edits).equal (IndexedStore.ofEdits edits) = false := by
  intro edits
  obtain ⟨_, hparts, _⟩ := equality_and_rebuilding_ofEdits edits edits
  refine ⟨rfl, ?_⟩
  rw [hparts]
  decide +kernel

end BoundSql
