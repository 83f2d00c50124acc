import Mathlib.Data.List.Nodup
import Mathlib.Data.List.Lookmap

/-!
Finite dictionaries whose iteration order is the order of first insertion.

Overwriting a key keeps its position, removing a key closes the gap, and a
fresh key is appended.  Distinctness of the keys is a field, so every value of
the type can be looked up without a side condition.
-/

namespace CosmosRl.Foundation

open List

universe u v

/-- An association list without repeated keys. -/
structure Dict (Key : Type u) (Value : Type v) where
  entries : List (Key × Value)
  nodup : (entries.map Prod.fst).Nodup

namespace Dict

variable {Key : Type u} {Value : Type v}

@[ext]
theorem ext {first second : Dict Key Value}
    (equality : first.entries = second.entries) : first = second := by
  cases first
  cases second
  simpa using equality

instance [DecidableEq Key] [DecidableEq Value] : DecidableEq (Dict Key Value) :=
  fun first second =>
    decidable_of_iff (first.entries = second.entries)
      ⟨Dict.ext, congrArg Dict.entries⟩

def empty : Dict Key Value := ⟨[], by simp⟩

instance : EmptyCollection (Dict Key Value) := ⟨empty⟩

def keys (dict : Dict Key Value) : List Key := dict.entries.map Prod.fst

def values (dict : Dict Key Value) : List Value := dict.entries.map Prod.snd

def size (dict : Dict Key Value) : Nat := dict.entries.length

theorem nodup_keys (dict : Dict Key Value) : dict.keys.Nodup := dict.nodup

@[simp]
theorem entries_empty : (∅ : Dict Key Value).entries = [] := rfl

@[simp]
theorem keys_empty : (∅ : Dict Key Value).keys = [] := rfl

variable {dict : Dict Key Value} {key : Key}

theorem mem_keys_iff : key ∈ dict.keys ↔ ∃ value, (key, value) ∈ dict.entries := by
  simp [keys]

theorem value_unique {first second : Value} (firstEntry : (key, first) ∈ dict.entries)
    (secondEntry : (key, second) ∈ dict.entries) : first = second := by
  have equality := inj_on_of_nodup_map dict.nodup firstEntry secondEntry rfl
  exact congrArg Prod.snd equality

def filter (test : Key → Value → Bool) (dict : Dict Key Value) : Dict Key Value where
  entries := dict.entries.filter fun entry => test entry.1 entry.2
  nodup := dict.nodup.sublist (List.Sublist.map Prod.fst List.filter_sublist)

@[simp]
theorem mem_entries_filter {test : Key → Value → Bool} {entry : Key × Value} :
    entry ∈ (dict.filter test).entries ↔
      entry ∈ dict.entries ∧ test entry.1 entry.2 = true := by
  simp [filter]

def mapValues (change : Key → Value → Value) (dict : Dict Key Value) :
    Dict Key Value where
  entries := dict.entries.map fun entry => (entry.1, change entry.1 entry.2)
  nodup := by simpa [List.map_map, Function.comp_def] using dict.nodup

@[simp]
theorem keys_mapValues (change : Key → Value → Value) (dict : Dict Key Value) :
    (dict.mapValues change).keys = dict.keys := by
  simp [keys, mapValues, map_map, Function.comp_def]

theorem mem_entries_mapValues {change : Key → Value → Value} {value : Value} :
    (key, value) ∈ (dict.mapValues change).entries ↔
      ∃ old, (key, old) ∈ dict.entries ∧ change key old = value := by
  constructor
  · intro membership
    obtain ⟨⟨key', old⟩, found, equality⟩ := mem_map.mp membership
    cases equality
    exact ⟨old, found, rfl⟩
  · rintro ⟨old, found, rfl⟩
    exact mem_map.mpr ⟨(key, old), found, rfl⟩

section Lookup

variable [DecidableEq Key]

def get? (dict : Dict Key Value) (key : Key) : Option Value :=
  (dict.entries.find? fun entry => entry.1 = key).map Prod.snd

def contains (dict : Dict Key Value) (key : Key) : Bool := decide (key ∈ dict.keys)

/-- Remove a key.  The entries behind it move up. -/
def erase (dict : Dict Key Value) (key : Key) : Dict Key Value :=
  dict.filter fun other _ => decide (other ≠ key)

/-- Change the value of a key where it stands, if it is there. -/
def modify (dict : Dict Key Value) (key : Key) (change : Value → Value) :
    Dict Key Value :=
  dict.mapValues fun other value => if other = key then change value else value

/-- Assign a value to a key: in place if the key is there, at the end if it is not. -/
def set (dict : Dict Key Value) (key : Key) (value : Value) : Dict Key Value :=
  if present : key ∈ dict.keys then
    dict.modify key fun _ => value
  else
    { entries := dict.entries ++ [(key, value)]
      nodup := by
        rw [List.map_append, List.nodup_append]
        refine ⟨dict.nodup, by simp, ?_⟩
        intro first inside second last equality
        simp only [List.map_cons, List.map_nil, List.mem_singleton] at last
        exact present (by rw [← last, ← equality]; exact inside) }

variable {dict : Dict Key Value} {key : Key} {value : Value} {entries : List (Key × Value)}

theorem get?_eq_some_iff : dict.get? key = some value ↔ (key, value) ∈ dict.entries := by
  constructor
  · intro found
    simp only [get?, Option.map_eq_some_iff] at found
    obtain ⟨⟨key', value'⟩, search, rfl⟩ := found
    have same : key' = key := by simpa using find?_some search
    subst same
    exact mem_of_find?_eq_some search
  · intro membership
    cases search : dict.entries.find? fun entry => entry.1 = key with
    | none =>
      have absent := find?_eq_none.mp search (key, value) membership
      simp at absent
    | some entry =>
      obtain ⟨key', value'⟩ := entry
      have same : key' = key := by simpa using find?_some search
      subst same
      have stored := mem_of_find?_eq_some search
      simp [get?, search, value_unique stored membership]

theorem get?_eq_none_iff : dict.get? key = none ↔ key ∉ dict.keys := by
  rw [Option.eq_none_iff_forall_ne_some, mem_keys_iff]
  simp only [ne_eq, get?_eq_some_iff, not_exists]

theorem mem_keys_iff_get? : key ∈ dict.keys ↔ ∃ value, dict.get? key = some value := by
  simp only [mem_keys_iff, get?_eq_some_iff]

@[simp]
theorem get?_empty (key : Key) : (∅ : Dict Key Value).get? key = none := rfl

@[simp]
theorem contains_iff : dict.contains key = true ↔ key ∈ dict.keys := by
  simp [contains]

theorem get?_modify (dict : Dict Key Value) (key other : Key) (change : Value → Value) :
    (dict.modify key change).get? other =
      if other = key then (dict.get? other).map change else dict.get? other := by
  apply Option.ext
  intro value
  rw [get?_eq_some_iff, modify, mem_entries_mapValues]
  by_cases same : other = key
  · simp [same, ← get?_eq_some_iff]
  · simp [same, ← get?_eq_some_iff]

@[simp]
theorem keys_modify (dict : Dict Key Value) (key : Key) (change : Value → Value) :
    (dict.modify key change).keys = dict.keys := keys_mapValues _ _

theorem get?_erase (dict : Dict Key Value) (key other : Key) :
    (dict.erase key).get? other = if other = key then none else dict.get? other := by
  apply Option.ext
  intro value
  rw [get?_eq_some_iff, erase, mem_entries_filter]
  by_cases same : other = key
  · simp [same]
  · simp [same, get?_eq_some_iff]

@[simp]
theorem mem_keys_erase {other : Key} :
    other ∈ (dict.erase key).keys ↔ other ∈ dict.keys ∧ other ≠ key := by
  rw [mem_keys_iff_get?, mem_keys_iff_get?, get?_erase]
  by_cases same : other = key <;> simp [same]

theorem keys_erase (dict : Dict Key Value) (key : Key) :
    (dict.erase key).keys = dict.keys.filter fun other => decide (other ≠ key) := by
  simp [keys, erase, filter, filter_map, Function.comp_def]

theorem entries_erase_head
    {rest : List (Key × Value)} (oldest : dict.entries = (key, value) :: rest) :
    (dict.erase key).entries = rest := by
  have distinct := dict.nodup
  rw [oldest, map_cons, nodup_cons] at distinct
  have kept : (dict.erase key).entries =
      dict.entries.filter fun entry => decide (entry.1 ≠ key) := rfl
  rw [kept, oldest, filter_cons_of_neg (by simp), filter_eq_self]
  intro entry member
  refine decide_eq_true fun same => distinct.1 ?_
  exact mem_map.mpr ⟨entry, member, same⟩

theorem get?_set (dict : Dict Key Value) (key other : Key) (value : Value) :
    (dict.set key value).get? other =
      if other = key then some value else dict.get? other := by
  by_cases present : key ∈ dict.keys
  · rw [set, dif_pos present, get?_modify]
    by_cases same : other = key
    · subst same
      obtain ⟨old, found⟩ := mem_keys_iff_get?.mp present
      simp [found]
    · simp [same]
  · rw [set, dif_neg present]
    apply Option.ext
    intro found
    rw [get?_eq_some_iff, mem_append]
    by_cases same : other = key
    · subst same
      have absent : ∀ old, (other, old) ∉ dict.entries := by
        simpa [mem_keys_iff] using present
      simp [absent, eq_comm]
    · simp [same, get?_eq_some_iff]

theorem mem_entries_set {entry : Key × Value} :
    entry ∈ (dict.set key value).entries ↔
      entry = (key, value) ∨ (entry ∈ dict.entries ∧ entry.1 ≠ key) := by
  obtain ⟨other, stored⟩ := entry
  rw [← get?_eq_some_iff, get?_set, ← get?_eq_some_iff]
  by_cases same : other = key
  · simp [same, eq_comm]
  · simp [same]

theorem keys_set_of_mem (value : Value)
    (present : key ∈ dict.keys) : (dict.set key value).keys = dict.keys := by
  rw [set, dif_pos present, keys_modify]

theorem keys_set_of_notMem (value : Value) (absent : key ∉ dict.keys) :
    (dict.set key value).keys = dict.keys ++ [key] := by
  rw [set, dif_neg absent]
  simp [keys]

theorem entries_set_of_notMem (value : Value) (absent : key ∉ dict.keys) :
    (dict.set key value).entries = dict.entries ++ [(key, value)] := by
  rw [set, dif_neg absent]

theorem size_set (dict : Dict Key Value) (key : Key) (value : Value) :
    (dict.set key value).size = if key ∈ dict.keys then dict.size else dict.size + 1 := by
  have count : ∀ other : Dict Key Value, other.size = other.keys.length := by
    intro other
    simp [size, keys]
  split
  · rename_i present
    rw [count, keys_set_of_mem value present, count]
  · rename_i absent
    rw [count, keys_set_of_notMem value absent, length_append, count]
    rfl

@[simp]
theorem mem_keys_set {other : Key} :
    other ∈ (dict.set key value).keys ↔ other = key ∨ other ∈ dict.keys := by
  rw [mem_keys_iff_get?, mem_keys_iff_get?, get?_set]
  by_cases same : other = key <;> simp [same]

/-- Assign all entries, one after another. -/
def update (entries : List (Key × Value)) (dict : Dict Key Value) : Dict Key Value :=
  entries.foldl (fun current entry => current.set entry.1 entry.2) dict

theorem get?_update_of_notMem (absent : key ∉ entries.map Prod.fst) (dict : Dict Key Value) :
    (dict.update entries).get? key = dict.get? key := by
  induction entries generalizing dict with
  | nil => rfl
  | cons entry entries ih =>
    rw [map_cons, mem_cons, not_or] at absent
    have later := ih absent.2 (dict.set entry.1 entry.2)
    rw [get?_set, if_neg absent.1] at later
    exact later

theorem get?_update_of_mem (distinct : (entries.map Prod.fst).Nodup)
    (member : (key, value) ∈ entries) (dict : Dict Key Value) :
    (dict.update entries).get? key = some value := by
  induction entries generalizing dict with
  | nil => exact absurd member not_mem_nil
  | cons entry entries ih =>
    rw [map_cons, nodup_cons] at distinct
    rcases mem_cons.mp member with rfl | later
    · have kept := get?_update_of_notMem distinct.1 (dict.set key value)
      rw [get?_set, if_pos rfl] at kept
      exact kept
    · exact ih distinct.2 later (dict.set entry.1 entry.2)

/-- After an update the new entries are found, and the old ones they do not overwrite. -/
theorem get?_update_iff (distinct : (entries.map Prod.fst).Nodup) (dict : Dict Key Value) :
    (dict.update entries).get? key = some value ↔ (key, value) ∈ entries ∨
      key ∉ entries.map Prod.fst ∧ dict.get? key = some value := by
  by_cases present : key ∈ entries.map Prod.fst
  · obtain ⟨⟨_, written⟩, member, rfl⟩ := mem_map.mp present
    rw [get?_update_of_mem distinct member]
    constructor
    · intro same
      cases same
      exact .inl member
    · rintro (other | ⟨absent, _⟩)
      · rw [← get?_update_of_mem distinct member dict, get?_update_of_mem distinct other dict]
      · exact absurd present absent
  · rw [get?_update_of_notMem present]
    constructor
    · exact fun found => .inr ⟨present, found⟩
    · rintro (other | ⟨_, found⟩)
      · exact absurd (mem_map_of_mem other) present
      · exact found

/-- Equality as finite maps, whatever the order of the entries. -/
def sameMapping [DecidableEq Value] (first second : Dict Key Value) : Bool :=
  decide (∀ key ∈ first.keys ++ second.keys, first.get? key = second.get? key)

theorem sameMapping_iff [DecidableEq Value] {first second : Dict Key Value} :
    first.sameMapping second = true ↔ ∀ key, first.get? key = second.get? key := by
  simp only [sameMapping, decide_eq_true_eq, mem_append]
  constructor
  · intro agree key
    by_cases listed : key ∈ first.keys ∨ key ∈ second.keys
    · exact agree key listed
    · rw [get?_eq_none_iff.mpr fun inFirst => listed (.inl inFirst),
        get?_eq_none_iff.mpr fun inSecond => listed (.inr inSecond)]
  · intro agree key _
    exact agree key

end Lookup

end Dict

end CosmosRl.Foundation
