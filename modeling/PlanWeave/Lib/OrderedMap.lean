import Mathlib.Data.List.Basic
import Mathlib.Data.List.Nodup
import Mathlib.Data.List.Perm.Basic

/-- A finite map that iterates in insertion order. Setting a present key keeps its
position; setting a new key appends it. -/
structure OrderedMap (κ ν : Type) where
  entries : List (κ × ν)
  distinct : (entries.map Prod.fst).Nodup

namespace OrderedMap
open List Option
variable {κ ν μ : Type}

def empty : OrderedMap κ ν := ⟨[], List.nodup_nil⟩

instance : EmptyCollection (OrderedMap κ ν) := ⟨empty⟩

instance : Inhabited (OrderedMap κ ν) := ⟨empty⟩

instance [DecidableEq κ] [DecidableEq ν] : DecidableEq (OrderedMap κ ν) := fun left right =>
  decidable_of_iff (left.entries = right.entries) ⟨fun same => by cases left; cases right; cases same; rfl,
    fun same => congrArg entries same⟩

instance [Repr κ] [Repr ν] : Repr (OrderedMap κ ν) := ⟨fun map => reprPrec map.entries⟩

def keys (map : OrderedMap κ ν) : List κ := map.entries.map Prod.fst

def values (map : OrderedMap κ ν) : List ν := map.entries.map Prod.snd

def size (map : OrderedMap κ ν) : Nat := map.entries.length

variable [DecidableEq κ]

def find (key : κ) : List (κ × ν) → Option ν
  | [] => none
  | entry :: rest => if entry.1 = key then some entry.2 else find key rest

def get? (map : OrderedMap κ ν) (key : κ) : Option ν := find key map.entries

def has (map : OrderedMap κ ν) (key : κ) : Bool := (map.get? key).isSome

def put (key : κ) (value : ν) : List (κ × ν) → List (κ × ν)
  | [] => [(key, value)]
  | entry :: rest => if entry.1 = key then (key, value) :: rest else entry :: put key value rest

theorem put_keys (key : κ) (value : ν) (entries : List (κ × ν)) :
    (put key value entries).map Prod.fst =
      if key ∈ entries.map Prod.fst then entries.map Prod.fst else entries.map Prod.fst ++ [key] := by
  induction entries with
  | nil => simp [put]
  | cons entry _ ih =>
    by_cases same : entry.1 = key
    · simp [put, same]
    · have other : ¬ key = entry.1 := fun equal => same equal.symm
      simp only [put, same, if_false, map_cons, ih, mem_cons, other, false_or]
      split <;> simp

variable {entries pairs : List (κ × ν)} {key : κ} {value : ν}

theorem put_distinct (distinct : (entries.map Prod.fst).Nodup) : ((put key value entries).map Prod.fst).Nodup := by
  rw [put_keys]
  split
  · exact distinct
  rename_i absent
  rw [nodup_append]
  refine ⟨distinct, by simp, ?_⟩
  intro left member right single
  rw [mem_singleton] at single
  rintro rfl
  exact absent (single ▸ member)

def set (map : OrderedMap κ ν) (key : κ) (value : ν) : OrderedMap κ ν :=
  ⟨put key value map.entries, put_distinct map.distinct⟩

def filter (map : OrderedMap κ ν) (keep : κ → ν → Bool) : OrderedMap κ ν :=
  ⟨map.entries.filter (fun entry => keep entry.1 entry.2),
    map.distinct.sublist (List.filter_sublist.map Prod.fst)⟩

def erase (map : OrderedMap κ ν) (key : κ) : OrderedMap κ ν := map.filter (fun other _ => other ≠ key)

def ofList (entries : List (κ × ν)) : OrderedMap κ ν :=
  entries.foldl (fun map entry => map.set entry.1 entry.2) empty

theorem find_put (key other : κ) (value : ν) (entries : List (κ × ν)) :
    find other (put key value entries) = if other = key then some value else find other entries := by
  induction entries with
  | nil => by_cases same : key = other <;> simp [put, find, same, eq_comm]
  | cons entry _ ih =>
    by_cases present : entry.1 = key
    · by_cases same : other = key
      · simp [put, find, present, same]
      · have different : ¬ key = other := fun equal => same equal.symm
        simp [put, find, present, same, different]
    · by_cases hit : entry.1 = other
      · have different : ¬ other = key := fun equal => present (hit.trans equal)
        simp [put, find, hit, different]
      · simp only [put, present, if_false, find, hit, ih]

@[simp] theorem get?_empty (key : κ) : (empty : OrderedMap κ ν).get? key = none := rfl

@[simp] theorem get?_emptyCollection (key : κ) : (∅ : OrderedMap κ ν).get? key = none := rfl

theorem get?_set (map : OrderedMap κ ν) (key other : κ) (value : ν) :
    (map.set key value).get? other = if other = key then some value else map.get? other :=
  find_put key other value map.entries

@[simp] theorem get?_set_self (map : OrderedMap κ ν) (key : κ) (value : ν) :
    (map.set key value).get? key = some value := by
  rw [get?_set, if_pos rfl]

variable {other : κ} {map : OrderedMap κ ν}

theorem get?_set_of_ne (map : OrderedMap κ ν) (value : ν) (different : other ≠ key) :
    (map.set key value).get? other = map.get? other := by
  rw [get?_set, if_neg different]

theorem forall_get?_set {holds : κ → ν → Prop}
    (others : ∀ other found, map.get? other = some found → holds other found) (new : holds key value) :
    ∀ other found, (map.set key value).get? other = some found → holds other found := by
  intro other found present
  rw [get?_set] at present
  split at present
  · rename_i same
    cases present
    exact same ▸ new
  · exact others other found present

theorem get?_set_kept (absent : map.get? key = none) :
    ∀ other found, map.get? other = some found → (map.set key value).get? other = some found := by
  intro other found present
  refine (get?_set_of_ne map value ?_).trans present
  rintro rfl
  cases absent.symm.trans present

theorem put_put (key : κ) (first second : ν) (entries : List (κ × ν)) :
    put key second (put key first entries) = put key second entries := by
  induction entries with
  | nil => simp [put]
  | cons entry _ ih =>
    by_cases present : entry.1 = key
    · simp [put, present]
    · simp [put, present, ih]

theorem set_set (map : OrderedMap κ ν) (key : κ) (first second : ν) :
    (map.set key first).set key second = map.set key second := by
  unfold set
  simp only [put_put]

theorem put_of_find (found : find key entries = some value) : put key value entries = entries := by
  induction entries with
  | nil => cases found
  | cons entry _ ih =>
    by_cases here : entry.1 = key
    · simp only [find, here, if_true] at found
      cases found
      simp only [put, here, if_true]
      rw [← here]
    · simp only [find, here, if_false] at found
      simp only [put, here, if_false, ih found]

theorem set_of_get? (found : map.get? key = some value) : map.set key value = map := by
  unfold set
  simp only [put_of_find found]

theorem mem_of_find (found : find key entries = some value) : (key, value) ∈ entries := by
  induction entries with
  | nil => cases found
  | cons _ _ ih =>
    unfold find at found
    split at found
    · rename_i here
      cases found
      exact here ▸ mem_cons_self
    · exact mem_cons_of_mem _ (ih found)

theorem find_eq_some (distinct : (entries.map Prod.fst).Nodup) :
    find key entries = some value ↔ (key, value) ∈ entries := by
  induction entries with
  | nil => simp [find]
  | cons entry _ ih =>
    obtain ⟨first, _⟩ := entry
    rw [map_cons, nodup_cons] at distinct
    by_cases same : first = key
    · subst first
      simp only [find, if_true, Option.some.injEq, mem_cons, Prod.mk.injEq, true_and]
      refine ⟨fun equal => .inl equal.symm, ?_⟩
      rintro (equal | member)
      · exact equal.symm
      · exact absurd (mem_map_of_mem (f := Prod.fst) member) distinct.1
    · have different : ¬ key = first := fun equal => same equal.symm
      simp only [find, same, if_false, mem_cons, Prod.mk.injEq, different, false_and, false_or]
      exact ih distinct.2

theorem get?_eq_some_iff (map : OrderedMap κ ν) : map.get? key = some value ↔ (key, value) ∈ map.entries :=
  find_eq_some map.distinct

theorem find_eq_none : find key entries = none ↔ key ∉ entries.map Prod.fst := by
  induction entries with
  | nil => simp [find]
  | cons entry _ ih =>
    by_cases same : entry.1 = key
    · simp [find, same]
    · have different : ¬ key = entry.1 := fun equal => same equal.symm
      simp only [find, same, if_false, ih, map_cons, mem_cons, different, false_or]

theorem get?_eq_none_iff (map : OrderedMap κ ν) : map.get? key = none ↔ key ∉ map.keys :=
  find_eq_none

theorem has_iff (map : OrderedMap κ ν) : map.has key = true ↔ key ∈ map.keys := by
  rw [has, isSome_iff_ne_none, ne_eq, get?_eq_none_iff, not_not]

theorem keys_set (map : OrderedMap κ ν) (key : κ) (value : ν) :
    (map.set key value).keys = if map.has key then map.keys else map.keys ++ [key] := by
  have keys : (map.set key value).keys = if key ∈ map.keys then map.keys else map.keys ++ [key] :=
    put_keys key value map.entries
  by_cases present : key ∈ map.keys
  · rw [if_pos ((has_iff map).mpr present)]
    rw [if_pos present] at keys
    exact keys
  · rw [if_neg fun has => present ((has_iff map).mp has)]
    rw [if_neg present] at keys
    exact keys

omit [DecidableEq κ] in
theorem size_eq_of_keys {left : OrderedMap κ ν} {right : OrderedMap κ μ} (same : left.keys = right.keys) :
    left.size = right.size := by
  have lengths := congrArg List.length same
  rwa [keys, keys, length_map, length_map] at lengths

theorem has_set (map : OrderedMap κ ν) (key other : κ) (value : ν) :
    (map.set key value).has other = (decide (other = key) || map.has other) := by
  rw [has, get?_set]
  by_cases same : other = key <;> simp [same, has]

theorem get?_filter (map : OrderedMap κ ν) (keep : κ → ν → Bool) (key : κ) :
    (map.filter keep).get? key = (map.get? key).filter (keep key) := by
  cases found : map.get? key with
  | none =>
    rw [get?_eq_none_iff] at found
    rw [filter_none, get?_eq_none_iff]
    intro member
    obtain ⟨_, kept, rfl⟩ := mem_map.mp member
    exact found (mem_map_of_mem (mem_filter.mp kept).1)
  | some value =>
    have member := (get?_eq_some_iff map).mp found
    by_cases kept : keep key value = true
    · rw [filter_some, if_pos kept, get?_eq_some_iff]
      exact mem_filter.mpr ⟨member, kept⟩
    rw [filter_some, if_neg kept, get?_eq_none_iff]
    intro keyMember
    obtain ⟨entry, inside, same⟩ := mem_map.mp keyMember
    obtain ⟨present, keepEntry⟩ := mem_filter.mp inside
    obtain ⟨_, _⟩ := entry
    subst same
    have stored := (get?_eq_some_iff map).mpr present
    rw [found] at stored
    cases stored
    exact kept keepEntry

theorem get?_erase (map : OrderedMap κ ν) (key other : κ) :
    (map.erase key).get? other = if other = key then none else map.get? other := by
  rw [erase, get?_filter]
  by_cases same : other = key
  · cases map.get? other <;> simp [same]
  · cases map.get? other <;> simp [same]

theorem get?_of_erase (present : (map.erase key).get? other = some value) :
    map.get? other = some value := by
  rw [get?_erase] at present
  split at present
  · cases present
  · exact present

theorem mem_values (map : OrderedMap κ ν) : value ∈ map.values ↔ ∃ key, map.get? key = some value := by
  constructor
  · intro member
    obtain ⟨entry, present, rfl⟩ := mem_map.mp member
    exact ⟨entry.1, (get?_eq_some_iff map).mpr present⟩
  · rintro ⟨key, found⟩
    exact mem_map.mpr ⟨(key, value), (get?_eq_some_iff map).mp found, rfl⟩

/-- Append to the list stored under a present key; a missing key is left missing. -/
def push (map : OrderedMap κ (List ν)) (key : κ) (value : ν) : OrderedMap κ (List ν) :=
  match map.get? key with
  | some values => map.set key (values ++ [value])
  | none => map

def setAll (map : OrderedMap κ ν) (pairs : List (κ × ν)) : OrderedMap κ ν :=
  pairs.foldl (fun map pair => map.set pair.1 pair.2) map

def pushAll (map : OrderedMap κ (List ν)) (pairs : List (κ × ν)) : OrderedMap κ (List ν) :=
  pairs.foldl (fun map pair => map.push pair.1 pair.2) map

theorem get?_push (map : OrderedMap κ (List ν)) (key other : κ) (value : ν) :
    (map.push key value).get? other =
      (map.get? other).map (fun values => if other = key then values ++ [value] else values) := by
  unfold push
  cases found : map.get? key with
  | none =>
    by_cases same : other = key
    · simp [same, found]
    · simp [same]
  | some values =>
    rw [get?_set]
    by_cases same : other = key
    · simp [same, found]
    · simp [same]

@[simp] theorem has_push (map : OrderedMap κ (List ν)) (key other : κ) (value : ν) :
    (map.push key value).has other = map.has other := by
  rw [has, get?_push, isSome_map, has]

theorem push_of_get? {map : OrderedMap κ (List ν)} {values : List ν} (found : map.get? key = some values)
    (value : ν) : map.push key value = map.set key (values ++ [value]) := by
  rw [push, found]

theorem get?_pushAll (map : OrderedMap κ (List ν)) (pairs : List (κ × ν)) (key : κ) :
    (map.pushAll pairs).get? key = (map.get? key).map
      (fun values => values ++ (pairs.filter (fun pair => pair.1 = key)).map Prod.snd) := by
  induction pairs generalizing map with
  | nil => simp [pushAll]
  | cons pair _ ih =>
    have tail := ih (map.push pair.1 pair.2)
    unfold pushAll at tail ⊢
    rw [foldl_cons, tail, get?_push]
    cases map.get? key with
    | none => rfl
    | some =>
      by_cases same : key = pair.1
      · simp [same]
      · have different : ¬ pair.1 = key := fun equal => same equal.symm
        simp [same, different]

theorem find_append (key : κ) (left right : List (κ × ν)) :
    find key (left ++ right) = (find key left).or (find key right) := by
  induction left with
  | nil => simp [find]
  | cons entry _ ih =>
    by_cases same : entry.1 = key
    · simp [find, same]
    · simp [find, same, ih]

theorem get?_setAll (map : OrderedMap κ ν) (pairs : List (κ × ν)) (key : κ) :
    (map.setAll pairs).get? key = (find key pairs.reverse).or (map.get? key) := by
  induction pairs generalizing map with
  | nil => simp [setAll, find]
  | cons pair _ ih =>
    have tail := ih (map.set pair.1 pair.2)
    unfold setAll at tail ⊢
    rw [List.foldl_cons, tail, get?_set, List.reverse_cons, find_append, Option.or_assoc]
    congr 1
    by_cases same : key = pair.1
    · simp [find, same]
    · have different : ¬ pair.1 = key := fun equal => same equal.symm
      simp [find, same, different]

theorem get?_setAll_of (agree : ∀ pair ∈ pairs, pair.1 = key → pair.2 = value)
    (known : map.get? key = some value ∨ (key, value) ∈ pairs) : (map.setAll pairs).get? key = some value := by
  induction pairs generalizing map with
  | nil => exact known.resolve_right List.not_mem_nil
  | cons pair _ ih =>
    refine ih (fun other member => agree other (List.mem_cons_of_mem _ member)) ?_
    by_cases here : key = pair.1
    · left
      rw [here, get?_set_self, agree pair List.mem_cons_self here.symm]
    · rw [get?_set_of_ne _ _ here]
      refine known.imp_right fun member => (List.mem_cons.mp member).resolve_left ?_
      rintro rfl
      exact here rfl

theorem find_reverse (distinct : (pairs.map Prod.fst).Nodup) (key : κ) : find key pairs.reverse = find key pairs := by
  have distinctReverse : (pairs.reverse.map Prod.fst).Nodup := by
    rw [map_reverse]
    exact nodup_reverse.mpr distinct
  apply Option.ext
  intro value
  rw [find_eq_some distinctReverse, find_eq_some distinct, mem_reverse]

theorem get?_setAll_of_distinct (map : OrderedMap κ ν) (distinct : (pairs.map Prod.fst).Nodup) (key : κ) :
    (map.setAll pairs).get? key = (find key pairs).or (map.get? key) := by
  rw [get?_setAll, find_reverse distinct]

theorem get?_pushAll_single (map : OrderedMap κ (List ν)) (key other : κ) (items : List ν) :
    (map.pushAll (items.map (fun item => (key, item)))).get? other =
      (map.get? other).map (fun values => if other = key then values ++ items else values) := by
  rw [get?_pushAll]
  by_cases same : other = key
  · simp [same, List.filter_map, Function.comp_def]
  · have different : ¬ key = other := fun equal => same equal.symm
    simp [same, different, List.filter_map, Function.comp_def]

theorem has_pushAll (map : OrderedMap κ (List ν)) (pairs : List (κ × ν)) (key : κ) :
    (map.pushAll pairs).has key = map.has key := by
  rw [has, get?_pushAll, isSome_map, has]

theorem get?_ofList (distinct : (pairs.map Prod.fst).Nodup) (key : κ) : (ofList pairs).get? key = find key pairs := by
  have built := get?_setAll empty pairs key
  rw [find_reverse distinct, get?_empty, or_none] at built
  exact built

theorem mem_of_ofList (found : (ofList pairs).get? key = some value) : (key, value) ∈ pairs := by
  have built := get?_setAll empty pairs key
  rw [get?_empty, or_none] at built
  exact mem_reverse.mp (mem_of_find (built.symm.trans found))

theorem has_ofList : (ofList pairs).has key = true ↔ key ∈ pairs.map Prod.fst := by
  have built : (ofList pairs).get? key = _ := get?_setAll empty pairs key
  rw [get?_empty, or_none] at built
  rw [has, isSome_iff_ne_none, built, ne_eq, find_eq_none, not_not, map_reverse, mem_reverse]

theorem find_map (key : κ) (change : κ → ν → μ) (pairs : List (κ × ν)) :
    find key (pairs.map (fun pair => (pair.1, change pair.1 pair.2))) = (find key pairs).map (change key) := by
  induction pairs with
  | nil => rfl
  | cons pair _ ih =>
    by_cases same : pair.1 = key
    · simp [find, same]
    · simp [find, same, ih]

def mapValues {μ : Type} (map : OrderedMap κ ν) (change : ν → μ) : OrderedMap κ μ :=
  ⟨map.entries.map (fun entry => (entry.1, change entry.2)), by
    rw [List.map_map]
    exact map.distinct⟩

theorem get?_mapValues (map : OrderedMap κ ν) (change : ν → μ) (key : κ) :
    (map.mapValues change).get? key = (map.get? key).map change :=
  find_map key (fun _ => change) map.entries

def eraseAll (map : OrderedMap κ ν) (keys : List κ) : OrderedMap κ ν :=
  map.filter (fun key _ => key ∉ keys)

theorem get?_eraseAll (map : OrderedMap κ ν) (keys : List κ) (key : κ) :
    (map.eraseAll keys).get? key = if key ∈ keys then none else map.get? key := by
  rw [eraseAll, get?_filter]
  by_cases inside : key ∈ keys
  · cases map.get? key <;> simp [inside]
  · cases map.get? key <;> simp [inside]

/-- Two maps that answer every lookup alike; insertion order may differ. -/
def Same (left right : OrderedMap κ ν) : Prop := ∀ key, left.get? key = right.get? key

end OrderedMap
