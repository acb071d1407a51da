import Mathlib.Data.List.Nodup
import Mathlib.Data.List.Perm.Subperm
import Mathlib.Data.List.Count

/-- Rows under a primary key, oldest first. -/
structure Table {K R : Type} (key : R → K) where
  rows : List R
  unique : (rows.map key).Nodup

namespace Table
open List
variable {K R : Type} {key : R → K}

instance : Membership R (Table key) := ⟨fun t row => row ∈ t.rows⟩

variable {row : R}

theorem mem_rows {t : Table key} : row ∈ t ↔ row ∈ t.rows := Iff.rfl

theorem eq_of_key {t : Table key} {left right : R} (hl : left ∈ t) (hr : right ∈ t) (same : key left = key right) :
    left = right :=
  inj_on_of_nodup_map t.unique hl hr same

def empty : Table key := ⟨[], List.nodup_nil⟩

@[simp] theorem not_mem_empty : row ∉ (empty : Table key) := not_mem_nil

theorem ext {t s : Table key} (rows : t.rows = s.rows) : t = s := by
  cases t; cases s; cases rows; rfl

variable {k : K}

section Select

/-- `SELECT … WHERE key = k` -/
def find [DecidableEq K] (t : Table key) (k : K) : Option R := t.rows.find? fun row => key row = k

variable {t : Table key} {p : R → Prop}

theorem find_eq_some [DecidableEq K] : t.find k = some row ↔ row ∈ t ∧ key row = k := by
  constructor
  · intro found
    exact ⟨mem_of_find?_eq_some found, by simpa using find?_some found⟩
  rintro ⟨member, keyed⟩
  have exists_row : (t.find k).isSome := find?_isSome.mpr ⟨row, member, by simpa using keyed⟩
  obtain ⟨other, found⟩ := Option.isSome_iff_exists.mp exists_row
  have otherMember := mem_of_find?_eq_some found
  have otherKeyed : key other = k := by simpa using find?_some found
  rw [found, eq_of_key member otherMember (keyed.trans otherKeyed.symm)]

theorem find_eq_none [DecidableEq K] : t.find k = none ↔ ∀ row ∈ t, key row ≠ k := by
  simp only [find, find?_eq_none, decide_eq_true_eq]
  exact Iff.rfl

theorem find_of_mem [DecidableEq K] (member : row ∈ t) : t.find (key row) = some row :=
  find_eq_some.mpr ⟨member, rfl⟩

/-- `SELECT COUNT(*) … WHERE p` -/
def count (t : Table key) (p : R → Prop) [DecidablePred p] : Nat := t.rows.countP p

theorem count_eq_zero [DecidablePred p] : t.count p = 0 ↔ ∀ row ∈ t, ¬ p row := by
  simp only [count, countP_eq_zero, decide_eq_true_eq]
  exact Iff.rfl

theorem count_pos [DecidablePred p] : 0 < t.count p ↔ ∃ row ∈ t, p row := by
  simp only [count, countP_pos_iff, decide_eq_true_eq]
  exact Iff.rfl

theorem count_keyed [DecidablePred p] (member : row ∈ t) (holds : p row)
    (keyed : ∀ other ∈ t, p other → key other = key row) : t.count p = 1 := by
  have rows : (t.rows.filter p).Perm [row] := by
    have distinct : t.rows.Nodup := List.Nodup.of_map key t.unique
    refine (perm_ext_iff_of_nodup (distinct.filter _) (nodup_singleton row)).mpr fun other => ?_
    simp only [mem_filter, decide_eq_true_eq, mem_singleton]
    constructor
    · rintro ⟨present, chosen⟩
      exact eq_of_key present member (keyed other present chosen)
    · rintro rfl
      exact ⟨member, holds⟩
  rw [count, countP_eq_length_filter, rows.length_eq, length_singleton]

end Select

section Insert
variable [DecidableEq K]

/-- `INSERT`, refused when the key is taken. -/
def insert (t : Table key) (row : R) : Option (Table key) :=
  if fresh : key row ∉ t.rows.map key then
    some ⟨t.rows ++ [row], by
      rw [List.map_append, List.nodup_append]
      refine ⟨t.unique, by simp, ?_⟩
      intro taken old last new same
      rw [List.map_singleton, List.mem_singleton] at new
      exact fresh (new ▸ same ▸ old)⟩
  else none

/-- `t'` is `t` with one more row under a new key. -/
def Inserted (row : R) (t t' : Table key) : Prop :=
  (∀ other ∈ t, key other ≠ key row) ∧ ∀ other, other ∈ t' ↔ other ∈ t ∨ other = row

theorem inserted {t t' : Table key} (done : t.insert row = some t') : Inserted row t t' := by
  unfold insert at done
  split at done
  · rename_i fresh
    cases done
    refine ⟨fun other member same => fresh (same ▸ mem_map_of_mem member), fun other => ?_⟩
    simp only [mem_rows, mem_append, mem_singleton]
  · cases done

theorem insert_eq_none {t : Table key} : t.insert row = none ↔ ∃ other ∈ t, key other = key row := by
  unfold insert
  split
  · rename_i fresh
    simp only [reduceCtorEq, false_iff, not_exists, not_and]
    exact fun other member same => fresh (same ▸ mem_map_of_mem member)
  · rename_i taken
    simp only [true_iff]
    exact mem_map.mp (not_not.mp taken)

end Insert

namespace Inserted
variable {t t' : Table key} {P : R → Prop} (inserted : Inserted row t t')
include inserted

theorem forall_mem (others : ∀ other ∈ t, P other) (new : P row) : ∀ other ∈ t', P other := by
  intro other member
  rcases (inserted.2 other).mp member with present | rfl
  · exact others other present
  · exact new

theorem exists_mem (found : ∃ other ∈ t, P other) : ∃ other ∈ t', P other := by
  obtain ⟨other, member, holds⟩ := found
  exact ⟨other, (inserted.2 other).mpr (.inl member), holds⟩

end Inserted

section Update

/-- `UPDATE … SET f WHERE p` -/
def update (t : Table key) (p : R → Prop) [DecidablePred p] (f : R → R) (keeps : ∀ row, key (f row) = key row) :
    Table key :=
  ⟨t.rows.map fun row => if p row then f row else row, by
    rw [List.map_map]
    have same : (key ∘ fun row => if p row then f row else row) = key := by
      funext row
      simp only [Function.comp_apply]
      split
      · exact keeps row
      · rfl
    rw [same]
    exact t.unique⟩

variable {f : R → R}
variable {keeps : ∀ row, key (f row) = key row}
variable {p : R → Prop}

theorem mem_update {t : Table key} [DecidablePred p]
    : row ∈ t.update p f keeps ↔ ∃ old ∈ t, (if p old then f old else old) = row := by
  simp only [mem_rows, update, mem_map]

theorem mem_update_of_untouched {t : Table key} [DecidablePred p]
    (keeps : ∀ row, key (f row) = key row) (before : ¬ p row) (after : ∀ old, p old → f old ≠ row) :
    row ∈ t.update p f keeps ↔ row ∈ t := by
  rw [mem_update]
  constructor
  · rintro ⟨old, member, rfl⟩
    by_cases chosen : p old
    · exact absurd (if_pos chosen).symm (after old chosen)
    · rw [if_neg chosen]
      exact member
  · intro member
    exact ⟨row, member, if_neg before⟩

theorem find_update [DecidableEq K] {t : Table key} [DecidablePred p] :
    (t.update p f keeps).find k = (t.find k).map fun row => if p row then f row else row := by
  have keyed : ((fun row => decide (key row = k)) ∘ fun row => if p row then f row else row) =
      fun row => decide (key row = k) := by
    funext row
    simp only [Function.comp_apply]
    split
    · rw [keeps]
    · rfl
  unfold find update
  rw [find?_map, keyed]

/-- `t'` is `t` with `new` in the place of `old`. -/
def Replaced (old new : R) (t t' : Table key) : Prop :=
  old ∈ t ∧ key new = key old ∧ ∀ row, row ∈ t' ↔ (row ∈ t ∧ key row ≠ key old) ∨ row = new

namespace Replaced
variable {t t' : Table key} {old new : R}

section
variable (replaced : Replaced old new t t')
include replaced

theorem old_mem : old ∈ t := replaced.1

theorem key_eq : key new = key old := replaced.2.1

theorem mem_iff : row ∈ t' ↔ (row ∈ t ∧ key row ≠ key old) ∨ row = new := replaced.2.2 row

theorem new_mem : new ∈ t' := replaced.mem_iff.mpr (.inr rfl)

theorem kept (member : row ∈ t) (other : key row ≠ key old) : row ∈ t' :=
  replaced.mem_iff.mpr (.inl ⟨member, other⟩)

theorem forall_mem {P : R → Prop} (others : ∀ row ∈ t, key row ≠ key old → P row) (changed : P new) :
    ∀ row ∈ t', P row := by
  intro row member
  rcases replaced.mem_iff.mp member with ⟨present, different⟩ | rfl
  · exact others row present different
  · exact changed

theorem exists_mem {P : R → Prop} (found : ∃ row ∈ t, P row) (changed : P old → P new) :
    ∃ row ∈ t', P row := by
  obtain ⟨row, member, holds⟩ := found
  by_cases same : key row = key old
  · exact ⟨new, replaced.new_mem, changed (eq_of_key member replaced.old_mem same ▸ holds)⟩
  · exact ⟨row, replaced.kept member same, holds⟩
end

theorem refl (member : row ∈ t) : Replaced row row t t := by
  refine ⟨member, rfl, fun other => ⟨fun present => ?_, ?_⟩⟩
  · by_cases same : key other = key row
    · exact .inr (eq_of_key present member same)
    · exact .inl ⟨present, same⟩
  · rintro (⟨present, _⟩ | rfl)
    · exact present
    · exact member

theorem cases_old (replaced : Replaced old new t t') (member : row ∈ t) :
    row = old ∨ (row ∈ t' ∧ key row ≠ key old) := by
  by_cases same : key row = key old
  · exact .inl (eq_of_key member replaced.old_mem same)
  · exact .inr ⟨replaced.kept member same, same⟩

end Replaced

theorem replaced_of_rows {t t' : Table key} [DecidablePred p] {old new : R}
    (rows : t'.rows = t.rows.map fun row => if p row then f row else row) (member : old ∈ t) (holds : p old)
    (keyed : ∀ row ∈ t, p row → key row = key old) (result : f old = new) (same : key new = key old) :
    Replaced old new t t' := by
  subst result
  refine ⟨member, same, fun row => ?_⟩
  rw [mem_rows, rows, mem_map]
  constructor
  · rintro ⟨source, present, rfl⟩
    by_cases chosen : p source
    · have same := eq_of_key present member (keyed source present chosen)
      subst same
      exact .inr (if_pos chosen)
    · rw [if_neg chosen]
      exact .inl ⟨present, fun same => chosen (eq_of_key present member same ▸ holds)⟩
  · rintro (⟨present, other⟩ | rfl)
    · exact ⟨row, present, if_neg fun chosen => other (keyed row present chosen)⟩
    · exact ⟨old, member, if_pos holds⟩

theorem update_replaced {t t' : Table key} [DecidablePred p] {old : R}
    (rows : t'.rows = t.rows.map fun row => if p row then f row else row) (member : old ∈ t)
    (only : ∀ row ∈ t, p row → row = old) (same : key (f old) = key old) :
    Replaced old (if p old then f old else old) t t' := by
  by_cases chosen : p old
  · rw [if_pos chosen]
    exact replaced_of_rows rows member chosen (fun row present holds => only row present holds ▸ rfl) rfl same
  rw [if_neg chosen]
  have unchanged : t' = t := by
    apply ext
    rw [rows]
    refine (map_congr_left fun row present => ?_).trans (map_id _)
    exact if_neg fun holds => chosen (only row present holds ▸ holds)
  rw [unchanged]
  exact .refl member

/-- An update that has to change exactly one row. -/
def updateOne (t : Table key) (p : R → Prop) [DecidablePred p] (f : R → R) (keeps : ∀ row, key (f row) = key row) :
    Option (Table key) :=
  if t.count p = 1 then some (t.update p f keeps) else none

theorem updateOne_replaced {t t' : Table key} [DecidablePred p]
    (done : t.updateOne p f keeps = some t') : ∃ old, p old ∧ Replaced old (f old) t t' := by
  unfold updateOne at done
  split at done
  · rename_i single
    cases done
    obtain ⟨old, shape⟩ := length_eq_one_iff.mp (countP_eq_length_filter.symm.trans single)
    have only : ∀ row, row ∈ t ∧ p row ↔ row = old := by
      intro row
      have member := congrArg (row ∈ ·) shape
      simpa [mem_filter, mem_rows] using member
    obtain ⟨member, holds⟩ := (only old).mpr rfl
    exact ⟨old, holds, replaced_of_rows rfl member holds
      (fun row present chosen => ((only row).mp ⟨present, chosen⟩) ▸ rfl) rfl (keeps old)⟩
  · cases done

theorem updateOne_eq {t : Table key} [DecidablePred p] (member : row ∈ t) (holds : p row)
    (keyed : ∀ other ∈ t, p other → key other = key row) : t.updateOne p f keeps = some (t.update p f keeps) :=
  if_pos (count_keyed member holds keyed)

end Update

section Delete

/-- `DELETE … WHERE p` -/
def delete (t : Table key) (p : R → Prop) [DecidablePred p] : Table key :=
  ⟨t.rows.filter fun row => ¬ p row, t.unique.sublist (List.filter_sublist.map key)⟩

theorem mem_delete {t : Table key} {p : R → Prop} [DecidablePred p] : row ∈ t.delete p ↔ row ∈ t ∧ ¬ p row := by
  simp only [mem_rows, delete, mem_filter, decide_eq_true_eq]

end Delete

section Put
variable [DecidableEq K]

/-- The row in the place of the one under its key, or behind the others. -/
def put (t : Table key) (row : R) : Table key :=
  if taken : key row ∈ t.rows.map key then
    ⟨t.rows.map fun other => if key other = key row then row else other, by
      rw [List.map_map]
      have same : (key ∘ fun other => if key other = key row then row else other) = key := by
        funext other
        simp only [Function.comp_apply]
        split
        · rename_i same
          exact same.symm
        · rfl
      rw [same]
      exact t.unique⟩
  else ⟨t.rows ++ [row], by
    rw [List.map_append, List.nodup_append]
    refine ⟨t.unique, by simp, ?_⟩
    intro other old last new same
    rw [List.map_singleton, List.mem_singleton] at new
    exact taken (new ▸ same ▸ old)⟩

variable {t : Table key} {other : R}

theorem mem_put : other ∈ t.put row ↔ (other ∈ t ∧ key other ≠ key row) ∨ other = row := by
  unfold put
  split
  · rename_i taken
    simp only [mem_rows, mem_map]
    constructor
    · rintro ⟨_, member, rfl⟩
      split
      · exact .inr rfl
      · rename_i different
        exact .inl ⟨member, different⟩
    · rintro (⟨member, different⟩ | rfl)
      · exact ⟨other, member, if_neg different⟩
      · obtain ⟨old, member, keyed⟩ := mem_map.mp taken
        exact ⟨old, member, if_pos keyed⟩
  · rename_i fresh
    simp only [mem_rows, mem_append, mem_singleton]
    constructor
    · rintro (member | same)
      · exact .inl ⟨member, fun same => fresh (same ▸ mem_map_of_mem member)⟩
      · exact .inr same
    · rintro (⟨member, _⟩ | same)
      · exact .inl member
      · exact .inr same

theorem put_self (member : row ∈ t) : t.put row = t := by
  apply ext
  unfold put
  rw [dif_pos (mem_map_of_mem member)]
  refine (map_congr_left fun other present => ?_).trans (map_id _)
  split
  · rename_i same
    exact eq_of_key member present same.symm
  · rfl

theorem put_fresh (fresh : t.find (key row) = none) : (t.put row).rows = t.rows ++ [row] := by
  have absent : key row ∉ t.rows.map key := by
    intro taken
    obtain ⟨other, member, keyed⟩ := mem_map.mp taken
    exact find_eq_none.mp fresh other member keyed
  unfold put
  rw [dif_neg absent]

theorem find_put : (t.put row).find (key row) = some row :=
  find_eq_some.mpr ⟨mem_put.mpr (.inr rfl), rfl⟩

theorem find_put_of_ne (other : k ≠ key row) : (t.put row).find k = t.find k := by
  apply Option.ext
  intro found
  simp only [find_eq_some, mem_put]
  constructor
  · rintro ⟨⟨member, _⟩ | rfl, keyed⟩
    · exact ⟨member, keyed⟩
    · exact absurd keyed.symm other
  · rintro ⟨member, rfl⟩
    exact ⟨.inl ⟨member, other⟩, rfl⟩

theorem put_put {first second : R} (same : key first = key second) :
    (t.put first).put second = t.put second := by
  apply ext
  have taken : key second ∈ (t.put first).rows.map key :=
    mem_map.mpr ⟨first, mem_put.mpr (.inr rfl), same⟩
  unfold put at taken ⊢
  rw [dif_pos taken]
  by_cases old : key first ∈ t.rows.map key
  · rw [dif_pos old, dif_pos (same ▸ old)]
    simp only [map_map]
    apply map_congr_left
    intro row _
    simp only [Function.comp_apply, same]
    split <;> rfl
  · rw [dif_neg old, dif_neg (same ▸ old)]
    simp only [map_append, map_singleton]
    rw [if_pos same]
    congr 1
    apply (map_congr_left fun row member => if_neg fun keyed => old ?_).trans (map_id _)
    exact mem_map.mpr ⟨row, member, keyed.trans same.symm⟩

theorem find_put_eq : (t.put row).find k = if k = key row then some row else t.find k := by
  split
  · rename_i same
    rw [same]
    exact find_put
  · rename_i other
    exact find_put_of_ne other

theorem mem_foldl_put {rows : List R} (distinct : (rows.map key).Nodup) :
    other ∈ rows.foldl put t ↔ other ∈ rows ∨ (other ∈ t ∧ key other ∉ rows.map key) := by
  induction rows generalizing t with
  | nil => simp
  | cons _ _ ih =>
    rw [map_cons, nodup_cons] at distinct
    rw [foldl_cons, ih distinct.2, mem_put, mem_cons, map_cons, mem_cons, not_or]
    constructor
    · rintro (member | ⟨⟨member, apart⟩ | rfl, free⟩)
      · exact .inl (.inr member)
      · exact .inr ⟨member, apart, free⟩
      · exact .inl (.inl rfl)
    · rintro ((rfl | member) | ⟨member, apart, free⟩)
      · exact .inr ⟨.inr rfl, distinct.1⟩
      · exact .inl member
      · exact .inr ⟨.inl ⟨member, apart⟩, free⟩

end Put

section Counts
variable {t t' : Table key} {p : R → Prop} [DecidablePred p]

theorem rows_nodup (t : Table key) : t.rows.Nodup := List.Nodup.of_map key t.unique

theorem count_congr {q : R → Prop} [DecidablePred q] (same : ∀ row ∈ t, p row ↔ q row) : t.count p = t.count q :=
  countP_congr fun row member => by simpa using same row member

theorem Inserted.count [DecidableEq K] (inserted : Inserted row t t') :
    t'.count p = t.count p + if p row then 1 else 0 := by
  have absent : row ∉ t.rows := fun member => inserted.1 row member rfl
  have perm : t'.rows.Perm (row :: t.rows) := by
    refine (perm_ext_iff_of_nodup t'.rows_nodup (nodup_cons.mpr ⟨absent, t.rows_nodup⟩)).mpr fun other => ?_
    rw [mem_cons]
    exact (inserted.2 other).trans or_comm
  rw [Table.count, perm.countP_eq, countP_cons]
  simp only [decide_eq_true_eq]
  rfl

theorem Replaced.count {old new : R} (replaced : Replaced old new t t') :
    t'.count p + (if p old then 1 else 0) = t.count p + (if p new then 1 else 0) := by
  classical
  have before : t.rows.Perm (old :: t.rows.filter fun row => key row ≠ key old) := by
    refine (perm_ext_iff_of_nodup t.rows_nodup ?_).mpr fun row => ?_
    · exact nodup_cons.mpr ⟨by simp, t.rows_nodup.filter _⟩
    simp only [mem_cons, mem_filter, decide_eq_true_eq]
    constructor
    · intro member
      rcases replaced.cases_old member with same | ⟨_, other⟩
      · exact .inl same
      · exact .inr ⟨member, other⟩
    · rintro (rfl | ⟨member, _⟩)
      · exact replaced.old_mem
      · exact member
  have after : t'.rows.Perm (new :: t.rows.filter fun row => key row ≠ key old) := by
    refine (perm_ext_iff_of_nodup t'.rows_nodup ?_).mpr fun row => ?_
    · exact nodup_cons.mpr ⟨by simp [replaced.key_eq], t.rows_nodup.filter _⟩
    · simp only [mem_cons, mem_filter, decide_eq_true_eq]
      exact replaced.mem_iff.trans or_comm
  have left := after.countP_eq (fun row => decide (p row))
  have right := before.countP_eq (fun row => decide (p row))
  rw [countP_cons] at left right
  simp only [decide_eq_true_eq] at left right
  unfold Table.count
  omega

end Counts
end Table
