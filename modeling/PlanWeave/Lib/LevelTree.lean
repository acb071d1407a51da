import Mathlib.Data.List.Basic
import Mathlib.Data.List.Flatten
import Mathlib.Algebra.GroupWithZero.Nat

variable {limit : Nat}

namespace Parts
open List
variable {α β : Type}

/-- The part that holds a position of the concatenation, and the position inside it. -/
def select : List Nat → Nat → Option (Nat × Nat)
  | [], _ => none
  | count :: rest, index =>
    if index < count then some (0, index) else (select rest (index - count)).map fun found => (found.1 + 1, found.2)

def splice (items : List α) (index : Nat) (replacement : List α) : List α :=
  items.take index ++ replacement ++ items.drop (index + 1)

def pick (pass : α → Bool) (items : List α) : Nat :=
  if items.findIdx pass < items.length then items.findIdx pass else items.length - 1

def overflow (limit : Nat) (items : List α) : List (List α) :=
  if items.length ≤ limit then (if items.length = 0 then [] else [items]) else [items.take limit, items.drop limit]

variable {items : List α} {pass : α → Bool}

theorem exists_ends (nonempty : items ≠ []) : ∃ first last, items.head? = some first ∧ items.getLast? = some last :=
  ⟨_, _, head?_eq_some_head nonempty, getLast?_eq_some_getLast nonempty⟩

theorem splice_middle (before after : List α) (item : α) (replacement : List α) :
    splice (before ++ item :: after) before.length replacement = before ++ replacement ++ after := by
  unfold splice
  rw [take_left']
  · rw [show before ++ item :: after = (before ++ [item]) ++ after by simp, drop_left' (by simp)]
  · rfl

theorem splice_append (before after part : List α) {index : Nat} (inside : index < part.length) (replacement : List α) :
    splice (before ++ part ++ after) (before.length + index) replacement =
      before ++ splice part index replacement ++ after := by
  unfold splice
  rw [append_assoc before part after, take_length_add_append, take_append_of_le_length (Nat.le_of_lt inside),
    show before.length + index + 1 = before.length + (index + 1) from rfl, drop_length_add_append,
    drop_append_of_le_length inside]
  simp

theorem select_split : ∀ {parts : List (List α)} {index : Nat}, index < parts.flatten.length →
    ∃ before part after inner, parts = before ++ part :: after ∧
      select (parts.map List.length) index = some (before.length, inner) ∧
      inner < part.length ∧ index = before.flatten.length + inner
  | [], index, inside => by simp at inside
  | part :: rest, index, inside => by
    by_cases here : index < part.length
    · exact ⟨[], part, rest, index, rfl, by simp [select, here], here, by simp⟩
    have later : index - part.length < rest.flatten.length := by
      rw [flatten_cons, length_append] at inside
      omega
    obtain ⟨before, found, after, inner, same, selected, inner_lt, _⟩ := select_split later
    refine ⟨part :: before, found, after, inner, by rw [same]; rfl, ?_, inner_lt, ?_⟩
    · simp [select, here, selected]
    · rw [flatten_cons, length_append]
      omega

theorem overflow_flatten (limit : Nat) (items : List α) : (overflow limit items).flatten = items := by
  unfold overflow
  split
  · split
    · rename_i empty
      rw [length_eq_zero_iff.mp empty]
      rfl
    · simp
  · simp

theorem overflow_bounds (positive : 0 < limit) (fits : items.length ≤ 2 * limit) :
    ∀ part ∈ overflow limit items, part ≠ [] ∧ part.length ≤ limit ∧ ∀ item ∈ part, item ∈ items := by
  intro part member
  unfold overflow at member
  split at member
  · split at member
    · cases member
    · rw [mem_singleton] at member
      subst member
      rename_i fitting nonempty
      exact ⟨fun empty => nonempty (by rw [empty]; rfl), fitting, fun _ inside => inside⟩
  · rename_i long
    simp only [mem_cons, not_mem_nil, or_false] at member
    rcases member with first | second
    · subst first
      refine ⟨?_, by rw [length_take]; omega, fun _ => mem_of_mem_take⟩
      intro empty
      have := congrArg List.length empty
      simp only [length_take, length_nil] at this
      omega
    · subst second
      refine ⟨?_, by simp only [length_drop]; omega, fun _ => mem_of_mem_drop⟩
      intro empty
      have := congrArg List.length empty
      simp only [length_drop, length_nil] at this
      omega

theorem overflow_length :
    (overflow limit items).length = if items.length = 0 then 0 else if items.length ≤ limit then 1 else 2 := by
  unfold overflow
  by_cases empty : items.length = 0
  · simp [empty]
  · by_cases fits : items.length ≤ limit <;> simp [empty, fits]

theorem overflow_length_le (limit : Nat) (items : List α) : (overflow limit items).length ≤ 2 := by
  rw [overflow_length]
  split
  · omega
  · split <;> omega

theorem overflow_map (limit : Nat) (items : List α) (f : α → β) :
    overflow limit (items.map f) = (overflow limit items).map (List.map f) := by
  unfold overflow
  by_cases empty : items.length = 0
  · simp [length_eq_zero_iff.mp empty]
  · by_cases fits : items.length ≤ limit <;> simp [empty, fits, map_take, map_drop]

theorem flatten_length_le {parts : List (List α)} (bound : ∀ part ∈ parts, part.length ≤ limit) :
    parts.flatten.length ≤ parts.length * limit := by
  induction parts with
  | nil => exact Nat.zero_le _
  | cons part _ ih =>
    have first := bound part (by simp)
    have others := ih fun other member => bound other (mem_cons_of_mem _ member)
    rw [flatten_cons, length_append, length_cons, Nat.succ_mul]
    omega

theorem splice_map (items : List α) (index : Nat) (replacement : List α) (f : α → β) :
    splice (items.map f) index (replacement.map f) = (splice items index replacement).map f := by
  simp [splice, map_take, map_drop]

theorem pick_lt (nonempty : items ≠ []) : pick pass items < items.length := by
  have positive := length_pos_of_ne_nil nonempty
  unfold pick
  split <;> omega

theorem pick_map (f : α → β) (pass : β → Bool) (items : List α) :
    pick pass (items.map f) = pick (fun item => pass (f item)) items := by
  unfold pick
  rw [findIdx_map, length_map]
  rfl

theorem pick_congr {other : α → Bool} (same : ∀ item ∈ items, pass item = other item) :
    pick pass items = pick other items := by
  have index : items.findIdx pass = items.findIdx other := by
    induction items with
    | nil => rfl
    | cons item _ ih =>
      rw [findIdx_cons, findIdx_cons, same item (by simp), ih fun other member => same other (by simp [member])]
  unfold pick
  rw [index]

variable {front back : List α}

theorem pick_append_left (some : ∃ item ∈ front, pass item = true) :
    pick pass (front ++ back) = pick pass front := by
  have inside : front.findIdx pass < front.length := findIdx_lt_length.mpr some
  unfold pick
  rw [findIdx_append, if_pos inside, if_pos inside, if_pos]
  rw [length_append]
  omega

theorem pick_append_right (none : ∀ item ∈ front, pass item = false)
    (nonempty : back ≠ []) : pick pass (front ++ back) = front.length + pick pass back := by
  have positive := length_pos_of_ne_nil nonempty
  have outside : ¬ front.findIdx pass < front.length := by
    rw [findIdx_lt_length]
    intro found
    obtain ⟨item, member, passes⟩ := found
    rw [none item member] at passes
    cases passes
  unfold pick
  rw [findIdx_append, if_neg outside, length_append]
  by_cases found : back.findIdx pass < back.length
  · rw [if_pos found, if_pos (by omega), Nat.add_comm]
  · rw [if_neg found, if_neg (by omega)]
    omega

theorem pick_around {before after : List α} {item : α} (picked : pick pass (before ++ item :: after) = before.length) :
    (∀ other ∈ before, pass other = false) ∧ (after ≠ [] → pass item = true) := by
  have skipped : ∀ other ∈ before, pass other = false := by
    intro other member
    apply Bool.eq_false_iff.mpr
    intro passes
    have inside : before ≠ [] := ne_nil_of_mem member
    rw [pick_append_left ⟨other, member, passes⟩] at picked
    have short : pick pass before < before.length := pick_lt inside
    omega
  refine ⟨skipped, fun more => ?_⟩
  rw [pick_append_right skipped (cons_ne_nil _ _)] at picked
  by_contra missing
  have alone : ∀ other ∈ [item], pass other = false := by
    intro other member
    rw [mem_singleton.mp member]
    exact Bool.eq_false_iff.mpr missing
  rw [show item :: after = [item] ++ after from rfl, pick_append_right alone more] at picked
  simp only [length_singleton] at picked
  omega

theorem pick_split : ∀ {parts : List (List α)}, parts ≠ [] → (∀ part ∈ parts, part ≠ []) →
    parts.flatten.Pairwise (fun left right => pass left = true → pass right = true) →
    ∃ before part after, parts = before ++ part :: after ∧
      pick (fun part => part.getLast?.any pass) parts = before.length ∧
      pick pass parts.flatten = before.flatten.length + pick pass part
  | [], nonempty, _, _ => absurd rfl nonempty
  | part :: rest, _, filled, monotone => by
    have part_filled := filled part (by simp)
    have last := getLast?_eq_some_getLast part_filled
    by_cases hit : pass (part.getLast part_filled) = true
    · refine ⟨[], part, rest, rfl, ?_, ?_⟩
      · simp [pick, findIdx_cons, last, hit]
      · rw [flatten_cons, pick_append_left ⟨_, getLast_mem part_filled, hit⟩]
        simp
    · have missing : ∀ item ∈ part, pass item = false := by
        intro item member
        apply Bool.eq_false_iff.mpr
        intro passes
        apply hit
        rw [flatten_cons, pairwise_append] at monotone
        rcases mem_iff_getElem.mp member with ⟨index, inside, same⟩
        by_cases final : index = part.length - 1
        · rw [getLast_eq_getElem part_filled]
          subst final
          rw [same]
          exact passes
        · have later : index < part.length - 1 := by omega
          rw [getLast_eq_getElem part_filled]
          exact pairwise_iff_getElem.mp monotone.1 index (part.length - 1) inside (by omega) later (same ▸ passes)
      by_cases alone : rest = []
      · subst alone
        refine ⟨[], part, [], rfl, ?_, by simp⟩
        simp [pick]
      · have rest_filled : ∀ other ∈ rest, other ≠ [] := fun other member => filled other (mem_cons_of_mem _ member)
        have rest_flat : rest.flatten ≠ [] := by
          obtain ⟨other, member⟩ := exists_mem_of_ne_nil rest alone
          intro empty
          exact rest_filled other member (flatten_eq_nil_iff.mp empty other member)
        rw [flatten_cons, pairwise_append] at monotone
        obtain ⟨before, found, after, same, picked, position⟩ := pick_split alone rest_filled monotone.2.1
        refine ⟨part :: before, found, after, by rw [same]; rfl, ?_, ?_⟩
        · have skip : ∀ other ∈ [part], other.getLast?.any pass = false := by
            intro other member
            rw [mem_singleton.mp member, last]
            exact Bool.eq_false_iff.mpr hit
          rw [show part :: rest = [part] ++ rest from rfl, pick_append_right skip alone, picked]
          simp [Nat.add_comm]
        · rw [flatten_cons, pick_append_right missing rest_flat, position, flatten_cons, length_append]
          omega

end Parts

/-- Trees that are read to a given level: a leaf at level 0, a node of trees one level lower above it. -/
inductive LevelTree (α : Type) where
  | leaf (items : List α)
  | node (children : List (LevelTree α))

namespace LevelTree
variable {α : Type}

def leaves : Nat → LevelTree α → List α
  | 0, .leaf items => items
  | level + 1, .node children => (children.map (leaves level)).flatten
  | _, _ => []

/-- All leaves stand at one level, and every node has a child and at most `fanout` of them. -/
def Bounded (fanout : Nat) : Nat → LevelTree α → Prop
  | 0, .leaf items => items ≠ [] ∧ items.length ≤ fanout
  | level + 1, .node children => children ≠ [] ∧ children.length ≤ fanout ∧ ∀ child ∈ children, Bounded fanout level child
  | _, _ => False

variable {fanout : Nat}

theorem leaves_ne_nil : ∀ {level : Nat} {tree : LevelTree α}, Bounded fanout level tree → leaves level tree ≠ []
  | 0, .leaf _, bounded => bounded.1
  | level + 1, .node children, bounded => by
    obtain ⟨nonempty, _, inner_bounded⟩ := bounded
    obtain ⟨child, member⟩ := List.exists_mem_of_ne_nil children nonempty
    have inner := leaves_ne_nil (inner_bounded child member)
    intro empty
    have every := List.flatten_eq_nil_iff.mp empty
    exact inner (every _ (List.mem_map_of_mem member))

/-- Replace the leaf at a position; a node that overflows is cut in two. -/
def splice (fanout : Nat) : Nat → LevelTree α → Nat → List α → List (LevelTree α)
  | 0, .leaf items, index, replacement => (Parts.overflow fanout (Parts.splice items index replacement)).map .leaf
  | level + 1, .node children, index, replacement =>
    match Parts.select (children.map fun child => (leaves level child).length) index with
    | none => [.node children]
    | some (position, inner) =>
      match children[position]? with
      | none => [.node children]
      | some child =>
        (Parts.overflow fanout (Parts.splice children position (splice fanout level child inner replacement))).map .node
  | _, tree, _, _ => [tree]

theorem select_child {level index : Nat} {children : List (LevelTree α)}
    (inside : index < (children.map (leaves level)).flatten.length) :
    ∃ before child after inner, children = before ++ child :: after ∧
      Parts.select (children.map fun child => (leaves level child).length) index = some (before.length, inner) ∧
      inner < (leaves level child).length ∧ index = (before.map (leaves level)).flatten.length + inner := by
  obtain ⟨_, _, _, inner, same, selected, inner_lt, position⟩ := Parts.select_split inside
  obtain ⟨front, _, children_split, front_same, back_same⟩ := List.map_eq_append_iff.mp same
  obtain ⟨child, rest, back_split, child_same, _⟩ := List.map_eq_cons_iff.mp back_same
  subst front_same child_same
  refine ⟨front, child, rest, inner, by rw [children_split, back_split], ?_, inner_lt, position⟩
  rw [List.map_map, List.length_map] at selected
  exact selected

theorem splice_child {level index inner : Nat} {before after : List (LevelTree α)} {child : LevelTree α}
    (selected : Parts.select ((before ++ child :: after).map fun child => (leaves level child).length) index =
      some (before.length, inner)) (replacement : List α) :
    splice fanout (level + 1) (.node (before ++ child :: after)) index replacement =
      (Parts.overflow fanout (before ++ splice fanout level child inner replacement ++ after)).map .node := by
  have found : (before ++ child :: after)[before.length]? = some child := by simp
  simp only [splice, selected, found, Parts.splice_middle]

theorem flatten_leaves (level : Nat) (groups : List (List (LevelTree α))) :
    ((groups.map LevelTree.node).map (leaves (level + 1))).flatten = (groups.flatten.map (leaves level)).flatten := by
  induction groups with
  | nil => rfl
  | cons _ _ ih =>
    rw [List.map_cons, List.map_cons, List.flatten_cons, ih, List.flatten_cons, List.map_append, List.flatten_append]
    rfl

theorem leaves_splice (fanout : Nat) : ∀ (level : Nat) {tree : LevelTree α} {index : Nat} (replacement : List α),
    index < (leaves level tree).length →
    ((splice fanout level tree index replacement).map (leaves level)).flatten =
      Parts.splice (leaves level tree) index replacement
  | 0, .leaf items, index, replacement, _ => by
    have same : ∀ groups : List (List α), (groups.map LevelTree.leaf).map (leaves 0) = groups := by
      intro groups
      rw [List.map_map]
      exact List.map_id groups
    rw [splice, same, Parts.overflow_flatten]
    rfl
  | level + 1, .node children, index, replacement, inside => by
    obtain ⟨_, _, _, _, split, selected, inner_lt, position⟩ := select_child inside
    subst split
    rw [splice_child selected, flatten_leaves, Parts.overflow_flatten, List.map_append, List.map_append,
      List.flatten_append, List.flatten_append, leaves_splice fanout level replacement inner_lt, position,
      ← Parts.splice_append _ _ _ inner_lt]
    simp [leaves]
  | 0, .node _, _, _, inside => absurd inside (Nat.not_lt_zero _)
  | _ + 1, .leaf _, _, _, inside => absurd inside (Nat.not_lt_zero _)

theorem splice_length_le (fanout : Nat) : ∀ (level : Nat) (tree : LevelTree α) (index : Nat) (replacement : List α),
    (splice fanout level tree index replacement).length ≤ 2
  | 0, .leaf items, index, replacement => by
    rw [splice, List.length_map]
    exact Parts.overflow_length_le _ _
  | level + 1, .node children, index, replacement => by
    unfold splice
    split
    · simp
    · split
      · simp
      · rw [List.length_map]
        exact Parts.overflow_length_le _ _
  | 0, .node _, _, _ => by simp [splice]
  | _ + 1, .leaf _, _, _ => by simp [splice]

theorem splice_bounded (positive : 0 < fanout) : ∀ (level : Nat) {tree : LevelTree α} {index : Nat}
    {replacement : List α}, replacement.length ≤ fanout + 1 → index < (leaves level tree).length → Bounded fanout level tree →
    ∀ piece ∈ splice fanout level tree index replacement, Bounded fanout level piece
  | 0, .leaf items, index, replacement, short, inside, bounded => by
    intro piece member
    obtain ⟨group, group_member, rfl⟩ := List.mem_map.mp member
    have fits : (Parts.splice items index replacement).length ≤ 2 * fanout := by
      have small := bounded.2
      have within : index < items.length := inside
      unfold Parts.splice
      simp only [List.length_append, List.length_take, List.length_drop]
      omega
    obtain ⟨nonempty, small, _⟩ := Parts.overflow_bounds positive fits group group_member
    exact ⟨nonempty, small⟩
  | level + 1, .node children, index, replacement, short, inside, bounded => by
    obtain ⟨before, child, after, inner, split, selected, inner_lt, _⟩ := select_child inside
    subst split
    rw [splice_child selected]
    intro piece member
    obtain ⟨group, group_member, rfl⟩ := List.mem_map.mp member
    obtain ⟨_, small, inner_bounded⟩ := bounded
    have child_bounded := inner_bounded child (by simp)
    have pieces := splice_length_le fanout level child inner replacement
    have fits : (before ++ splice fanout level child inner replacement ++ after).length ≤ 2 * fanout := by
      simp only [List.length_append, List.length_cons] at small ⊢
      omega
    obtain ⟨nonempty, piece_small, sources⟩ := Parts.overflow_bounds positive fits group group_member
    refine ⟨nonempty, piece_small, ?_⟩
    intro grandchild grandmember
    have source := sources grandchild grandmember
    simp only [List.mem_append] at source
    rcases source with (front | middle) | back
    · exact inner_bounded _ (by simp [front])
    · exact splice_bounded positive level short inner_lt child_bounded _ middle
    · exact inner_bounded _ (by simp [back])

def PathFull (fanout : Nat) : Nat → LevelTree α → Nat → Prop
  | 0, .leaf items, _ => items.length = fanout
  | level + 1, .node children, index => children.length = fanout ∧
    ∃ position inner child, Parts.select (children.map fun child => (leaves level child).length) index = some (position, inner) ∧
      children[position]? = some child ∧ PathFull fanout level child inner
  | _, _, _ => False

/-- Every node above a leaf is full, and so many leaves in its place are too many for the lowest node. -/
def PathTight (fanout count : Nat) : Nat → LevelTree α → Nat → Prop
  | 0, .leaf items, _ => fanout < items.length - 1 + count
  | level + 1, .node children, index => children.length = fanout ∧
    ∃ position inner child, Parts.select (children.map fun child => (leaves level child).length) index = some (position, inner) ∧
      children[position]? = some child ∧ PathTight fanout count level child inner
  | _, _, _ => False

theorem PathTight.full {count : Nat} (short : count ≤ 2) : ∀ {level : Nat} {tree : LevelTree α} {index : Nat},
    Bounded fanout level tree → PathTight fanout count level tree index → count = 2 ∧ PathFull fanout level tree index
  | 0, .leaf items, _, bounded, tight => by
    have small := bounded.2
    have positive := List.length_pos_of_ne_nil bounded.1
    have grown : fanout < items.length - 1 + count := tight
    exact ⟨by omega, show items.length = fanout by omega⟩
  | _ + 1, .node _, _, bounded, tight => by
    obtain ⟨full, position, inner, child, selected, found, below⟩ := tight
    obtain ⟨doubled, path⟩ := PathTight.full short (bounded.2.2 child (List.mem_of_getElem? found)) below
    exact ⟨doubled, full, position, inner, child, selected, found, path⟩

theorem overflow_two_iff {β : Type} {items : List β} : (Parts.overflow limit items).length = 2 ↔ limit < items.length := by
  rw [Parts.overflow_length]
  split
  · omega
  · split <;> omega

theorem splice_two_iff : ∀ (level : Nat) {tree : LevelTree α} {index : Nat} (replacement : List α),
    index < (leaves level tree).length → Bounded fanout level tree →
    ((splice fanout level tree index replacement).length = 2 ↔ PathTight fanout replacement.length level tree index)
  | 0, .leaf items, index, replacement, inside, _ => by
    have within : index < items.length := inside
    rw [splice, List.length_map, overflow_two_iff]
    simp only [Parts.splice, PathTight, List.length_append, List.length_take, List.length_drop]
    omega
  | level + 1, .node children, index, replacement, inside, bounded => by
    obtain ⟨before, child, after, inner, split, selected, inner_lt, _⟩ := select_child inside
    subst split
    obtain ⟨_, small, inner_bounded⟩ := bounded
    have pieces := splice_length_le fanout level child inner replacement
    have below := splice_two_iff level replacement inner_lt (inner_bounded child (by simp))
    rw [splice_child selected, List.length_map, overflow_two_iff]
    simp only [List.length_append, List.length_cons] at small ⊢
    constructor
    · intro grown
      exact ⟨by simp only [List.length_append, List.length_cons]; omega, _, inner, child, selected, by simp, below.mp (by omega)⟩
    · rintro ⟨full, position, inner', child', selected', found, tight⟩
      obtain ⟨rfl, rfl⟩ := Prod.mk.inj (Option.some.inj (selected.symm.trans selected'))
      obtain rfl : child = child' := by simpa using found
      have doubled := below.mpr tight
      simp only [List.length_append, List.length_cons] at full
      omega
  | 0, .node _, _, _, inside, _ => absurd inside (Nat.not_lt_zero _)
  | _ + 1, .leaf _, _, _, inside, _ => absurd inside (Nat.not_lt_zero _)

def frontSum : Nat → LevelTree α → Nat
  | 0, .leaf items => items.length
  | level + 1, .node (child :: rest) => rest.length + 1 + frontSum level child
  | _, _ => 0

theorem frontSum_le : ∀ {level : Nat} {tree : LevelTree α}, Bounded fanout level tree →
    frontSum level tree ≤ fanout * (level + 1)
  | 0, .leaf _, bounded => by
    rw [Nat.mul_one]
    exact bounded.2
  | _ + 1, .node [], bounded => absurd rfl bounded.1
  | level + 1, .node (child :: rest), bounded => by
    have below := frontSum_le (bounded.2.2 child List.mem_cons_self)
    have small : rest.length + 1 ≤ fanout := bounded.2.1
    rw [frontSum, Nat.mul_succ fanout (level + 1)]
    omega

/-- A node that is cut keeps all that it may hold at the front, so that every leaf added there is seen in the sizes. -/
theorem splice_front : ∀ (level : Nat) {tree : LevelTree α} {replacement : List α}, replacement.length = 2 →
    Bounded fanout level tree → ∃ first rest, splice fanout level tree 0 replacement = first :: rest ∧
      frontSum level first + rest.length = frontSum level tree + 1
  | 0, .leaf items, replacement, two, bounded => by
    obtain ⟨nonempty, small⟩ := bounded
    have positive := List.length_pos_of_ne_nil nonempty
    have grown : (Parts.splice items 0 replacement).length = items.length + 1 := by
      simp only [Parts.splice, List.take_zero, List.nil_append, List.length_append, List.length_drop]
      omega
    unfold splice Parts.overflow
    split
    · rw [if_neg (by omega)]
      exact ⟨_, [], rfl, grown⟩
    · refine ⟨_, [_], rfl, ?_⟩
      simp only [frontSum, List.length_take, List.length_singleton]
      omega
  | level + 1, .node [], _, _, bounded => absurd rfl bounded.1
  | level + 1, .node (child :: siblings), replacement, two, bounded => by
    obtain ⟨_, small, inner⟩ := bounded
    have filled := List.length_pos_of_ne_nil (leaves_ne_nil (inner child List.mem_cons_self))
    obtain ⟨first, more, below, sizes⟩ := splice_front level two (inner child List.mem_cons_self)
    have pieces := splice_length_le fanout level child 0 replacement
    have selected : Parts.select (([] ++ child :: siblings).map fun child => (leaves level child).length) 0 =
        some (([] : List (LevelTree α)).length, 0) := by
      simp [Parts.select, filled]
    have cut : splice fanout _ _ _ _ = _ := splice_child selected replacement
    rw [List.nil_append, List.nil_append, below, List.cons_append] at cut
    rw [cut]
    rw [below, List.length_cons] at pieces
    rw [List.length_cons] at small
    unfold Parts.overflow
    split
    · refine ⟨_, [], rfl, ?_⟩
      simp only [frontSum, List.length_append, List.length_nil]
      omega
    · rename_i long
      rw [List.length_cons, List.length_append] at long
      obtain ⟨spare, rfl⟩ := Nat.exists_eq_add_of_lt (Nat.lt_of_lt_of_le (Nat.succ_pos _) small)
      refine ⟨_, [_], rfl, ?_⟩
      simp only [Nat.zero_add, List.take_succ_cons, frontSum, List.length_take, List.length_append, List.length_singleton]
      omega

theorem leaves_length_le : ∀ {level : Nat} {tree : LevelTree α}, Bounded fanout level tree →
    (leaves level tree).length ≤ fanout ^ (level + 1)
  | 0, .leaf items, bounded => by
    rw [Nat.pow_one]
    exact bounded.2
  | level + 1, .node children, bounded => by
    obtain ⟨_, small, inner⟩ := bounded
    have parts : ∀ part ∈ children.map (leaves level), part.length ≤ fanout ^ (level + 1) := by
      intro part member
      obtain ⟨child, inside, rfl⟩ := List.mem_map.mp member
      exact leaves_length_le (inner child inside)
    have whole := Parts.flatten_length_le parts
    rw [List.length_map] at whole
    rw [leaves, Nat.pow_succ, Nat.mul_comm]
    exact Nat.le_trans whole (Nat.mul_le_mul_right _ small)

end LevelTree
