import Mathlib.Data.List.Basic
import Mathlib.Data.List.Chain
import Mathlib.Data.List.Nodup
import Mathlib.Data.List.TakeWhile
import Mathlib.Algebra.BigOperators.Group.List.Basic
import Mathlib.Logic.Relation
import Mathlib.Order.WellFoundedSet
import Mathlib.Tactic.Ring

namespace Search
open List
variable {α : Type} [DecidableEq α]

/-- Depth-first reachability with an explicit stack, top of the stack first. -/
def worklist (succ : α → List α) (target : α) : Nat → List α → List α → Bool
  | 0, _, _ => false
  | _ + 1, _, [] => false
  | fuel + 1, visited, id :: rest =>
    if id ∈ visited then worklist succ target fuel visited rest
    else if id = target then true
    else worklist succ target fuel (id :: visited) ((succ id).reverse ++ rest)

def weight (succ : α → List α) (nodes : List α) (done : α → Bool) : Nat :=
  ((nodes.filter (fun node => !done node)).map (fun node => (succ node).length + 1)).sum

variable {nodes visited : List α} {fuel : Nat} {succ : α → List α} {target : α} {relation : α → α → Prop}
variable {known : α → Bool} {answer : Option (List α)}
variable {id source last node next : α} {above : Option α}

theorem weight_remove (succ : α → List α) (done done' : α → Bool)
    (distinct : nodes.Nodup) (member : id ∈ nodes) (pending : done id = false)
    (now : ∀ node, done' node = (done node || decide (node = id))) :
    weight succ nodes done' + ((succ id).length + 1) = weight succ nodes done := by
  induction nodes with
  | nil => cases member
  | cons node rest ih =>
    rw [nodup_cons] at distinct
    by_cases same : node = id
    · subst node
      have unchanged : rest.filter (fun node => !done' node) = rest.filter (fun node => !done node) := by
        apply filter_congr
        intro node inside
        have different : node ≠ id := fun equal => distinct.1 (equal ▸ inside)
        simp [now, different]
      have dropped : done' id = true := by simp [now]
      simp [weight, dropped, pending, unchanged]
      ring
    · have inside : id ∈ rest := (mem_cons.mp member).resolve_left (fun equal => same equal.symm)
      have tail := ih distinct.2 inside
      have kept : done' node = done node := by simp [now, same]
      unfold weight at tail ⊢
      cases seen : done node <;> simp [kept, seen] at tail ⊢ <;> omega

omit [DecidableEq α] in
theorem weight_le (succ : α → List α) (nodes : List α) (done : α → Bool) :
    weight succ nodes done ≤ weight succ nodes (fun _ => false) := by
  induction nodes with
  | nil => simp [weight]
  | cons node _ ih =>
    unfold weight at ih ⊢
    cases seen : done node <;> simp [seen] at ih ⊢ <;> omega

def edge (succ : α → List α) (source target : α) : Prop := target ∈ succ source

theorem worklist_sound {stack : List α} (found : worklist succ target fuel visited stack = true) :
    ∃ start ∈ stack, Relation.ReflTransGen (edge succ) start target := by
  induction fuel generalizing visited stack with
  | zero => simp [worklist] at found
  | succ _ ih =>
    cases stack with
    | nil => simp [worklist] at found
    | cons id =>
      simp only [worklist] at found
      split at found
      · obtain ⟨start, member, path⟩ := ih found
        exact ⟨start, mem_cons_of_mem _ member, path⟩
      split at found
      · rename_i same
        exact ⟨id, by simp, same ▸ .refl⟩
      · obtain ⟨start, member, path⟩ := ih found
        rcases mem_append.mp member with next | below
        · exact ⟨id, by simp, .head (mem_reverse.mp next) path⟩
        · exact ⟨start, mem_cons_of_mem _ below, path⟩

/-- Depth-first closure: what the stack reaches joins `visited`, except for skipped items. -/
def flood (skip : α → Bool) (succ : α → List α) : Nat → List α → List α → List α
  | 0, visited, _ => visited
  | _ + 1, visited, [] => visited
  | fuel + 1, visited, id :: rest =>
    if skip id = true ∨ id ∈ visited then flood skip succ fuel visited rest
    else flood skip succ fuel (visited ++ [id]) ((succ id).reverse ++ rest)

theorem flood_sound {skip : α → Bool} {property : α → Prop}
    (closed : ∀ id, property id → ∀ next ∈ succ id, property next) {stack : List α}
    (seen : ∀ id ∈ visited, property id) (waiting : ∀ id ∈ stack, property id) :
    ∀ id ∈ flood skip succ fuel visited stack, property id := by
  induction fuel generalizing visited stack with
  | zero => exact seen
  | succ _ ih =>
    cases stack with
    | nil => exact seen
    | cons id rest =>
      have below : ∀ other ∈ rest, property other := fun other member => waiting other (mem_cons_of_mem _ member)
      simp only [flood]
      split
      · exact ih seen below
      apply ih
      · intro other member
        rcases mem_append.mp member with old | new
        · exact seen other old
        · exact mem_singleton.mp new ▸ waiting id mem_cons_self
      · intro other member
        rcases mem_append.mp member with next | old
        · exact closed id (waiting id mem_cons_self) other (mem_reverse.mp next)
        · exact below other old

theorem flood_closed {skip : α → Bool} (distinct : nodes.Nodup)
    (closed : ∀ node ∈ nodes, ∀ next ∈ succ node, next ∈ nodes) {stack : List α}
    (enough : stack.length + weight succ nodes (fun node => decide (node ∈ visited)) < fuel)
    (inside : ∀ node ∈ stack, node ∈ nodes) : (∀ id ∈ visited, id ∈ flood skip succ fuel visited stack) ∧
    (∀ id ∈ stack, skip id = false → id ∈ flood skip succ fuel visited stack) ∧
    (∀ id ∈ flood skip succ fuel visited stack, id ∈ visited ∨
      (id ∈ nodes ∧ ∀ next ∈ succ id, skip next = false → next ∈ flood skip succ fuel visited stack)) := by
  induction fuel generalizing visited stack with
  | zero => omega
  | succ _ ih =>
    cases stack with
    | nil => exact ⟨fun _ member => member, by simp, fun _ member => .inl member⟩
    | cons id rest =>
      have below : ∀ node ∈ rest, node ∈ nodes := fun node member => inside node (mem_cons_of_mem _ member)
      simp only [flood]
      split
      · rename_i passed
        obtain ⟨kept, taken, settled⟩ := @ih visited rest (by simp only [length_cons] at enough; omega) below
        refine ⟨kept, ?_, settled⟩
        intro other member wanted
        rcases mem_cons.mp member with rfl | member
        · exact kept _ (passed.resolve_left (by simp [wanted]))
        · exact taken other member wanted
      · rename_i entered
        have known := inside id mem_cons_self
        have fresh : id ∉ visited := fun member => entered (.inr member)
        have drop := weight_remove succ (fun node => decide (node ∈ visited))
          (fun node => decide (node ∈ visited ++ [id])) distinct known (by simpa using fresh)
          (by intro node; by_cases same : node = id <;> simp [same])
        obtain ⟨kept, taken, settled⟩ := @ih (visited ++ [id]) ((succ id).reverse ++ rest)
          (by simp only [length_append, length_reverse, length_cons] at enough ⊢; omega)
          (by
            intro node member
            rcases mem_append.mp member with next | old
            · exact closed id known node (mem_reverse.mp next)
            · exact below node old)
        refine ⟨fun other member => kept other (mem_append_left _ member), ?_, ?_⟩
        · intro other member wanted
          rcases mem_cons.mp member with rfl | member
          · exact kept _ (by simp)
          · exact taken other (mem_append_right _ member) wanted
        · intro other member
          rcases settled other member with old | new
          · rcases mem_append.mp old with old | same
            · exact .inl old
            · rw [mem_singleton] at same
              subst same
              exact .inr ⟨known, fun next step wanted =>
                taken next (mem_append_left _ (mem_reverse.mpr step)) wanted⟩
          · exact .inr new

/-- A search that misses its target stops where the closure does. -/
theorem worklist_missed {seen stack : List α} (same : ∀ node, node ∈ seen ↔ node ∈ visited) (fresh : target ∉ visited)
    (missed : worklist succ target fuel visited stack = false) : target ∉ flood (fun _ => false) succ fuel seen stack := by
  induction fuel generalizing seen visited stack with
  | zero => exact fun member => fresh ((same target).mp member)
  | succ _ ih =>
    cases stack with
    | nil => exact fun member => fresh ((same target).mp member)
    | cons id =>
      simp only [worklist] at missed
      simp only [flood, Bool.false_eq_true, false_or, same]
      split at missed
      · rename_i old
        rw [if_pos old]
        exact ih same fresh missed
      rename_i new
      rw [if_neg new]
      split at missed
      · cases missed
      rename_i different
      refine ih (fun node => by simp [same, or_comm]) ?_ missed
      simp only [mem_cons, not_or]
      exact ⟨fun equal => different equal.symm, fresh⟩

/-- A search that starts from the successors of `source` decides nonempty paths. Skipped
nodes have no successors, so leaving them out loses no path. -/
theorem worklist_iff {skipped : List α}
    (distinct : nodes.Nodup) (closed : ∀ node ∈ nodes, ∀ next ∈ succ node, next ∈ nodes)
    (member : source ∈ nodes) (barren : ∀ node ∈ skipped, succ node = []) (wanted : target ∉ skipped)
    (enough : (succ source).length + weight succ nodes (fun _ => false) < fuel) :
    worklist succ target fuel skipped (succ source).reverse = true ↔ Relation.TransGen (edge succ) source target := by
  constructor
  · intro found
    obtain ⟨_, first, path⟩ := worklist_sound found
    exact Relation.TransGen.head' (mem_reverse.mp first) path
  · intro path
    by_contra missed
    rw [Bool.not_eq_true] at missed
    obtain ⟨start, first, rest⟩ := (Relation.TransGen.head'_iff).mp path
    have bound := weight_le succ nodes (fun node => decide (node ∈ skipped))
    obtain ⟨_, taken, settled⟩ := @flood_closed _ _ nodes skipped fuel succ (fun _ => false) distinct closed
      (succ source).reverse (by simp only [length_reverse]; omega)
      fun node inside => closed source member node (mem_reverse.mp inside)
    apply worklist_missed (fun _ => .rfl) wanted missed
    clear wanted missed path
    induction rest with
    | refl => exact taken start (mem_reverse.mpr first) rfl
    | tail _ step ih =>
      rcases settled _ ih with inside | ⟨_, next⟩
      · exact absurd step (by simp [edge, barren _ inside])
      · exact next _ step rfl

/-- One frame of the cycle search: a node on the current path and its neighbours still to visit. -/
structure Frame (α : Type) where
  id : α
  pending : List α

inductive Outcome (α : Type) where
  | cycle (nodes : List α)
  | done (visited : List α)

/-- Depth-first search for a cycle below one root. The stack holds the current path, innermost
frame first; a neighbour on the path closes a cycle. -/
def explore (known : α → Bool) (succ : α → List α) : Nat → List α → List (Frame α) → Outcome α
  | 0, visited, _ => .done visited
  | _ + 1, visited, [] => .done visited
  | fuel + 1, visited, ⟨id, []⟩ :: rest => explore known succ fuel (id :: visited) rest
  | fuel + 1, visited, ⟨id, next :: more⟩ :: rest =>
    if known next = false then explore known succ fuel visited (⟨id, more⟩ :: rest)
    else if next ∈ id :: rest.map Frame.id then
      .cycle (next :: ((id :: rest.map Frame.id).takeWhile (fun node => node ≠ next)).reverse ++ [next])
    else if next ∉ visited then explore known succ fuel visited (⟨next, succ next⟩ :: ⟨id, more⟩ :: rest)
    else explore known succ fuel visited (⟨id, more⟩ :: rest)

def searchRoots (known : α → Bool) (succ : α → List α) (fuel : Nat) :
    List α → List α → Option (List α)
  | [], _ => none
  | root :: roots, visited =>
    if root ∈ visited then searchRoots known succ fuel roots visited
    else match explore known succ fuel visited [⟨root, succ root⟩] with
      | .cycle nodes => some nodes
      | .done visited' => searchRoots known succ fuel roots visited'

/-- The runs of `explore` that end, step by step and without fuel. -/
inductive Explored (known : α → Bool) (succ : α → List α) : List α → List (Frame α) → Outcome α → Prop
  | empty {visited : List α} : Explored known succ visited [] (.done visited)
  | leave {visited : List α} {id : α} {rest : List (Frame α)} {outcome : Outcome α}
      (later : Explored known succ (id :: visited) rest outcome) :
      Explored known succ visited (⟨id, []⟩ :: rest) outcome
  | skip {visited more : List α} {id next : α} {rest : List (Frame α)} {outcome : Outcome α}
      (passable : known next = false ∨ (next ∉ id :: rest.map Frame.id ∧ next ∈ visited))
      (later : Explored known succ visited (⟨id, more⟩ :: rest) outcome) :
      Explored known succ visited (⟨id, next :: more⟩ :: rest) outcome
  | close {visited more : List α} {id next : α} {rest : List (Frame α)} (knownNext : known next = true)
      (onPath : next ∈ id :: rest.map Frame.id) :
      Explored known succ visited (⟨id, next :: more⟩ :: rest)
        (.cycle (next :: ((id :: rest.map Frame.id).takeWhile (fun node => node ≠ next)).reverse ++ [next]))
  | enter {visited more : List α} {id next : α} {rest : List (Frame α)} {outcome : Outcome α}
      (knownNext : known next = true) (offPath : next ∉ id :: rest.map Frame.id) (fresh : next ∉ visited)
      (later : Explored known succ visited (⟨next, succ next⟩ :: ⟨id, more⟩ :: rest) outcome) :
      Explored known succ visited (⟨id, next :: more⟩ :: rest) outcome

inductive SearchedRoots (known : α → Bool) (succ : α → List α) : List α → List α → Option (List α) → Prop
  | empty {visited : List α} : SearchedRoots known succ [] visited none
  | seen {root : α} {roots visited : List α} {answer : Option (List α)} (seen : root ∈ visited)
      (later : SearchedRoots known succ roots visited answer) : SearchedRoots known succ (root :: roots) visited answer
  | cycle {root : α} {roots visited nodes : List α} (fresh : root ∉ visited)
      (explored : Explored known succ visited [⟨root, succ root⟩] (.cycle nodes)) :
      SearchedRoots known succ (root :: roots) visited (some nodes)
  | done {root : α} {roots visited visited' : List α} {answer : Option (List α)} (fresh : root ∉ visited)
      (explored : Explored known succ visited [⟨root, succ root⟩] (.done visited'))
      (later : SearchedRoots known succ roots visited' answer) : SearchedRoots known succ (root :: roots) visited answer

def knownEdge (known : α → Bool) (succ : α → List α) (source target : α) : Prop :=
  known source = true ∧ known target = true ∧ target ∈ succ source

def Acyclic (relation : α → α → Prop) : Prop := ∀ node, ¬ Relation.TransGen relation node node

omit [DecidableEq α] in
theorem Acyclic.mono {small large : α → α → Prop} (acyclic : Acyclic large)
    (smaller : ∀ source target, small source target → large source target) : Acyclic small :=
  fun node loop => acyclic node (Relation.TransGen.mono smaller _ _ loop)

omit [DecidableEq α] in
/-- A finite nonempty set of nodes has one whose successors all lie outside the set. -/
theorem Acyclic.exists_minimal (acyclic : Acyclic relation) {nodes : Finset α}
    (nonempty : nodes.Nonempty) : ∃ node ∈ nodes, ∀ next, relation node next → next ∉ nodes := by
  have order : IsStrictOrder α (fun left right => Relation.TransGen relation right left) :=
    { irrefl := fun node loop => acyclic node loop
      trans := fun _ _ _ first second => second.trans first }
  obtain ⟨start, member⟩ := nonempty
  have founded : Set.WellFoundedOn (nodes : Set α) (fun left right => Relation.TransGen relation right left) :=
    Finset.wellFoundedOn nodes
  obtain ⟨⟨node, inside⟩, _, least⟩ := founded.has_min Set.univ ⟨⟨start, member⟩, trivial⟩
  refine ⟨node, inside, ?_⟩
  intro next step present
  exact least ⟨next, present⟩ trivial (Relation.TransGen.single step)

omit [DecidableEq α] in
/-- A path in a relation with one more edge avoids that edge or runs through it. -/
theorem path_insert {first : α}
    (path : Relation.TransGen (fun left right => relation left right ∨ (left = source ∧ right = target)) first last) :
    Relation.TransGen relation first last ∨
      (Relation.ReflTransGen relation first source ∧ Relation.ReflTransGen relation target last) := by
  induction path with
  | single step =>
    rcases step with old | ⟨same, same'⟩
    · exact .inl (.single old)
    · exact .inr ⟨same ▸ .refl, same' ▸ .refl⟩
  | tail _ step ih =>
    rcases step with old | ⟨same, same'⟩
    · rcases ih with direct | ⟨before, after⟩
      · exact .inl (direct.tail old)
      · exact .inr ⟨before, after.tail old⟩
    · rcases ih with direct | ⟨before, _⟩
      · exact .inr ⟨same ▸ direct.to_reflTransGen, same' ▸ .refl⟩
      · exact .inr ⟨before, same' ▸ .refl⟩

omit [DecidableEq α] in
theorem Acyclic.insert_iff (acyclic : Acyclic relation) :
    Acyclic (fun left right => relation left right ∨ (left = source ∧ right = target)) ↔
      ¬ Relation.ReflTransGen relation target source := by
  constructor
  · intro closed back
    apply closed source
    exact Relation.TransGen.head' (.inr ⟨rfl, rfl⟩)
      (Relation.ReflTransGen.mono (fun _ _ step => .inl step) _ _ back)
  · intro free node loop
    rcases path_insert loop with direct | ⟨before, after⟩
    · exact acyclic node direct
    · exact free (after.trans before)

/-- Every node's known neighbours were finished before it: the list is a reverse finishing order. -/
def Finished (known : α → Bool) (succ : α → List α) : List α → Prop
  | [] => True
  | node :: rest => node ∉ rest ∧ (∀ next ∈ succ node, known next = true → next ∈ rest) ∧
      Finished known succ rest

omit [DecidableEq α] in
theorem Finished.closed (finished : Finished known succ visited) (member : node ∈ visited)
    (step : next ∈ succ node) (known' : known next = true) : next ∈ visited := by
  induction visited with
  | nil => cases member
  | cons _ _ ih =>
    rcases mem_cons.mp member with rfl | member
    · exact mem_cons_of_mem _ (finished.2.1 next step known')
    · exact mem_cons_of_mem _ (ih finished.2.2 member)

omit [DecidableEq α] in
theorem Finished.trans_closed (finished : Finished known succ visited) (member : node ∈ visited)
    (path : Relation.TransGen (knownEdge known succ) node last) : last ∈ visited := by
  induction path with
  | single step => exact finished.closed member step.2.2 step.2.1
  | tail _ step ih => exact finished.closed ih step.2.2 step.2.1

omit [DecidableEq α] in
theorem Finished.acyclic (finished : Finished known succ visited) (member : node ∈ visited) :
    ¬ Relation.TransGen (knownEdge known succ) node node := by
  induction visited with
  | nil => cases member
  | cons _ _ ih =>
    rcases mem_cons.mp member with rfl | member
    · intro loop
      obtain ⟨next, step, back⟩ := (Relation.TransGen.head'_iff).mp loop
      have inRest := finished.2.1 next step.2.2 step.2.1
      rcases back.cases_head with equal | ⟨_, nextStep, tail⟩
      · exact finished.1 (equal ▸ inRest)
      · exact finished.1 (finished.2.2.trans_closed inRest (Relation.TransGen.head' nextStep tail))
    · exact ih finished.2.2 member

def Path (known : α → Bool) (succ : α → List α) (visited : List α) : Option α → List (Frame α) → Prop
  | _, [] => True
  | above, frame :: rest =>
    known frame.id = true ∧ frame.id ∉ visited ∧ frame.id ∉ rest.map Frame.id ∧
      (∀ next, above = some next → next ∈ succ frame.id) ∧
      (∀ next ∈ frame.pending, next ∈ succ frame.id) ∧
      (∀ next ∈ succ frame.id, known next = true →
        next ∈ visited ∨ next ∈ frame.pending ∨ above = some next) ∧
      Path known succ visited (some frame.id) rest

variable {stack rest : List (Frame α)} {more roots : List α} {outcome : Outcome α}

omit [DecidableEq α] in
theorem Path.visit (path : Path known succ visited above stack)
    (absent : id ∉ stack.map Frame.id) (finishedAbove : above = some id) :
    Path known succ (id :: visited) none stack := by
  have widen : ∀ (stack : List (Frame α)) (above : Option α), id ∉ stack.map Frame.id →
      Path known succ visited above stack → Path known succ (id :: visited) above stack := by
    intro stack
    induction stack with
    | nil => intro _ _ _; trivial
    | cons _ rest ih =>
      intro above absent path
      obtain ⟨knownFrame, unvisited, unique, link, pending, passed, below⟩ := path
      simp only [map_cons, mem_cons, not_or] at absent
      refine ⟨knownFrame, ?_, unique, link, pending, ?_, ih _ absent.2 below⟩
      · simp only [mem_cons, not_or]
        exact ⟨fun same => absent.1 same.symm, unvisited⟩
      · intro next step knownNext
        rcases passed next step knownNext with done | rest
        · exact .inl (mem_cons_of_mem _ done)
        · exact .inr rest
  have widened := widen stack above absent path
  cases stack with
  | nil => trivial
  | cons =>
    obtain ⟨knownFrame, unvisited, unique, -, pending, passed, below⟩ := widened
    refine ⟨knownFrame, unvisited, unique, (by simp), pending, ?_, below⟩
    intro next step knownNext
    rcases passed next step knownNext with done | waiting | same
    · exact .inl done
    · exact .inr (.inl waiting)
    · have equal : id = next := Option.some.inj (finishedAbove.symm.trans same)
      exact .inl (equal ▸ mem_cons_self)

omit [DecidableEq α] in
theorem Path.skip (path : Path known succ visited none (⟨id, next :: more⟩ :: rest))
    (passable : known next = false ∨ next ∈ visited) : Path known succ visited none (⟨id, more⟩ :: rest) := by
  obtain ⟨knownId, unvisited, unique, -, pending, passed, below⟩ := path
  refine ⟨knownId, unvisited, unique, (by simp), fun node member =>
    pending node (mem_cons_of_mem _ member), ?_, below⟩
  intro node step knownNode
  rcases passed node step knownNode with done | waiting | above
  · exact .inl done
  · rcases mem_cons.mp waiting with rfl | waiting
    · rcases passable with unknown | done
      · rw [unknown] at knownNode; cases knownNode
      · exact .inl done
    · exact .inr (.inl waiting)
  · cases above

omit [DecidableEq α] in
theorem Path.push (path : Path known succ visited none (⟨id, next :: more⟩ :: rest))
    (knownNext : known next = true) (fresh : next ∉ visited) (offPath : next ∉ id :: rest.map Frame.id) :
    Path known succ visited none (⟨next, succ next⟩ :: ⟨id, more⟩ :: rest) := by
  obtain ⟨knownId, unvisited, unique, -, pending, passed, below⟩ := path
  refine ⟨knownNext, fresh, offPath, by simp, by simp, fun node step _ => .inr (.inl step), ?_⟩
  refine ⟨knownId, unvisited, unique, ?_, fun node member =>
    pending node (mem_cons_of_mem _ member), ?_, below⟩
  · rintro _ ⟨⟩
    exact pending next (by simp)
  intro node step knownNode
  rcases passed node step knownNode with done | waiting | above
  · exact .inl done
  · rcases mem_cons.mp waiting with rfl | waiting
    · exact .inr (.inr rfl)
    · exact .inr (.inl waiting)
  · cases above

theorem explore_explored (distinct : nodes.Nodup) (members : ∀ node, known node = true → node ∈ nodes)
    (enough : (stack.map (fun frame => frame.pending.length + 1)).sum +
      weight succ nodes (fun node => decide (node ∈ visited ∨ node ∈ stack.map Frame.id)) < fuel) :
    Explored known succ visited stack (explore known succ fuel visited stack) := by
  induction fuel generalizing visited stack with
  | zero => omega
  | succ fuel ih =>
    match stack with
    | [] => exact .empty
    | ⟨id, []⟩ :: rest =>
      apply Explored.leave
      apply ih
      have same : (fun node => decide (node ∈ id :: visited ∨ node ∈ rest.map Frame.id)) =
          fun node => decide (node ∈ visited ∨ node ∈ (⟨id, []⟩ :: rest : List (Frame α)).map Frame.id) := by
        funext node
        congr 1
        simp only [map_cons, mem_cons, eq_iff_iff]
        tauto
      rw [same]
      simp only [map_cons, sum_cons, length_nil] at enough ⊢
      omega
    | ⟨id, next :: more⟩ :: rest =>
      have shorter : ((⟨id, more⟩ :: rest : List (Frame α)).map (fun frame => frame.pending.length + 1)).sum +
          weight succ nodes (fun node =>
            decide (node ∈ visited ∨ node ∈ (⟨id, more⟩ :: rest : List (Frame α)).map Frame.id)) < fuel := by
        simp only [map_cons, sum_cons, length_cons] at enough ⊢
        omega
      simp only [explore]
      split
      · rename_i unknown
        exact .skip (.inl unknown) (ih shorter)
      rename_i knownNext
      have knownNext' : known next = true := by simpa using knownNext
      split
      · rename_i onPath
        exact .close knownNext' onPath
      rename_i offPath
      split
      · rename_i fresh
        have drop := weight_remove succ
          (fun node => decide (node ∈ visited ∨ node ∈ (⟨id, more⟩ :: rest : List (Frame α)).map Frame.id))
          (fun node => decide (node ∈ visited ∨
            node ∈ (⟨next, succ next⟩ :: ⟨id, more⟩ :: rest : List (Frame α)).map Frame.id))
          distinct (members next knownNext')
          (by simpa [fresh] using offPath)
          (by intro node; by_cases same : node = next <;> simp [same])
        apply Explored.enter knownNext' offPath fresh
        apply ih
        simp only [map_cons, sum_cons, length_cons] at shorter drop enough ⊢
        omega
      · rename_i seen
        exact .skip (.inr ⟨offPath, by simpa using seen⟩) (ih shorter)

theorem Explored.finished {visited' : List α} (explored : Explored known succ visited stack outcome)
    (result : outcome = .done visited') (path : Path known succ visited none stack)
    (finished : Finished known succ visited) : Finished known succ visited' ∧ (∀ node ∈ visited, node ∈ visited') ∧
      (∀ node ∈ stack.map Frame.id, node ∈ visited') := by
  induction explored with
  | empty =>
    cases result
    exact ⟨finished, fun _ member => member, by simp⟩
  | leave _ ih =>
    obtain ⟨-, unvisited, unique, -, -, passed, below⟩ := path
    have next := ih result (below.visit unique rfl)
      ⟨unvisited, fun next step knownNext => by simpa using passed next step knownNext, finished⟩
    refine ⟨next.1, fun node member => next.2.1 node (mem_cons_of_mem _ member), ?_⟩
    intro node member
    rcases mem_cons.mp member with rfl | member
    · exact next.2.1 _ (by simp)
    · exact next.2.2 node member
  | skip passable _ ih => exact ih result (path.skip (passable.imp id And.right)) finished
  | close => cases result
  | enter knownNext offPath fresh _ ih =>
    have deeper := ih result (path.push knownNext fresh offPath) finished
    exact ⟨deeper.1, deeper.2.1, fun node member => deeper.2.2 node (mem_cons_of_mem _ member)⟩

def ClosedWalk (relation : α → α → Prop) (nodes : List α) : Prop :=
  nodes.IsChain relation ∧ 2 ≤ nodes.length ∧ nodes.head? = nodes.getLast?

omit [DecidableEq α] in
theorem ClosedWalk.loop (walk : ClosedWalk relation nodes) : ¬ Acyclic relation := by
  obtain ⟨chain, _, closed⟩ := walk
  match nodes with
  | first :: second :: rest =>
    rw [isChain_cons_cons] at chain
    have path := relationReflTransGen_of_exists_isChain_cons rest chain.2 rfl
    have last : (second :: rest).getLast (cons_ne_nil _ _) = first := by
      rw [getLast?_cons_cons, getLast?_eq_getLast_of_ne_nil (cons_ne_nil _ _)] at closed
      exact (Option.some.inj closed).symm
    rw [last] at path
    exact fun acyclic => acyclic first (Relation.TransGen.head' chain.1 path)

omit [DecidableEq α] in
theorem Path.chain (path : Path known succ visited above stack) :
    (stack.map Frame.id).IsChain (fun upper lower => knownEdge known succ lower upper) := by
  induction stack generalizing above with
  | nil => exact .nil
  | cons frame rest ih =>
    obtain ⟨knownFrame, -, -, -, -, -, below⟩ := path
    cases rest with
    | nil => exact .singleton _
    | cons =>
      have chain := ih below
      obtain ⟨knownLower, -, -, link, -, -, -⟩ := below
      exact .cons_cons ⟨knownLower, knownFrame, link frame.id rfl⟩ chain

/-- The part of the path from the repeated node on, closed by the edge that repeats it. -/
theorem Path.closedWalk (path : Path known succ visited none (⟨id, next :: more⟩ :: rest))
    (knownNext : known next = true) (onPath : next ∈ id :: rest.map Frame.id) : ClosedWalk (knownEdge known succ)
      (next :: ((id :: rest.map Frame.id).takeWhile (fun node => node ≠ next)).reverse ++ [next]) := by
  have chain := path.chain
  obtain ⟨knownId, -, -, -, pending, -, -⟩ := path
  have step : knownEdge known succ id next := ⟨knownId, knownNext, pending next (by simp)⟩
  have first : (id :: rest.map Frame.id).head? = some id := rfl
  rw [map_cons] at chain
  generalize id :: rest.map Frame.id = nodes at chain onPath first
  have parts := takeWhile_append_dropWhile (p := fun node => decide (node ≠ next)) (l := nodes)
  generalize nodes.takeWhile (fun node => node ≠ next) = inner at parts
  have outer : ∃ post, nodes = inner ++ next :: post := by
    cases dropped : nodes.dropWhile (fun node => node ≠ next) with
    | nil =>
      simpa using dropWhile_eq_nil_iff.mp dropped next onPath
    | cons other post =>
      have stopped := head?_dropWhile_not (fun node => decide (node ≠ next)) nodes
      rw [dropped] at stopped parts
      have same : other = next := by simpa using stopped
      exact ⟨post, by rw [← parts, same]⟩
  obtain ⟨post, rfl⟩ := outer
  have initial : (inner ++ [next]) <+: inner ++ next :: post := ⟨post, by simp⟩
  have forward := isChain_reverse.mpr <| List.IsChain.prefix chain initial
  have whole : next :: inner.reverse ++ [next] = (inner ++ [next]).reverse ++ [next] := by simp
  rw [whole]
  refine ⟨isChain_append.mpr ⟨forward, .singleton _, ?_⟩, by simp, by simp [getLast?_cons]⟩
  intro last atEnd start atStart
  have start' : start = next := by simpa using atStart.symm
  have last' : last = id := by
    rw [getLast?_reverse] at atEnd
    cases inner <;> simp_all
  rw [start', last']
  exact step

theorem Explored.closedWalk (explored : Explored known succ visited stack outcome)
    (result : outcome = .cycle nodes) (path : Path known succ visited none stack) :
    ClosedWalk (knownEdge known succ) nodes := by
  induction explored with
  | empty => cases result
  | leave _ ih =>
    obtain ⟨-, -, unique, -, -, -, below⟩ := path
    exact ih result (below.visit unique rfl)
  | skip passable _ ih => exact ih result (path.skip (passable.imp id And.right))
  | close knownNext onPath =>
    cases result
    exact path.closedWalk knownNext onPath
  | enter knownNext offPath fresh _ ih => exact ih result (path.push knownNext fresh offPath)

omit [DecidableEq α] in
theorem Path.root {root : α}
    (knownRoot : known root = true) (fresh : root ∉ visited) : Path known succ visited none [⟨root, succ root⟩] :=
  ⟨knownRoot, fresh, by simp, by simp, by simp, fun _ step _ => .inr (.inl step), trivial⟩

theorem searchRoots_searched (distinct : nodes.Nodup) (members : ∀ node, known node = true ↔ node ∈ nodes)
    (enough : 2 * weight succ nodes (fun _ => false) < fuel)
    (inside : ∀ root ∈ roots, root ∈ nodes) (visited : List α) :
    SearchedRoots known succ roots visited (searchRoots known succ fuel roots visited) := by
  induction roots generalizing visited with
  | nil => exact .empty
  | cons root _ ih =>
    have later := ih (fun node member => inside node (mem_cons_of_mem _ member))
    have explored : Explored known succ visited [⟨root, succ root⟩]
        (explore known succ fuel visited [⟨root, succ root⟩]) := by
      apply explore_explored distinct (fun node => (members node).mp)
      have bound := weight_le succ nodes (fun node =>
        decide (node ∈ visited ∨ node ∈ ([⟨root, succ root⟩] : List (Frame α)).map Frame.id))
      have part := weight_remove succ (fun _ => false) (fun node => decide (node = root))
        distinct (inside root mem_cons_self) rfl (by simp)
      simp only [map_cons, map_nil, sum_cons, sum_nil] at bound ⊢
      omega
    simp only [searchRoots]
    split
    · rename_i seen
      exact .seen seen (later visited)
    rename_i fresh
    split
    · rename_i cycle result
      exact .cycle fresh (result ▸ explored)
    · rename_i visited' result
      exact .done fresh (result ▸ explored) (later visited')

theorem SearchedRoots.acyclic (searched : SearchedRoots known succ roots visited answer) (clear : answer = none)
    (knownRoots : ∀ root ∈ roots, known root = true) (finished : Finished known succ visited) :
    ∀ root ∈ roots, ¬ Relation.TransGen (knownEdge known succ) root root := by
  induction searched with
  | empty => simp
  | seen seen _ ih =>
    have later := ih clear (fun node member => knownRoots node (mem_cons_of_mem _ member)) finished
    intro node member
    rcases mem_cons.mp member with rfl | member
    · exact finished.acyclic seen
    · exact later node member
  | cycle => cases clear
  | done fresh explored _ ih =>
    obtain ⟨finished', -, stacked⟩ := explored.finished rfl (Path.root (knownRoots _ mem_cons_self) fresh) finished
    have later := ih clear (fun node member => knownRoots node (mem_cons_of_mem _ member)) finished'
    intro node member
    rcases mem_cons.mp member with rfl | member
    · exact finished'.acyclic (stacked _ (by simp))
    · exact later node member

theorem SearchedRoots.closedWalk (searched : SearchedRoots known succ roots visited answer) (found : answer = some nodes)
    (knownRoots : ∀ root ∈ roots, known root = true) : ClosedWalk (knownEdge known succ) nodes := by
  induction searched with
  | empty => cases found
  | seen _ _ ih => exact ih found (fun node member => knownRoots node (mem_cons_of_mem _ member))
  | cycle fresh explored =>
    cases found
    exact explored.closedWalk rfl (Path.root (knownRoots _ mem_cons_self) fresh)
  | done _ _ _ ih => exact ih found (fun node member => knownRoots node (mem_cons_of_mem _ member))

/-- From every known root, the search answers nothing exactly when no cycle exists. -/
theorem SearchedRoots.none_iff
    (searched : SearchedRoots known succ nodes [] answer) (members : ∀ node, known node = true ↔ node ∈ nodes) :
    answer = none ↔ Acyclic (knownEdge known succ) := by
  have knownRoots : ∀ root ∈ nodes, known root = true := fun root => (members root).mpr
  constructor
  · intro clear node loop
    obtain ⟨_, step, -⟩ := (Relation.TransGen.head'_iff).mp loop
    have start : Finished known succ [] := trivial
    exact searched.acyclic clear knownRoots start node ((members node).mp step.1) loop
  · intro acyclic
    cases answer with
    | none => rfl
    | some => exact absurd acyclic (searched.closedWalk rfl knownRoots).loop

end Search
