import Mathlib.Data.List.Sort
import Mathlib.Order.Compare
import Mathlib.Algebra.GroupWithZero.Nat
import PlanWeave.Lib.OrderedMap

namespace PlanWeave

def blockRunIndexPageSize : Nat := 64

def blockRunIndexTreeFanout : Nat := 64

def blockRunIndexTreeDepth : Nat := 5

def blockRunIndexMaxPages : Nat := blockRunIndexTreeFanout ^ blockRunIndexTreeDepth

/-- A position in the chronology. `orderedAt` is the instant of the ISO text, in milliseconds. -/
@[ext] structure BlockRunLogicalCursor where
  orderedAt : Int
  stableIdentity : String
deriving Inhabited

structure BlockRunFacts extends BlockRunLogicalCursor where
  runId : String
  hasArtifact : Bool

@[ext] structure BlockRunIndexEntry where
  runId : String
  retryIndex : Nat
  orderedAt : Int
  stableIdentity : String
  hasArtifact : Bool

structure PageDescriptor where
  objectId : String
  count : Nat
  first : BlockRunLogicalCursor
  last : BlockRunLogicalCursor

@[ext] structure TreeChild where
  objectId : String
  pageCount : Nat
  first : BlockRunLogicalCursor
  last : BlockRunLogicalCursor

inductive TreePayload where
  | root (children : List TreeChild)
  | internal (level : Nat) (children : List TreeChild)
  | leaf (descriptors : List PageDescriptor)

instance : DecidableEq BlockRunLogicalCursor := fun _ _ => decidable_of_iff' _ BlockRunLogicalCursor.ext_iff

instance : DecidableEq BlockRunIndexEntry := fun _ _ => decidable_of_iff' _ BlockRunIndexEntry.ext_iff

deriving instance DecidableEq for PageDescriptor, TreeChild, TreePayload

abbrev BlockRunPage := List BlockRunIndexEntry

structure BlockRunIndexManifest where
  generation : String
  total : Nat
  pageCount : Nat
  maxRetryIndex : Nat
  head : Option BlockRunIndexEntry
  latestArtifact : Option BlockRunIndexEntry
  rootNodeId : Option String
deriving DecidableEq

/-- What a retirement record keeps of an object; level −1 is a page. -/
structure RetiredObject where
  objectId : String
  level : Int
  first : BlockRunLogicalCursor
  last : BlockRunLogicalCursor

/-- What the index takes from its host: the collation of `localeCompare`, and the SHA-256 of the JSON text
of a page and of a node. -/
structure IndexHost where
  localeCompare : String → String → Ordering
  consistent : Std.TransCmp localeCompare
  pageChecksum : BlockRunPage → String
  nodeChecksum : TreePayload → String

structure IndexHost.CollisionFree (host : IndexHost) : Prop where
  pages : Function.Injective host.pageChecksum
  nodes : Function.Injective host.nodeChecksum

def BlockRunIndexEntry.cursor (entry : BlockRunIndexEntry) : BlockRunLogicalCursor where
  orderedAt := entry.orderedAt
  stableIdentity := entry.stableIdentity

def BlockRunIndexEntry.marked (entry : BlockRunIndexEntry) : BlockRunIndexEntry := { entry with hasArtifact := true }

@[simp] theorem BlockRunIndexEntry.marked_cursor (entry : BlockRunIndexEntry) : entry.marked.cursor = entry.cursor := rfl

@[simp] theorem BlockRunIndexEntry.marked_runId (entry : BlockRunIndexEntry) : entry.marked.runId = entry.runId := rfl

def BlockRunFacts.indexed (facts : BlockRunFacts) (retryIndex : Nat) : BlockRunIndexEntry where
  runId := facts.runId
  retryIndex := retryIndex
  orderedAt := facts.orderedAt
  stableIdentity := facts.stableIdentity
  hasArtifact := facts.hasArtifact

variable (host : IndexHost)

def compareBlockRunChronology (left right : BlockRunLogicalCursor) : Ordering :=
  (compare left.orderedAt right.orderedAt).then (host.localeCompare left.stableIdentity right.stableIdentity)

def Upto (left right : BlockRunLogicalCursor) : Prop := (compareBlockRunChronology host left right).isLE = true

instance : DecidableRel (Upto host) := fun _ _ => inferInstanceAs (Decidable (_ = true))

def Before (left right : BlockRunLogicalCursor) : Prop := compareBlockRunChronology host left right = .lt

instance : DecidableRel (Before host) := fun _ _ => inferInstanceAs (Decidable (_ = Ordering.lt))

def sortEntries (entries : BlockRunPage) : BlockRunPage :=
  entries.insertionSort fun left right => Upto host left.cursor right.cursor

def pageObjectId (page : BlockRunPage) : String := "sha256-" ++ host.pageChecksum page

def nodeObjectId (payload : TreePayload) : String := "sha256-" ++ host.nodeChecksum payload

section Chronology
variable {host} {left right other : BlockRunLogicalCursor}

instance : Std.TransCmp (compareBlockRunChronology host) :=
  letI : Ord String := ⟨host.localeCompare⟩
  haveI : Std.TransOrd String := host.consistent
  inferInstanceAs (Std.TransCmp (compareLex (compareOn BlockRunLogicalCursor.orderedAt)
    (compareOn BlockRunLogicalCursor.stableIdentity)))

theorem Upto.refl (cursor : BlockRunLogicalCursor) : Upto host cursor cursor := by
  unfold Upto
  rw [@Std.ReflCmp.compare_self _ (compareBlockRunChronology host)]
  rfl

theorem Upto.trans (first : Upto host left right) (second : Upto host right other) : Upto host left other :=
  Std.TransCmp.isLE_trans first second

theorem Before.upto (before : Before host left right) : Upto host left right := by
  unfold Upto
  rw [before]
  rfl

theorem not_before : ¬ Before host left right ↔ Upto host right left := by
  unfold Before Upto
  rw [@Std.OrientedCmp.eq_swap _ (compareBlockRunChronology host) _ left right]
  cases compareBlockRunChronology host right left <;> decide

theorem not_upto : ¬ Upto host left right ↔ Before host right left := by
  rw [← not_before, not_not]

theorem Upto.total : Upto host left right ∨ Upto host right left := by
  by_cases before : Before host left right
  · exact .inl before.upto
  · exact .inr (not_before.mp before)

theorem Before.trans_upto (first : Before host left right) (second : Upto host right other) : Before host left other := by
  rw [← not_upto]
  intro back
  exact not_upto.mpr first (second.trans back)

theorem Upto.trans_before (first : Upto host left right) (second : Before host right other) : Before host left other := by
  rw [← not_upto]
  intro back
  exact not_upto.mpr second (back.trans first)

theorem Before.irrefl (cursor : BlockRunLogicalCursor) : ¬ Before host cursor cursor :=
  not_before.mpr (Upto.refl cursor)

end Chronology
end PlanWeave
