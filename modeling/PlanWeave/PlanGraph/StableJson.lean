import Mathlib.Data.List.Lex
import Mathlib.Data.List.Sort
import PlanWeave.Lib.CodeUnits
import PlanWeave.Lib.Separated

namespace PlanWeave
open CodeUnits List Separated

def jsonText (text : String) : List Nat := text.toList.map Char.toNat

def isNumberUnit (unit : Nat) : Bool := unit ∈ jsonText "0123456789+-.e"

/-- A finite number, by the text that it is written with. Equal numbers have one text, and other numbers other ones. -/
structure JsonNumber where
  text : List Nat
  nonempty : text ≠ []
  inside : ∀ unit ∈ text, isNumberUnit unit = true

/-- An array gives an item for each index below its length. An object gives a value for each of its keys,
which stand in the order in which it enumerates them. Its members and the items of an array may be `undefined`, as in a
parsed manifest whose `parallel` policy has no resources. -/
inductive JsonValue where
  | null
  | bool (value : Bool)
  | number (value : JsonNumber)
  | string (value : Utf16)
  | array (length : Nat) (item : Nat → JsonValue)
  | object (keys : List Utf16) (distinct : keys.Nodup) (value : Utf16 → JsonValue)
  | undefined

/-- Equality of values: the order of keys does not count, and a member that is undefined is a member. -/
inductive JsonValue.Same : JsonValue → JsonValue → Prop where
  | null : Same .null .null
  | bool (value : Bool) : Same (.bool value) (.bool value)
  | number (value : JsonNumber) : Same (.number value) (.number value)
  | string (value : Utf16) : Same (.string value) (.string value)
  | array {length : Nat} {item item' : Nat → JsonValue} (items : ∀ index < length, Same (item index) (item' index)) :
    Same (.array length item) (.array length item')
  | object {keys keys' : List Utf16} {distinct : keys.Nodup} {distinct' : keys'.Nodup}
    {value value' : Utf16 → JsonValue} (fields : ∀ key, key ∈ keys ↔ key ∈ keys')
    (values : ∀ key ∈ keys, Same (value key) (value' key)) :
    Same (.object keys distinct value) (.object keys' distinct' value')
  | undefined : Same .undefined .undefined

namespace JsonValue

def defined : JsonValue → Bool
  | .undefined => false
  | _ => true

def orNull : JsonValue → JsonValue
  | .undefined => .null
  | value => value

/-- The JSON value that `JSON.stringify` writes: without the undefined members, and with null for the undefined items. -/
def document : JsonValue → JsonValue
  | .array length item => .array length fun index => (item index).document.orNull
  | .object keys distinct value =>
    .object (keys.filter fun key => (value key).defined) (distinct.filter _) fun key => (value key).document
  | value => value

def SameDocument (left right : JsonValue) : Prop := left.document.Same right.document

/-- Whether a path of indices and keys leads to `undefined`. -/
def undefinedAt : JsonValue → List (Nat ⊕ Utf16) → Bool
  | .undefined, [] => true
  | .array length item, .inl index :: path => index < length && (item index).undefinedAt path
  | .object keys _ value, .inr key :: path => key ∈ keys && (value key).undefinedAt path
  | _, _ => false

def UndefinedAlike (left right : JsonValue) : Prop := ∀ path, left.undefinedAt path = right.undefinedAt path

end JsonValue

variable {rest rest' : List Nat} {value value' : Utf16} {left right : JsonValue}

abbrev IsMark (unit : Nat) : Prop := unit = 44 ∨ unit = 93 ∨ unit = 125

theorem JsonNumber.cut (value : JsonNumber) (stops : Stops IsMark rest) :
    (value.text ++ rest).takeWhile isNumberUnit = value.text ∧ (value.text ++ rest).dropWhile isNumberUnit = rest := by
  rw [takeWhile_append_of_pos value.inside, dropWhile_append_of_pos value.inside]
  cases rest with
  | nil => simp
  | cons unit =>
    have apart : isNumberUnit unit = false := by
      rcases stops unit rfl with rfl | rfl | rfl <;> decide
    simp [apart]

theorem JsonNumber.read {value value' : JsonNumber} (stops : Stops IsMark rest)
    (stops' : Stops IsMark rest') (same : value.text ++ rest = value'.text ++ rest') : value = value' ∧ rest = rest' := by
  obtain ⟨shown, ends⟩ := value.cut stops
  obtain ⟨shown', ends'⟩ := value'.cut stops'
  rw [same, shown'] at shown
  rw [same, ends'] at ends
  cases value
  cases value'
  simp_all

/-- The kind of value that a text begins, by its first unit. -/
def kindOf (unit : Nat) : Nat :=
  if isNumberUnit unit then 2
  else match unit with
    | 110 => 0
    | 116 | 102 => 1
    | 34 => 3
    | 91 => 4
    | 123 => 5
    | 117 => 6
    | _ => 7

section Documents
open JsonValue

theorem undefinedAt_nil (value : JsonValue) : value.undefinedAt [] = !value.defined := by
  cases value <;> rfl

theorem JsonValue.UndefinedAlike.defined (alike : UndefinedAlike left right) : left.defined = right.defined := by
  have here := alike []
  rwa [undefinedAt_nil, undefinedAt_nil, Bool.not_inj_iff] at here

theorem JsonValue.Same.defined (same : left.Same right) : left.defined = right.defined := by
  cases same <;> rfl

theorem JsonValue.Same.orNull (same : left.Same right) : left.orNull.Same right.orNull := by
  cases same with
  | undefined => exact .null
  | array items => exact .array items
  | object fields values => exact .object fields values
  | _ => constructor

theorem JsonValue.Same.document (same : left.Same right) : SameDocument left right := by
  induction same with
  | array _ ih => exact .array fun index below => (ih index below).orNull
  | object fields values ih =>
    refine .object (fun key => ?_) fun key member => ih key (mem_filter.mp member).1
    rw [mem_filter, mem_filter, ← fields]
    exact and_congr_right fun member => by rw [(values key member).defined]
  | _ => constructor

theorem JsonValue.Same.alike (same : left.Same right) : UndefinedAlike left right := by
  induction same with
  | @array length _ _ _ ih =>
    rintro (_ | ⟨index | _, path⟩)
    · rfl
    · by_cases below : index < length
      · simp [undefinedAt, below, ih index below path]
      · simp [undefinedAt, below]
    · rfl
  | @object keys _ _ _ _ _ fields _ ih =>
    rintro (_ | ⟨_ | key, path⟩)
    · rfl
    · rfl
    · by_cases member : key ∈ keys
      · simp [undefinedAt, ← fields, member, ih key member path]
      · simp [undefinedAt, ← fields, member]
  | _ => exact fun _ => rfl

theorem JsonValue.Same.kind (same : left.Same right) : left.ctorIdx = right.ctorIdx := by
  cases same <;> rfl

end Documents

end PlanWeave
