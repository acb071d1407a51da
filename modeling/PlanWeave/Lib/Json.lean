import Mathlib.Data.List.Lex
import Mathlib.Data.List.Sort

/-- A JSON value. The fields of an object stand in the order in which the object enumerates them; `token` is the text
of a null, a boolean, a number or a string. -/
inductive Json where
  | token (text : String)
  | array (items : List Json)
  | object (fields : List (String × Json))

namespace Json

section Keys

def utf16 (key : String) : List Nat :=
  key.toList.flatMap fun c =>
    if c.toNat < 0x10000 then [c.toNat]
    else [0xD800 + (c.toNat - 0x10000) / 0x400, 0xDC00 + (c.toNat - 0x10000) % 0x400]

def arrayIndex (key : String) : Option Nat :=
  let digits := key.toList
  let index := digits.foldl (fun value digit => 10 * value + (digit.toNat - 48)) 0
  if digits ≠ [] ∧ digits.all Char.isDigit ∧ (digits = ['0'] ∨ digits.head? ≠ some '0') ∧ index < 4294967295 then
    some index
  else none

/-- The order of `Array.prototype.sort` without a comparator. -/
def sortsBefore (left right : String) : Bool := utf16 left ≤ utf16 right

/-- The order in which an object enumerates its keys when they were added in sorted order. -/
def enumeratesBefore (left right : String) : Bool :=
  match arrayIndex left, arrayIndex right with
  | some l, some r => l ≤ r
  | some _, none => true
  | none, some _ => false
  | none, none => sortsBefore left right

end Keys

def joined (parts : List (List String)) : List String := (parts.intersperse [","]).flatten

mutual

def stringify : Json → List String
  | token text => [text]
  | array items => "[" :: joined (stringifyItems items) ++ ["]"]
  | object fields => "\x7b" :: joined (stringifyFields fields) ++ ["\x7d"]

def stringifyItems : List Json → List (List String)
  | [] => []
  | item :: rest => stringify item :: stringifyItems rest

def stringifyFields : List (String × Json) → List (List String)
  | [] => []
  | field :: rest => (field.1 :: ":" :: stringify field.2) :: stringifyFields rest
end

mutual

/-- The tokens of `canonicalizeJson`: objects with their keys sorted. -/
def canonicalize : Json → List String
  | token text => [text]
  | array items => "[" :: joined (canonicalizeItems items) ++ ["]"]
  | object fields =>
    let parts := (canonicalizeFields fields).insertionSort fun left right => sortsBefore left.1 right.1
    "\x7b" :: joined (parts.map fun part => part.1 :: ":" :: part.2) ++ ["\x7d"]

def canonicalizeItems : List Json → List (List String)
  | [] => []
  | item :: rest => canonicalize item :: canonicalizeItems rest

def canonicalizeFields : List (String × Json) → List (String × List String)
  | [] => []
  | field :: rest => (field.1, canonicalize field.2) :: canonicalizeFields rest
end

mutual

def reparsed : Json → Json
  | token text => token text
  | array items => array (reparsedItems items)
  | object fields => object ((reparsedFields fields).insertionSort fun left right => enumeratesBefore left.1 right.1)

def reparsedItems : List Json → List Json
  | [] => []
  | item :: rest => reparsed item :: reparsedItems rest

def reparsedFields : List (String × Json) → List (String × Json)
  | [] => []
  | field :: rest => (field.1, reparsed field.2) :: reparsedFields rest
end

example : (object [("b", .token "1"), ("10", .token "2"), ("9", .token "3")]).reparsed =
    object [("9", .token "3"), ("10", .token "2"), ("b", .token "1")] := by rfl

end Json
