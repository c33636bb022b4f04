-- SUMMARY: The values a caller may hand over: scalars, collections, nodes, options and what stands on a bench.
import Folio.Node
import Folio.Options

/-!
# Values

What arrives at the boundary of the library need not have the type it should
have: children may be given as a chain, a list or a tuple, and anything else is
refused with the value in hand. `Value` is the type of what can arrive.

Nodes take whatever they are built of. Those that are trees throughout are held as
`Node`, and any other is loose (`Folio.Value.Tree`).

What changes while a program runs is not in the value itself: builders, the lists
they collect in and streams stand on a bench (`Folio.Bench`), and a value refers to
them by number. Two such references are equal when they are to the same thing.
-/

namespace Folio

/-! ## Decimal fractions -/

/-- The number `mantissa / 10 ^ places`. -/
structure Decimal where
  mantissa : Int
  places : Nat
  deriving DecidableEq

namespace Decimal

def toRat (d : Decimal) : Rat :=
  mkRat d.mantissa (Nat.pow 10 d.places)

/-- The least significant digits of `n`, exactly `width` of them. -/
def lastDigits : Nat → Nat → List Char
  | 0, _ => []
  | width + 1, n => lastDigits width (n / 10) ++ [Nat.digitChar (n % 10)]

/-- Drops the zeros that end a fraction, but for its first digit. -/
def trimmed : List Char → List Char
  | [] => []
  | first :: rest => first :: (rest.reverse.dropWhile (· == '0')).reverse

def sign (d : Decimal) : String :=
  if d.mantissa < 0 then "-" else ""

/-- Positional digits with a point and at least one digit after it. -/
def positional (d : Decimal) : String :=
  let whole := d.mantissa.natAbs / Nat.pow 10 d.places
  let fraction := String.ofList (trimmed (lastDigits d.places d.mantissa.natAbs))
  let fraction := if fraction = "" then "0" else fraction
  s!"{d.sign}{whole}.{fraction}"

/-- The digits that matter as a number from 1 up to 10, with the exponent `-order`. -/
def scientific (d : Decimal) (order : Nat) : String :=
  let digits := trimmed (Nat.toDigits 10 d.mantissa.natAbs)
  let fraction := String.ofList digits.tail
  let point := if fraction = "" then "" else "."
  let exponent := String.ofList (lastDigits (max 2 (Nat.toDigits 10 order).length) order)
  s!"{d.sign}{String.ofList (digits.take 1)}{point}{fraction}e-{exponent}"

/-- Digits are positional down to one ten-thousandth; below that there is an exponent. -/
def text (d : Decimal) : String :=
  let order := d.places + 1 - (Nat.toDigits 10 d.mantissa.natAbs).length
  if d.mantissa ≠ 0 ∧ 4 < order then d.scientific order else d.positional

end Decimal

/-! ## Values -/

inductive Value where
  | null
  | bool (b : Bool)
  | int (n : Int)
  | decimal (d : Decimal)
  | text (s : String)
  | list (items : List Value)
  | tuple (items : List Value)
  /-- A mapping by its entries, in the order in which their keys came in. -/
  | mapping (entries : List (Value × Value))
  | chain (items : Chain Value)
  /-- A node that is a tree: so are its children, its level is a number, its target is a text. -/
  | node (node : Node)
  /-- A text leaf with any value in place of the text. -/
  | looseText (content : Value)
  /-- An element with any values in place of what a tree would hold. -/
  | looseElement (tag : TagOf Value Value) (children : Chain Value)
  | options (options : Options)
  /-- A document builder, by its number. -/
  | builder (handle : Nat)
  /-- The list that a builder collects in, by the builder's number; it grows with the builder. -/
  | collected (handle : Nat)
  /-- A source that can be read once, by its number. -/
  | stream (handle : Nat)

namespace Value

instance : Inhabited Value := ⟨.null⟩

/-- The name of a value's type, as messages give it. -/
def typeName : Value → String
  | .null => "NoneType"
  | .bool _ => "bool"
  | .int _ => "int"
  | .decimal _ => "float"
  | .text _ => "str"
  | .list _ => "list"
  | .tuple _ => "tuple"
  | .mapping _ => "dict"
  | .chain .empty => "Empty"
  | .chain (.cons _ _) => "Cons"
  | .node n => n.kind.name
  | .looseText _ => Kind.text.name
  | .looseElement tag _ => tag.kind.name
  | .options _ => "ValidationOptions"
  | .builder _ => "DocumentBuilder"
  | .collected _ => "list"
  | .stream _ => "generator"

/-- The number a value stands for, if it is one; the two truth values count as 1 and 0. -/
def number? : Value → Option Rat
  | .bool b => some (if b then 1 else 0)
  | .int n => some n
  | .decimal d => some d.toRat
  | _ => none

/-- The elements of a chain, list or tuple as a chain. -/
def asChain? : Value → Option (Chain Value)
  | .chain items => some items
  | .list items => some (Chain.ofList items)
  | .tuple items => some (Chain.ofList items)
  | _ => none

end Value

end Folio
