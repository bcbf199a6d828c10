import HookGate.Text.Class
import HookGate.Text.Property.Binary
import HookGate.Text.Property.Script
import HookGate.Text.Property.Valued

/-!
# Unicode properties by name

A query names a binary property, a general category or a script, or gives the
value of a property that has several. Names are compared in loose form: letter
case, spaces, hyphens, underscores and a leading `is` do not count. The tables
follow version 16.0 of the Unicode character database; a character that a later
version assigns counts as unassigned.
-/

namespace HookGate.Text.Property

/-!
## Packed code point ranges

A sorted list of ranges is written as the distances between and the lengths of
its ranges, each number in digits of five bits, the lowest first, over the
alphabet `0-9 A-Z a-z - _`. A digit of the upper half says that more digits
follow.
-/

def digit (c : Char) : Nat :=
  let n := c.toNat
  if n = 0x2D then 62
  else if n = 0x5F then 63
  else if n < 0x3A then n - 0x30
  else if n < 0x5B then n - 0x41 + 10
  else n - 0x61 + 36

/-- The numbers of a packed text; `value` is read so far and the next digit counts `unit`. -/
def numbers (value unit : Nat) : List Char → List Nat
  | [] => []
  | c :: rest =>
    let d := digit c
    if d < 32 then (value + d * unit) :: numbers 0 1 rest
    else numbers (value + (d - 32) * unit) (unit * 32) rest

def rangesFrom (base : Nat) : List Nat → List (Nat × Nat)
  | gap :: size :: rest => (base + gap, base + gap + size) :: rangesFrom (base + gap + size + 1) rest
  | _ => []

def unpack (packed : String) : List (Nat × Nat) := rangesFrom 0 (numbers 0 1 packed.toList)

end HookGate.Text.Property

/-! ## Unicode properties by name -/

namespace HookGate.Text

inductive PropertyQuery where
  /-- A binary property, a general category or a script. -/
  | named (name : String)
  /-- A value of a property. -/
  | valued (property value : String)
  deriving DecidableEq, Repr

namespace Property

def significant (cs : List Char) : List Char :=
  (cs.filter fun c => c.toNat < 0x80 && c != ' ' && c != '_' && c != '-').map Char.toLower

/-- The loose form of a name. A leading `is` is dropped unless only `c` would
be left of it, since `isc` is a name of its own. -/
def loose (name : String) : String :=
  match name.toList with
  | 'i' :: 's' :: rest => trimmed rest
  | 'i' :: 'S' :: rest => trimmed rest
  | 'I' :: 's' :: rest => trimmed rest
  | 'I' :: 'S' :: rest => trimmed rest
  | cs => String.ofList (significant cs)
where
  trimmed (rest : List Char) : String :=
    let s := String.ofList (significant rest)
    if s = "c" then "isc" else s

def row? (table : List (List String × String)) (name : String) : Option (List (Nat × Nat)) :=
  (table.find? (·.1.contains name)).map (unpack ·.2)

/-- The general categories, with the three sets that are named like one. -/
def category? (name : String) : Option (List (Nat × Nat)) :=
  match name with
  | "any" => some [(0, 0x10FFFF)]
  | "ascii" => some [(0, 0x7F)]
  | "assigned" => (row? categories "cn").map complementRanges
  | _ => row? categories name

/-- Every range of the versions up to the named one, and none if no version has the name. -/
def agesUpTo (name : String) : List (List String × String) → Option (List (List (Nat × Nat)))
  | [] => none
  | (names, packed) :: rest =>
    if names.contains name then some [unpack packed]
    else (agesUpTo name rest).map (unpack packed :: ·)

end Property

open Property

/-- The code points that a query asks for, as sorted lists of ranges of which a
character may lie in any; `none` if no property has the name or the value. -/
def PropertyQuery.lists? : PropertyQuery → Option (List (List (Nat × Nat)))
  | .named name =>
    let n := loose name
    ((row? binaries n).or ((category? n).or (row? scripts n))).map ([·])
  | .valued property value =>
    let v := loose value
    match loose property with
    | "gc" | "generalcategory" => (category? v).map ([·])
    | "sc" | "script" => (row? scripts v).map ([·])
    | "scx" | "scriptextensions" => (row? scriptExtensions v).map ([·])
    | "age" => agesUpTo v ages
    | "gcb" | "graphemeclusterbreak" => (row? graphemeBreaks v).map ([·])
    | "wb" | "wordbreak" => (row? wordBreaks v).map ([·])
    | "sb" | "sentencebreak" => (row? sentenceBreaks v).map ([·])
    | _ => none

end HookGate.Text
