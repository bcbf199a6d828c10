import HookGate.Numeral

/-!
# TOML values and their spelling

What a document says, and the readers of everything that no bracket encloses: space,
strings, numbers, dates and times.
-/

namespace HookGate.Toml

/-!
## Why a TOML document is refused
-/

inductive Fault where
  /-- The text does not follow the grammar. -/
  | malformed
  /-- An escape in a string that stands for no character. -/
  | escape
  /-- An integer of more than 64 bits, or a number too large for a float. -/
  | outOfRange
  /-- A day or a time that does not exist. -/
  | noSuchMoment
  /-- A name is defined twice, or a finished table is added to. -/
  | duplicate (name : String)
  /-- A key leads through something that is no table. -/
  | notTable (name : String)
  /-- A key, or a nest of arrays and inline tables, is too deep. -/
  | tooDeep
  deriving DecidableEq, Repr

abbrev Result (α : Type) := Except Fault (α × List Char)

/-!
## TOML values

A document is a table. Members keep the order in which they were first written, and
a reader that accepts a document gives each table a name at most once.
-/

inductive Value where
  | string (s : String)
  | integer (n : Int)
  /-- A number that is no integer, as it was spelled. -/
  | float (spelling : String)
  | boolean (b : Bool)
  /-- A date, a time or both, as it was spelled. -/
  | moment (spelling : String)
  | array (items : List Value)
  | table (members : List (String × Value))
  deriving Repr, Inhabited

abbrev Document := List (String × Value)

namespace Value

def string? : Value → Option String
  | string s => some s
  | _ => none

def boolean? : Value → Option Bool
  | boolean b => some b
  | _ => none

def array? : Value → Option (List Value)
  | array items => some items
  | _ => none

mutual
/-- Equality as a test; values nest in lists, for which no instance can be derived. -/
def same : Value → Value → Bool
  | string s, string t => s == t
  | integer m, integer n => m == n
  | float s, float t => s == t
  | boolean a, boolean b => a == b
  | moment s, moment t => s == t
  | array vs, array ws => sameItems vs ws
  | table ms, table ns => sameMembers ms ns
  | _, _ => false

def sameItems : List Value → List Value → Bool
  | [], [] => true
  | v :: vs, w :: ws => same v w && sameItems vs ws
  | _, _ => false

def sameMembers : List (String × Value) → List (String × Value) → Bool
  | [], [] => true
  | (name, v) :: ms, (other, w) :: ns => name == other && same v w && sameMembers ms ns
  | _, _ => false
end

mutual
theorem eq_of_same {v w : Value} (h : same v w = true) : v = w := by
  cases v <;> cases w <;> simp only [same, beq_iff_eq, Bool.false_eq_true] at h
  case array vs ws => rw [eq_of_sameItems h]
  case table ms ns => rw [eq_of_sameMembers h]
  all_goals rw [h]

theorem eq_of_sameItems {vs ws : List Value} (h : sameItems vs ws = true) : vs = ws := by
  cases vs <;> cases ws <;> simp only [sameItems, Bool.and_eq_true, Bool.false_eq_true] at h
  case nil => rfl
  case cons => rw [eq_of_same h.1, eq_of_sameItems h.2]

theorem eq_of_sameMembers {ms ns : List (String × Value)} (h : sameMembers ms ns = true) : ms = ns := by
  cases ms <;> cases ns <;> simp only [sameMembers, Bool.and_eq_true, beq_iff_eq, Bool.false_eq_true] at h
  case nil => rfl
  case cons =>
    rw [eq_of_sameMembers h.2]
    congr 1
    exact Prod.ext h.1.1 (eq_of_same h.1.2)
end

mutual
theorem same_refl : (v : Value) → same v v = true
  | array vs => by rw [same]; exact sameItems_refl vs
  | table ms => by rw [same]; exact sameMembers_refl ms
  | string _ | integer _ | float _ | boolean _ | moment _ => by simp [same]

theorem sameItems_refl : (vs : List Value) → sameItems vs vs = true
  | [] => rfl
  | v :: vs => by simp [sameItems, same_refl v, sameItems_refl vs]

theorem sameMembers_refl : (ms : List (String × Value)) → sameMembers ms ms = true
  | [] => rfl
  | (name, v) :: ms => by simp [sameMembers, same_refl v, sameMembers_refl ms]
end

instance : DecidableEq Value := fun v w =>
  decidable_of_iff (same v w = true) ⟨eq_of_same, fun h => h ▸ same_refl v⟩

end Value

/-!
## Blanks, comments and line ends

What may stand between the parts of a TOML document. A carriage return counts
only with the line feed after it.
-/

def isBlank (c : Char) : Bool := c == ' ' || c == '\t'

/-- Control characters but the tab are allowed nowhere. -/
def isPlain (c : Char) : Bool := c == '\t' || (0x20 ≤ c.toNat && c.toNat != 0x7F)

def dropBlanks (cs : List Char) : List Char := cs.dropWhile isBlank

def dropComment : List Char → List Char
  | '#' :: rest => rest.dropWhile isPlain
  | cs => cs

def newline? : List Char → Option (List Char)
  | '\n' :: rest => some rest
  | '\r' :: '\n' :: rest => some rest
  | _ => none

def dropLines : List Char → List Char
  | [] => []
  | '\n' :: rest => dropLines rest
  | '\r' :: '\n' :: rest => dropLines rest
  | c :: rest => if isBlank c then dropLines rest else c :: rest

/-- Drops blanks, line ends and comments; `comment` says that a comment is open. -/
def dropGaps (comment : Bool) : List Char → List Char
  | [] => []
  | '\n' :: rest => dropGaps false rest
  | '\r' :: '\n' :: rest => dropGaps false rest
  | c :: rest =>
    if comment then (if isPlain c then dropGaps true rest else c :: rest)
    else if isBlank c then dropGaps false rest
    else if c == '#' then dropGaps true rest
    else c :: rest

def endLine (cs : List Char) : Except Fault (List Char) :=
  match dropComment (dropBlanks cs) with
  | [] => .ok []
  | rest =>
    match newline? rest with
    | some rest => .ok rest
    | none => .error .malformed

/-!
## Quoted strings

Basic strings, between quotation marks, know escapes; literal strings, between
apostrophes, do not. Either kind runs over several lines when its mark is
written three times. Readers start after the opening mark and collect characters
in `before`, last one first.
-/

open Text

def codePoint (count : Nat) (cs : List Char) : Result Char :=
  let digits := cs.take count
  let n := numeral 16 digits
  if digits.length = count ∧ digits.all isHexDigit ∧ n.isValidChar then
    .ok (Char.ofNat n, cs.drop count)
  else .error .escape

def escape : List Char → Result Char
  | 'b' :: rest => .ok ('\x08', rest)
  | 't' :: rest => .ok ('\t', rest)
  | 'n' :: rest => .ok ('\n', rest)
  | 'f' :: rest => .ok ('\x0C', rest)
  | 'r' :: rest => .ok ('\r', rest)
  | '"' :: rest => .ok ('"', rest)
  | '\\' :: rest => .ok ('\\', rest)
  | 'u' :: rest => codePoint 4 rest
  | 'U' :: rest => codePoint 8 rest
  | _ => .error .escape

def basic (before : List Char) : (fuel : Nat) → List Char → Result String
  | 0, _ => .error .malformed
  | _ + 1, [] => .error .malformed
  | fuel + 1, c :: rest =>
    if c = '"' then .ok (String.ofList before.reverse, rest)
    else if c = '\\' then
      match escape rest with
      | .ok (d, rest) => basic (d :: before) fuel rest
      | .error e => .error e
    else if isPlain c then basic (c :: before) fuel rest
    else .error .malformed

def literal (cs : List Char) : Result String :=
  let inside (c : Char) : Bool := isPlain c && c != '\''
  match cs.dropWhile inside with
  | '\'' :: rest => .ok (String.ofList (cs.takeWhile inside), rest)
  | _ => .error .malformed

/-- The end of a string after its closing triple mark. Up to two more marks belong to the string. -/
def close (mark : Char) (before : List Char) : List Char → String × List Char
  | c :: d :: rest =>
    if c = mark ∧ d = mark then (String.ofList (mark :: mark :: before).reverse, rest)
    else if c = mark then (String.ofList (mark :: before).reverse, d :: rest)
    else (String.ofList before.reverse, c :: d :: rest)
  | [c] =>
    if c = mark then (String.ofList (mark :: before).reverse, [])
    else (String.ofList before.reverse, [c])
  | [] => (String.ofList before.reverse, [])

def joinedLine? (cs : List Char) : Option (List Char) := (newline? (dropBlanks cs)).map dropLines

def longBasic (before : List Char) : (fuel : Nat) → List Char → Result String
  | 0, _ => .error .malformed
  | _ + 1, [] => .error .malformed
  | _ + 1, '"' :: '"' :: '"' :: rest => .ok (close '"' before rest)
  | fuel + 1, '\r' :: '\n' :: rest => longBasic ('\n' :: before) fuel rest
  | fuel + 1, c :: rest =>
    if c = '\\' then
      match joinedLine? rest with
      | some rest => longBasic before fuel rest
      | none =>
        match escape rest with
        | .ok (d, rest) => longBasic (d :: before) fuel rest
        | .error e => .error e
    else if c = '\n' || isPlain c then longBasic (c :: before) fuel rest
    else .error .malformed

def longLiteral (before : List Char) : List Char → Result String
  | [] => .error .malformed
  | '\'' :: '\'' :: '\'' :: rest => .ok (close '\'' before rest)
  | '\r' :: '\n' :: rest => longLiteral ('\n' :: before) rest
  | c :: rest =>
    if c = '\n' || isPlain c then longLiteral (c :: before) rest else .error .malformed

def dropNewline (cs : List Char) : List Char := (newline? cs).getD cs

def quoted : List Char → Result String
  | '"' :: '"' :: '"' :: rest => longBasic [] rest.length (dropNewline rest)
  | '"' :: rest => basic [] rest.length rest
  | '\'' :: '\'' :: '\'' :: rest => longLiteral [] (dropNewline rest)
  | '\'' :: rest => literal rest
  | _ => .error .malformed

/-!
## Numbers

Integers of 64 bits in four bases, and floats. Single underscores may stand
between digits, and a decimal number has no leading zero. Whatever follows the
longest number is left to the caller.
-/

def moreDigits (isDigit : Char → Bool) : List Char → Result (List Char)
  | [] => .ok ([], [])
  | ['_'] => .error .malformed
  | '_' :: d :: rest =>
    if isDigit d then (moreDigits isDigit rest).map fun (ds, rest) => (d :: ds, rest)
    else .error .malformed
  | d :: rest =>
    if isDigit d then (moreDigits isDigit rest).map fun (ds, rest) => (d :: ds, rest)
    else .ok ([], d :: rest)

def digits (isDigit : Char → Bool) : List Char → Result (List Char)
  | [] => .error .malformed
  | d :: rest =>
    if isDigit d then (moreDigits isDigit rest).map fun (ds, rest) => (d :: ds, rest)
    else .error .malformed

/-- The digits of a decimal integer: a lone zero, or a run that starts with another digit. -/
def wholeDigits : List Char → Result (List Char)
  | '0' :: rest => .ok (['0'], rest)
  | cs => digits Char.isDigit cs

def integerBound : Nat := UInt64.size / 2

def integer (negative : Bool) (base : Nat) (ds : List Char) : Except Fault Value :=
  let n := numeral base ds
  if negative then (if n ≤ integerBound then .ok (.integer (-n)) else .error .outOfRange)
  else if n < integerBound then .ok (.integer n) else .error .outOfRange

def basedInteger (base : Nat) (isDigit : Char → Bool) (cs : List Char) :
    Except Fault (Value × List Char) := do
  let (ds, rest) ← digits isDigit cs
  return (← integer false base ds, rest)

def fraction? : List Char → Except Fault (Option (List Char) × List Char)
  | '.' :: rest => (digits Char.isDigit rest).map fun (ds, rest) => (some ds, rest)
  | cs => .ok (none, cs)

def exponent? : List Char → Except Fault (Option Int × List Char)
  | c :: rest =>
    if c = 'e' ∨ c = 'E' then
      let (negative, rest) := match rest with
        | '-' :: rest => (true, rest)
        | '+' :: rest => (false, rest)
        | rest => (false, rest)
      (digits Char.isDigit rest).map fun (ds, rest) =>
        let n : Int := numeral 10 ds
        (some (if negative then -n else n), rest)
    else .ok (none, c :: rest)
  | [] => .ok (none, [])

def spelling (cs rest : List Char) : String := String.ofList (cs.take (cs.length - rest.length))

/-- A decimal number after its sign; `cs` starts with the sign. One that would be read as
positive infinity is refused. -/
def decimal (negative : Bool) (cs body : List Char) : Except Fault (Value × List Char) := do
  let (whole, rest) ← wholeDigits body
  let (fraction, rest) ← fraction? rest
  let (exponent, rest) ← exponent? rest
  match fraction, exponent with
  | none, none => return (← integer negative 10 whole, rest)
  | _, _ =>
    let places := fraction.getD []
    let exponent := exponent.getD 0 - places.length
    if !negative && Binary64.isInfinite (numeral 10 (whole ++ places)) exponent then
      .error .outOfRange
    else return (.float (spelling cs rest), rest)

def afterSign (negative : Bool) (cs body : List Char) : Result Value :=
  match body with
  | 'i' :: 'n' :: 'f' :: rest => .ok (.float (spelling cs rest), rest)
  | 'n' :: 'a' :: 'n' :: rest => .ok (.float (spelling cs rest), rest)
  | _ => decimal negative cs body

def number (cs : List Char) : Result Value :=
  match cs with
  | '+' :: rest => afterSign false cs rest
  | '-' :: rest => afterSign true cs rest
  | '0' :: 'x' :: rest => basedInteger 16 isHexDigit rest
  | '0' :: 'o' :: rest => basedInteger 8 (fun c => '0' ≤ c && c ≤ '7') rest
  | '0' :: 'b' :: rest => basedInteger 2 (fun c => c == '0' || c == '1') rest
  | _ => afterSign false cs cs

/-!
## Dates and times

A date, a time of day, or a date with a time and perhaps an offset from
universal time. The day must exist in the Gregorian calendar.
-/

namespace Moment

def pair? (lo hi : Nat) : List Char → Option (Nat × List Char)
  | a :: b :: rest =>
    let n := (a.toNat - 0x30) * 10 + (b.toNat - 0x30)
    if a.isDigit ∧ b.isDigit ∧ lo ≤ n ∧ n ≤ hi then some (n, rest) else none
  | _ => none

def mark? (mark : Char) : List Char → Option (List Char)
  | c :: rest => if c = mark then some rest else none
  | [] => none

def isLeap (year : Nat) : Bool := year % 4 == 0 && (year % 100 != 0 || year % 400 == 0)

def daysIn (year month : Nat) : Nat :=
  if month = 2 then (if isLeap year then 29 else 28)
  else if month ∈ [4, 6, 9, 11] then 30
  else 31

def date? (cs : List Char) : Option (List Char) := do
  let (century, cs) ← pair? 0 99 cs
  let (year, cs) ← pair? 0 99 cs
  let cs ← mark? '-' cs
  let (month, cs) ← pair? 1 12 cs
  let cs ← mark? '-' cs
  let (_, cs) ← pair? 1 (daysIn (century * 100 + year) month) cs
  return cs

def dropFraction : List Char → List Char
  | '.' :: d :: rest => if d.isDigit then rest.dropWhile Char.isDigit else '.' :: d :: rest
  | cs => cs

def time? (cs : List Char) : Option (List Char) := do
  let (_, cs) ← pair? 0 23 cs
  let cs ← mark? ':' cs
  let (_, cs) ← pair? 0 59 cs
  let cs ← mark? ':' cs
  let (_, cs) ← pair? 0 60 cs
  return dropFraction cs

def hoursMinutes? (cs : List Char) : Option (List Char) := do
  let (_, cs) ← pair? 0 23 cs
  let cs ← mark? ':' cs
  let (_, cs) ← pair? 0 59 cs
  return cs

def offset? : List Char → Option (List Char)
  | 'Z' :: rest => some rest
  | 'z' :: rest => some rest
  | '+' :: rest => hoursMinutes? rest
  | '-' :: rest => hoursMinutes? rest
  | cs => some cs

/-- Four digits and a hyphen can only be a date. -/
def startsDate (cs : List Char) : Bool :=
  ((cs.take 4).all Char.isDigit) && (cs.drop 4).head? == some '-'

/-- An hour and a colon can only be a time. -/
def startsTime (cs : List Char) : Bool := ((pair? 0 23 cs).bind fun (_, cs) => mark? ':' cs).isSome

def afterDate? : List Char → Option (List Char)
  | c :: rest =>
    if (c = 'T' ∨ c = 't' ∨ c = ' ') ∧ startsTime rest then (time? rest).bind offset?
    else some (c :: rest)
  | [] => some []

end Moment

def startsMoment (cs : List Char) : Bool := Moment.startsDate cs || Moment.startsTime cs

def moment (cs : List Char) : Result Value :=
  let rest? := if Moment.startsDate cs then (Moment.date? cs).bind Moment.afterDate? else Moment.time? cs
  match rest? with
  | some rest => .ok (.moment (String.ofList (cs.take (cs.length - rest.length))), rest)
  | none => .error .noSuchMoment

end HookGate.Toml
