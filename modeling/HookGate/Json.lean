import HookGate.Numeral
import HookGate.Text.Utf8

/-!
# JSON

Values, the text that is written for one, and the reader.
-/

namespace HookGate.Json

/-!
## JSON values

An object keeps its members in the order in which they were written; a name that
is written twice means its last member.
-/

inductive Value where
  | null
  | bool (b : Bool)
  /-- A number, as it was spelled. -/
  | number (spelling : String)
  | string (s : String)
  | array (items : List Value)
  | object (members : List (String × Value))
  deriving Repr, Inhabited

inductive Kind where
  | null
  | boolean
  | number
  | string
  | array
  | object
  deriving DecidableEq, Repr

def Kind.phrase : Kind → String
  | null => "null"
  | boolean => "a boolean"
  | number => "a number"
  | string => "a string"
  | array => "an array"
  | object => "an object"

namespace Value

def kind : Value → Kind
  | null => .null
  | bool _ => .boolean
  | number _ => .number
  | string _ => .string
  | array _ => .array
  | object _ => .object

def string? : Value → Option String
  | string s => some s
  | _ => none

end Value

/-- The last member of the name. -/
def lookup? (members : List (String × Value)) (name : String) : Option Value :=
  (members.reverse.find? (·.1 = name)).map (·.2)

@[simp] theorem lookup?_nil (name : String) : lookup? [] name = none := rfl

/-- A later member hides the earlier ones of its name. -/
theorem lookup?_append_singleton (ms : List (String × Value)) (k name : String) (v : Value) :
    lookup? (ms ++ [(k, v)]) name = if k = name then some v else lookup? ms name := by
  simp only [lookup?, List.reverse_append, List.reverse_cons, List.reverse_nil, List.nil_append,
    List.singleton_append, List.find?_cons]
  by_cases h : k = name <;> simp [h]

/-!
## Writing JSON

The compact form: no blanks, members in order. Within a string only the quotation
mark, the backslash and the characters below U+0020 are escaped, the latter by a
letter where there is one; everything else stands for itself.
-/

def hexDigit (n : Nat) : Char := if n < 10 then Char.ofNat (0x30 + n) else Char.ofNat (0x61 + (n - 10))

def escapeChar (c : Char) : List Char :=
  if c = '"' then ['\\', '"']
  else if c = '\\' then ['\\', '\\']
  else if c = '\x08' then ['\\', 'b']
  else if c = '\t' then ['\\', 't']
  else if c = '\n' then ['\\', 'n']
  else if c = '\x0C' then ['\\', 'f']
  else if c = '\r' then ['\\', 'r']
  else if c.toNat < 0x20 then ['\\', 'u', '0', '0', hexDigit (c.toNat / 16), hexDigit (c.toNat % 16)]
  else [c]

def quote (s : String) : List Char := '"' :: (s.toList.flatMap escapeChar ++ ['"'])

mutual
def Value.chars : Value → List Char
  | .null => "null".toList
  | .bool true => "true".toList
  | .bool false => "false".toList
  | .number spelling => spelling.toList
  | .string s => quote s
  | .array items => '[' :: itemChars false items
  | .object members => '{' :: memberChars false members

/-- Items with commas between them, and the closing bracket; `more` says that an item
came before. -/
def itemChars (more : Bool) : List Value → List Char
  | [] => [']']
  | v :: rest => (if more then [','] else []) ++ v.chars ++ itemChars true rest

def memberChars (more : Bool) : List (String × Value) → List Char
  | [] => ['}']
  | (name, v) :: rest =>
    (if more then [','] else []) ++ quote name ++ ':' :: v.chars ++ memberChars true rest
end

def Value.text (v : Value) : String := String.ofList v.chars

/-!
## Reading JSON

`Value.read` accepts the JSON texts whose arrays and objects nest less than 128
deep and whose numbers are in range. A refusal has one cause and a place, given as
a line and a column in bytes. Recursion takes fuel, of which twice the number of
characters is enough, since a call that consumes nothing is followed by one that
does.
-/

open Text

inductive Cause where
  | endOfValue
  | endOfString
  | endOfList
  | endOfObject
  | noValue
  | noIdent
  | noColon
  | noListEnd
  | noObjectEnd
  | keyNotString
  | escape
  | number
  | outOfRange
  | control
  | loneSurrogate
  | hexEscapeEnd
  | trailingComma
  | trailingCharacters
  | tooDeep
  deriving DecidableEq, Repr

def Cause.message : Cause → String
  | endOfValue => "EOF while parsing a value"
  | endOfString => "EOF while parsing a string"
  | endOfList => "EOF while parsing a list"
  | endOfObject => "EOF while parsing an object"
  | noValue => "expected value"
  | noIdent => "expected ident"
  | noColon => "expected `:`"
  | noListEnd => "expected `,` or `]`"
  | noObjectEnd => "expected `,` or `\x7d`"
  | keyNotString => "key must be a string"
  | escape => "invalid escape"
  | number => "invalid number"
  | outOfRange => "number out of range"
  | control => "control character (\\u0000-\\u001F) found while parsing a string"
  | loneSurrogate => "lone leading surrogate in hex escape"
  | hexEscapeEnd => "unexpected end of hex escape"
  | trailingComma => "trailing comma"
  | trailingCharacters => "trailing characters"
  | tooDeep => "recursion limit exceeded"

/-- A refusal `bytes` bytes into what is left of the text. -/
structure Stop where
  cause : Cause
  rest : List Char
  bytes : Nat

/-- A cause and its place: lines count from one, columns are bytes into the line. -/
structure Failure where
  cause : Cause
  line : Nat
  column : Nat
  deriving DecidableEq, Repr

def Failure.message (e : Failure) : String :=
  s!"{e.cause.message} at line {e.line} column {e.column}"

namespace Reader

abbrev Result (α : Type) := Except Stop (α × List Char)

/-- Refuses at the start of `rest`. -/
def stopAt (cause : Cause) (rest : List Char) : Except Stop α := .error ⟨cause, rest, 0⟩

/-- Refuses after the first byte of `rest`. -/
def stopPast (cause : Cause) (rest : List Char) : Except Stop α := .error ⟨cause, rest, 1⟩

def isBlank (c : Char) : Bool := c == ' ' || c == '\n' || c == '\t' || c == '\r'

def dropBlanks (cs : List Char) : List Char := cs.dropWhile isBlank

/-! ### Literals and numbers -/

def ident (v : Value) : List Char → List Char → Result Value
  | [], rest => .ok (v, rest)
  | _ :: _, [] => stopAt .endOfValue []
  | e :: expected, c :: rest => if c = e then ident v expected rest else stopPast .noIdent (c :: rest)

def digitValue (c : Char) : Nat := c.toNat - 0x30

/-- The largest significand that is kept exactly. -/
def significandMax : Nat := UInt64.size - 1

/-- Takes digits onto a significand while it fits; says how many were taken, and leaves the
first that does not fit. -/
def digits (significand taken : Nat) : List Char → Nat × Nat × List Char
  | [] => (significand, taken, [])
  | c :: rest =>
    if c.isDigit ∧ significand * 10 + digitValue c ≤ significandMax then
      digits (significand * 10 + digitValue c) (taken + 1) rest
    else (significand, taken, c :: rest)

def finish (significand : Nat) (exponent : Int) (rest : List Char) : Except Stop (List Char) :=
  if isOutOfRange significand exponent then stopAt .outOfRange rest else .ok rest

def exponentBound : Nat := UInt32.size / 2

/-- The digits of an exponent after the first. One that exceeds 31 bits settles the
number: it is out of range, or zero. -/
def exponentDigits (significand : Nat) (base : Int) (negative : Bool) (value : Nat) :
    List Char → Except Stop (List Char)
  | [] => finish significand (if negative then base - value else base + value) []
  | c :: rest =>
    if c.isDigit then
      if value * 10 + digitValue c < exponentBound then
        exponentDigits significand base negative (value * 10 + digitValue c) rest
      else if significand ≠ 0 ∧ !negative then stopAt .outOfRange rest
      else .ok (rest.dropWhile Char.isDigit)
    else finish significand (if negative then base - value else base + value) (c :: rest)

def exponent (significand : Nat) (base : Int) (cs : List Char) : Except Stop (List Char) :=
  let (negative, cs) := match cs with
    | '+' :: rest => (false, rest)
    | '-' :: rest => (true, rest)
    | rest => (false, rest)
  match cs with
  | [] => stopAt .endOfValue []
  | c :: rest =>
    if c.isDigit then exponentDigits significand base negative (digitValue c) rest
    else stopPast .number (c :: rest)

def maybeExponent (significand : Nat) (base : Int) : List Char → Except Stop (List Char)
  | 'e' :: rest => exponent significand base rest
  | 'E' :: rest => exponent significand base rest
  | rest => finish significand base rest

def fraction (significand : Nat) (base : Int) (cs : List Char) : Except Stop (List Char) :=
  let (s, taken, rest) := digits significand 0 cs
  match rest with
  | c :: _ =>
    if c.isDigit then maybeExponent s (base - taken) (rest.dropWhile Char.isDigit)
    else if taken = 0 then stopPast .number rest
    else maybeExponent s (base - taken) rest
  | [] => if taken = 0 then stopAt .endOfValue [] else finish s (base - taken) []

/-- What follows the digits before a decimal point, of which `dropped` did not fit. -/
def afterInteger (significand dropped : Nat) : List Char → Except Stop (List Char)
  | '.' :: rest => fraction significand dropped rest
  | rest => maybeExponent significand dropped rest

def number : List Char → Except Stop (List Char)
  | [] => stopAt .endOfValue []
  | c :: rest =>
    if c = '0' then
      match rest with
      | d :: _ => if d.isDigit then stopPast .number rest else afterInteger 0 0 rest
      | [] => afterInteger 0 0 rest
    else if c.isDigit then
      let (s, _, left) := digits (digitValue c) 0 rest
      afterInteger s (left.takeWhile Char.isDigit).length (left.dropWhile Char.isDigit)
    else stopPast .number (c :: rest)

/-- What numbers are spelled with. None of it may follow a number. -/
def isNumberPart (c : Char) : Bool := c.isDigit || c == '-' || c == '+' || c == '.' || c == 'e' || c == 'E'

def numberValue (cs after : List Char) : Except Stop (Value × List Char) := do
  let rest ← number after
  return (.number (String.ofList (cs.takeWhile isNumberPart)), rest)

/-! ### Strings -/

def byteCount : List Char → Nat
  | [] => 0
  | c :: rest => c.utf8Size + byteCount rest

/-- Four hexadecimal digits. Four bytes are read before they are looked at. -/
def hex4 (cs : List Char) : Result Nat :=
  match (cs.take 4).mapM hexValue?, cs with
  | some [a, b, c, d], _ => .ok (((a * 16 + b) * 16 + c) * 16 + d, cs.drop 4)
  | _, _ => if byteCount (cs.take 4) < 4 then stopAt .endOfString [] else .error ⟨.escape, cs, 4⟩

def pairMark (c : Char) : List Char → Except Stop (List Char)
  | [] => stopAt .endOfString []
  | d :: rest => if d = c then .ok rest else stopPast .hexEscapeEnd (d :: rest)

/-- The character of a hexadecimal escape. One above U+FFFF is written as two escapes, whose
halves must come in order. -/
def hexEscape (cs : List Char) : Except Stop (Char × List Char) := do
  let (n, rest) ← hex4 cs
  if 0xDC00 ≤ n ∧ n ≤ 0xDFFF then stopAt .loneSurrogate rest
  else if n < 0xD800 ∨ 0xDBFF < n then return (Char.ofNat n, rest)
  else
    let rest ← pairMark '\\' rest
    let rest ← pairMark 'u' rest
    let (m, rest) ← hex4 rest
    if 0xDC00 ≤ m ∧ m ≤ 0xDFFF then
      return (Char.ofNat (0x10000 + (n - 0xD800) * 0x400 + (m - 0xDC00)), rest)
    else stopAt .loneSurrogate rest

def escape : List Char → Result Char
  | [] => stopAt .endOfString []
  | c :: rest =>
    match c with
    | '"' => .ok ('"', rest)
    | '\\' => .ok ('\\', rest)
    | '/' => .ok ('/', rest)
    | 'b' => .ok ('\x08', rest)
    | 'f' => .ok ('\x0C', rest)
    | 'n' => .ok ('\n', rest)
    | 'r' => .ok ('\r', rest)
    | 't' => .ok ('\t', rest)
    | 'u' => hexEscape rest
    | _ => stopPast .escape (c :: rest)

/-- The rest of a string up to and with its closing quotation mark; `before` holds the
characters read so far, last one first. -/
def string (before : List Char) : (fuel : Nat) → List Char → Result String
  | _, [] => stopAt .endOfString []
  | 0, cs => stopAt .endOfString cs
  | fuel + 1, c :: rest =>
    if c = '"' then .ok (String.ofList before.reverse, rest)
    else if c = '\\' then
      match escape rest with
      | .ok (d, rest) => string (d :: before) fuel rest
      | .error e => .error e
    else if c.toNat < 0x20 then stopPast .control (c :: rest)
    else string (c :: before) fuel rest

/-! ### Values -/

mutual
/-- A value. `depth` more arrays and objects may be opened, less one. -/
def value (depth : Nat) : (fuel : Nat) → List Char → Result Value
  | 0, cs => stopAt .endOfValue cs
  | fuel + 1, cs =>
    match dropBlanks cs with
    | [] => stopAt .endOfValue []
    | c :: rest =>
      if c = 'n' then ident .null ['u', 'l', 'l'] rest
      else if c = 't' then ident (.bool true) ['r', 'u', 'e'] rest
      else if c = 'f' then ident (.bool false) ['a', 'l', 's', 'e'] rest
      else if c = '-' then numberValue (c :: rest) rest
      else if c.isDigit then numberValue (c :: rest) (c :: rest)
      else if c = '"' then (string [] rest.length rest).map fun (s, rest) => (.string s, rest)
      else if c = '[' then
        if depth ≤ 1 then stopPast .tooDeep (c :: rest)
        else (items (depth - 1) [] fuel rest).map fun (vs, rest) => (.array vs, rest)
      else if c = '{' then
        if depth ≤ 1 then stopPast .tooDeep (c :: rest)
        else (members (depth - 1) [] fuel rest).map fun (ms, rest) => (.object ms, rest)
      else stopPast .noValue (c :: rest)

def items (depth : Nat) (before : List Value) : (fuel : Nat) → List Char → Result (List Value)
  | 0, cs => stopAt .endOfList cs
  | fuel + 1, cs =>
    match dropBlanks cs with
    | [] => stopAt .endOfList []
    | c :: rest =>
      if c = ']' then .ok (before.reverse, rest)
      else
        let start : Except Stop (List Char) :=
          if before.isEmpty then .ok (c :: rest)
          else if c = ',' then
            match dropBlanks rest with
            | [] => stopAt .endOfValue []
            | d :: more => if d = ']' then stopPast .trailingComma (d :: more) else .ok (d :: more)
          else stopPast .noListEnd (c :: rest)
        match start with
        | .error e => .error e
        | .ok cs =>
          match value depth fuel cs with
          | .error e => .error e
          | .ok (v, rest) => items depth (v :: before) fuel rest

def members (depth : Nat) (before : List (String × Value)) :
    (fuel : Nat) → List Char → Result (List (String × Value))
  | 0, cs => stopAt .endOfObject cs
  | fuel + 1, cs =>
    match dropBlanks cs with
    | [] => stopAt .endOfObject []
    | c :: rest =>
      if c = '}' then .ok (before.reverse, rest)
      else
        let start : Except Stop (List Char) :=
          if before.isEmpty then
            if c = '"' then .ok rest else stopPast .keyNotString (c :: rest)
          else if c = ',' then
            match dropBlanks rest with
            | [] => stopAt .endOfValue []
            | d :: more =>
              if d = '"' then .ok more
              else if d = '}' then stopPast .trailingComma (d :: more)
              else stopPast .keyNotString (d :: more)
          else stopPast .noObjectEnd (c :: rest)
        match start with
        | .error e => .error e
        | .ok cs =>
          match string [] cs.length cs with
          | .error e => .error e
          | .ok (name, rest) =>
            match dropBlanks rest with
            | [] => stopAt .endOfObject []
            | d :: more =>
              if d = ':' then
                match value depth fuel more with
                | .error e => .error e
                | .ok (v, rest) => members depth ((name, v) :: before) fuel rest
              else stopPast .noColon (d :: more)
end

def place (line column : Nat) : List UInt8 → Nat × Nat
  | [] => (line, column)
  | b :: rest => if b = 10 then place (line + 1) 0 rest else place line (column + 1) rest

end Reader

def depthLimit : Nat := 128

def Value.readStop (cs : List Char) : Except Stop Value := do
  let (v, rest) ← Reader.value depthLimit (2 * cs.length + 2) cs
  match Reader.dropBlanks rest with
  | [] => return v
  | rest => Reader.stopPast .trailingCharacters rest

def Value.read (text : String) : Except Failure Value :=
  match Value.readStop text.toList with
  | .ok v => .ok v
  | .error e =>
    let bytes := Utf8.encode text.toList
    let index := bytes.length - Reader.byteCount e.rest + e.bytes
    let (line, column) := Reader.place 1 0 (bytes.take index)
    .error ⟨e.cause, line, column⟩

end HookGate.Json
