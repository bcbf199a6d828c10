import HookGate.Pattern.Expr
import HookGate.Text.Property

/-!
# Trees of patterns

The tree that a pattern is read as, and the expression that it means.
-/

namespace HookGate.Pattern

/-!
## Why a pattern is refused
-/

inductive Fault where
  /-- The pattern ends inside an escape, a class, a count or a group's opening. -/
  | unexpectedEnd
  | unclosedGroup
  | unopenedGroup
  /-- An assertion about a longer stretch before or after a position. -/
  | lookAround
  | groupName
  /-- Two groups have the same name. -/
  | duplicateName (name : String)
  | flags
  /-- A repetition of nothing, or of a flag change. -/
  | nothingToRepeat
  | count
  | escape (c : Char)
  | hexadecimal
  | wordBoundaryName
  | propertyName
  | unknownProperty
  /-- A class item or the end of a range that is no character or set. -/
  | classItem
  | emptyRange
  /-- A Unicode class or character where the pattern is not about Unicode. -/
  | unicodeOff
  /-- A part that could match bytes that are not UTF-8. -/
  | notUtf8
  | tooDeep
  | tooLarge
  deriving DecidableEq, Repr

/-!
## Pattern trees

What the text of a pattern denotes before its flags are worked in: the parts of
a sequence in order, classes as they were written, and flag changes as parts of
their own. Greed is not recorded, since it does not change which texts match.
-/

open Text

inductive Flag where
  | ignoreCase
  | multiLine
  /-- The dot also admits line ends. -/
  | dotAll
  | swapGreed
  | unicode
  /-- A carriage return, with or without a line feed, ends a line. -/
  | crlf
  /-- Blanks and comments of the pattern do not count. -/
  | verbose
  deriving DecidableEq, Repr

abbrev FlagChange := List (Flag × Bool)

def FlagChange.value? (change : FlagChange) (f : Flag) : Option Bool :=
  (change.reverse.find? (·.1 = f)).map (·.2)

/-- A character of a pattern. `asByte` marks one that was given by two hexadecimal
digits, which stands for a byte where the pattern is not about Unicode. -/
structure Literal where
  char : Char
  asByte : Bool
  deriving DecidableEq, Repr

inductive Assertion where
  | lineStart
  | lineEnd
  | textStart
  | textEnd
  | wordBoundary
  | notWordBoundary
  | wordStart
  | wordEnd
  | wordStartHalf
  | wordEndHalf
  deriving DecidableEq, Repr

inductive ShortClass where
  | digit
  | space
  | word
  deriving DecidableEq, Repr

inductive NamedClass where
  | alnum
  | alpha
  | ascii
  | blank
  | cntrl
  | digit
  | graph
  | lower
  | print
  | punct
  | space
  | upper
  | word
  | xdigit
  deriving DecidableEq, Repr

inductive SetOp where
  | inter
  | diff
  | symmDiff
  deriving DecidableEq, Repr

inductive ClassTree where
  | empty
  | char (l : Literal)
  | range (lo hi : Literal)
  | short (k : ShortClass) (negated : Bool)
  | named (k : NamedClass) (negated : Bool)
  | property (q : PropertyQuery) (negated : Bool)
  | bracket (negated : Bool) (inner : ClassTree)
  /-- Items side by side. -/
  | both (a b : ClassTree)
  | op (k : SetOp) (a b : ClassTree)
  deriving DecidableEq, Repr

inductive Tree where
  | empty
  | char (l : Literal)
  | dot
  | assertion (k : Assertion)
  | short (k : ShortClass) (negated : Bool)
  | property (q : PropertyQuery) (negated : Bool)
  | bracket (negated : Bool) (inner : ClassTree)
  /-- From here to the end of the group. -/
  | setFlags (change : FlagChange)
  | group (t : Tree)
  /-- A group with flags of its own. -/
  | flagged (change : FlagChange) (t : Tree)
  | times (t : Tree) (lo : Nat) (hi : Option Nat)
  | cat (a b : Tree)
  | alt (a b : Tree)
  deriving DecidableEq, Repr

def Tree.ofParts : List Tree → Tree
  | [] => empty
  | [t] => t
  | t :: rest => cat t (ofParts rest)

def Tree.ofBranches : List Tree → Tree
  | [] => empty
  | [t] => t
  | t :: rest => alt t (ofBranches rest)

/-- Which operator a node continues, so that a row of parts counts as one level. -/
inductive Chain where
  | none
  | cat
  | alt
  | both
  deriving DecidableEq, Repr

/-- Levels of nesting of a class; a row of items is one level. -/
def ClassTree.depth (within : Chain) : ClassTree → Nat
  | bracket _ inner => inner.depth .none + 1
  | both a b => max (a.depth .both) (b.depth .none) + (if within = .both then 0 else 1)
  | op _ a b => max (a.depth .none) (b.depth .none) + 1
  | _ => 0

/-- Levels of nesting: groups, repetitions, brackets, and rows of two or more parts or
branches count one each. -/
def Tree.depth (within : Chain) : Tree → Nat
  | bracket _ inner => inner.depth .none + 1
  | group t => t.depth .none + 1
  | flagged _ t => t.depth .none + 1
  | times t _ _ => t.depth .none + 1
  | cat a b => max (a.depth .none) (b.depth .cat) + (if within = .cat then 0 else 1)
  | alt a b => max (a.depth .none) (b.depth .alt) + (if within = .alt then 0 else 1)
  | _ => 0

def Tree.isFlagFree : Tree → Bool
  | setFlags _ => false
  | flagged change t => change.isEmpty && t.isFlagFree
  | group t => t.isFlagFree
  | times t _ _ => t.isFlagFree
  | cat a b => a.isFlagFree && b.isFlagFree
  | alt a b => a.isFlagFree && b.isFlagFree
  | _ => true

def Tree.isUnanchored : Tree → Bool
  | assertion k =>
    match k with
    | .lineStart | .lineEnd | .textStart | .textEnd => false
    | _ => true
  | group t => t.isUnanchored
  | flagged _ t => t.isUnanchored
  | times t _ _ => t.isUnanchored
  | cat a b => a.isUnanchored && b.isUnanchored
  | alt a b => a.isUnanchored && b.isUnanchored
  | _ => true

/-!
## The meaning of a pattern's tree

`Tree.toExpr` works the flags into the parts they govern. Flags run from left to
right and end with their group. Case is folded before a class is negated. With
Unicode switched off a part must stay within ASCII, since a pattern never matches
inside the encoding of a character.
-/

/-- The flags in force; greed and verbosity have no effect on meaning. -/
structure Flags where
  ignoreCase : Bool := false
  multiLine : Bool := false
  dotAll : Bool := false
  unicode : Bool := true
  crlf : Bool := false
  deriving DecidableEq, Repr

def Flags.set (f : Flags) (change : FlagChange) : Flags where
  ignoreCase := (change.value? .ignoreCase).getD f.ignoreCase
  multiLine := (change.value? .multiLine).getD f.multiLine
  dotAll := (change.value? .dotAll).getD f.dotAll
  unicode := (change.value? .unicode).getD f.unicode
  crlf := (change.value? .crlf).getD f.crlf

/-! ### Tables of the named classes -/

def asciiDigits : List (Nat × Nat) := [(0x30, 0x39)]

def asciiSpaces : List (Nat × Nat) := [(0x9, 0xD), (0x20, 0x20)]

def ShortClass.table : ShortClass → List (Nat × Nat)
  | digit => digitRanges
  | space => blankRanges
  | word => wordRanges

def ShortClass.asciiTable : ShortClass → List (Nat × Nat)
  | digit => asciiDigits
  | space => asciiSpaces
  | word => asciiWordRanges

def NamedClass.table : NamedClass → List (Nat × Nat)
  | alnum => [(0x30, 0x39), (0x41, 0x5A), (0x61, 0x7A)]
  | alpha => [(0x41, 0x5A), (0x61, 0x7A)]
  | ascii => [(0x0, 0x7F)]
  | blank => [(0x9, 0x9), (0x20, 0x20)]
  | cntrl => [(0x0, 0x1F), (0x7F, 0x7F)]
  | digit => asciiDigits
  | graph => [(0x21, 0x7E)]
  | lower => [(0x61, 0x7A)]
  | print => [(0x20, 0x7E)]
  | punct => [(0x21, 0x2F), (0x3A, 0x40), (0x5B, 0x60), (0x7B, 0x7E)]
  | space => asciiSpaces
  | upper => [(0x41, 0x5A)]
  | word => asciiWordRanges
  | xdigit => [(0x30, 0x39), (0x41, 0x46), (0x61, 0x66)]

/-! ### Sets -/

namespace Flags

def fold (f : Flags) (s : CharSet) : CharSet :=
  if f.ignoreCase then (if f.unicode then .folded s else .asciiFolded s) else s

/-- The complement, if asked for. Outside Unicode it would hold bytes that are no character. -/
def negate (f : Flags) (negated : Bool) (s : CharSet) : Except Fault CharSet :=
  if negated then (if f.unicode then .ok (.compl s) else .error .notUtf8) else .ok s

def foldNegate (f : Flags) (negated : Bool) (s : CharSet) : Except Fault CharSet :=
  f.negate negated (f.fold s)

def literal (f : Flags) (l : Literal) : Except Fault CharSet :=
  if !f.unicode && l.asByte && 0x80 ≤ l.char.toNat then .error .notUtf8
  else .ok (f.fold (.single l.char))

/-- A character inside a class, which must be ASCII where Unicode is off. -/
def classLiteral (f : Flags) (l : Literal) : Except Fault Char :=
  if !f.unicode && 0x80 ≤ l.char.toNat then .error (if l.asByte then .notUtf8 else .unicodeOff)
  else .ok l.char

/-- The one-letter classes are closed under case already. -/
def short (f : Flags) (k : ShortClass) (negated : Bool) : Except Fault CharSet :=
  f.negate negated (.ranges (if f.unicode then k.table else k.asciiTable))

def property (f : Flags) (q : PropertyQuery) (negated : Bool) : Except Fault CharSet :=
  if f.unicode then
    match q.lists? with
    | some lists => f.foldNegate negated (.ofLists lists)
    | none => .error .unknownProperty
  else .error .unicodeOff

def dot (f : Flags) : Except Fault CharSet :=
  if !f.unicode then .error .notUtf8
  else if f.dotAll then .ok (.compl .empty)
  else if f.crlf then .ok (.compl (.ranges [(0xA, 0xA), (0xD, 0xD)]))
  else .ok (.compl (.single '\n'))

def alphabet (f : Flags) : Alphabet := if f.unicode then .unicode else .ascii

def look (f : Flags) : Assertion → Look
  | .lineStart => if f.multiLine then (if f.crlf then .crlfStart else .lineStart) else .textStart
  | .lineEnd => if f.multiLine then (if f.crlf then .crlfEnd else .lineEnd) else .textEnd
  | .textStart => .textStart
  | .textEnd => .textEnd
  | .wordBoundary => .wordBoundary f.alphabet
  | .notWordBoundary => .notWordBoundary f.alphabet
  | .wordStart => .wordStart f.alphabet
  | .wordEnd => .wordEnd f.alphabet
  | .wordStartHalf => .wordStartHalf f.alphabet
  | .wordEndHalf => .wordEndHalf f.alphabet

end Flags

def SetOp.apply : SetOp → CharSet → CharSet → CharSet
  | inter => .inter
  | diff => .diff
  | symmDiff => .symmDiff

/-- The set of a class. Operands are folded before an operator joins them. -/
def ClassTree.toSet (f : Flags) : ClassTree → Except Fault CharSet
  | empty => .ok .empty
  | char l => return .single (← f.classLiteral l)
  | range lo hi => return .interval (← f.classLiteral lo) (← f.classLiteral hi)
  | short k negated => f.short k negated
  | named k negated => f.foldNegate negated (.ranges k.table)
  | property q negated => f.property q negated
  | bracket negated inner => do f.foldNegate negated (← inner.toSet f)
  | both a b => return .union (← a.toSet f) (← b.toSet f)
  | op k a b => return k.apply (f.fold (← a.toSet f)) (f.fold (← b.toSet f))

/-- `lo` to `hi` times `e`. What consumes nothing holds as often as it is asked, so one time
is enough of it. -/
def Expr.repeated (e : Expr) (lo : Nat) (hi : Option Nat) : Expr :=
  if e.isEmptyOnly then .times e (min lo 1) (some (min (hi.getD 1) 1)) else .times e lo hi

/-- The expression of a tree under the flags in force before it, with the flags in force
after it. -/
def Tree.toExpr : Tree → Flags → Except Fault (Expr × Flags)
  | empty, f => .ok (.empty, f)
  | char l, f => return (.chars (← f.literal l), f)
  | dot, f => return (.chars (← f.dot), f)
  | assertion k, f => .ok (.look (f.look k), f)
  | short k negated, f => return (.chars (← f.short k negated), f)
  | property q negated, f => return (.chars (← f.property q negated), f)
  | bracket negated inner, f => return (.chars (← f.foldNegate negated (← inner.toSet f)), f)
  | setFlags change, f => .ok (.empty, f.set change)
  | group t, f => return (.group (← t.toExpr f).1, f)
  | flagged change t, f => return ((← t.toExpr (f.set change)).1, f)
  | times t lo hi, f => do
    let (e, g) ← t.toExpr f
    return (e.repeated lo hi, g)
  | cat a b, f => do
    let (d, g) ← a.toExpr f
    let (e, h) ← b.toExpr g
    return (.cat d e, h)
  | alt a b, f => do
    let (d, g) ← a.toExpr f
    let (e, h) ← b.toExpr g
    return (.alt d e, h)

end HookGate.Pattern
