import HookGate.Numeral
import HookGate.Pattern.Tree

/-!
# Reading patterns

`Tree.read` turns the text of a pattern into its tree. The reader walks the
characters once. Recursion takes fuel, which starts at one more than there are
characters, and each step takes at least one of them.
-/

namespace HookGate.Pattern

open Text

structure Cursor where
  rest : List Char
  verbose : Bool
  /-- The group names seen so far. -/
  names : List String

abbrev Reader := StateT Cursor (Except Fault)

namespace Reader

/-- Drops blanks and comments; `comment` says that a comment is open. -/
def dropTrivia (comment : Bool) : List Char → List Char
  | [] => []
  | c :: rest =>
    if comment then dropTrivia (c != '\n') rest
    else if isBlank c then dropTrivia false rest
    else if c = '#' then dropTrivia true rest
    else c :: rest

/-- The characters that satisfy `p`, with trivia dropped after each where they do not count. -/
def collectFrom (verbose : Bool) (p : Char → Bool) : (fuel : Nat) → List Char → List Char × List Char
  | fuel + 1, c :: rest =>
    if p c then
      let (taken, left) := collectFrom verbose p fuel (if verbose then dropTrivia false rest else rest)
      (c :: taken, left)
    else ([], c :: rest)
  | _, rest => ([], rest)

/-- What comes next, blanks and at most one comment mark aside; this decides whether a
hyphen in a class stands for itself. -/
def glance (verbose : Bool) : List Char → Option Char
  | [] => none
  | rest@(first :: _) =>
    if verbose then
      match rest.dropWhile isBlank with
      | '#' :: more => (more.dropWhile isBlank).head?.or (some first)
      | c :: _ => some c
      | [] => some first
    else some first

def peek : Reader (Option Char) := return (← get).rest.head?

def current : Reader Char := do
  match (← get).rest with
  | c :: _ => return c
  | [] => throw .unexpectedEnd

def bump : Reader Unit := modify fun s => { s with rest := s.rest.tail }

def skip : Reader Unit :=
  modify fun s => if s.verbose then { s with rest := dropTrivia false s.rest } else s

def bumpSkip : Reader Unit := do bump; skip

def collect (p : Char → Bool) : Reader (List Char) :=
  modifyGet fun s =>
    let (taken, left) := collectFrom s.verbose p s.rest.length s.rest
    (taken, { s with rest := left })

def take? (lead : List Char) : Reader Bool :=
  modifyGet fun s =>
    if lead.isPrefixOf s.rest then (true, { s with rest := s.rest.drop lead.length }) else (false, s)

/-! ## Escapes -/

inductive Atom where
  | char (l : Literal)
  | dot
  | assertion (k : Assertion)
  | short (k : ShortClass) (negated : Bool)
  | property (q : PropertyQuery) (negated : Bool)

def charOfHex (digits : List Char) : Except Fault Char := do
  let values ← match digits.mapM hexValue? with
    | some [] => throw .hexadecimal
    | some vs => pure vs
    | none => throw .hexadecimal
  let n := ofDigits 16 values
  if n.isValidChar then return Char.ofNat n else throw .hexadecimal

def hexDigits : (count : Nat) → Reader (List Char)
  | 0 => return []
  | count + 1 => do
    let c ← current
    if (hexValue? c).isNone then throw .hexadecimal
    bumpSkip
    return c :: (← hexDigits count)

def hexEscape (letter : Char) : Reader Literal := do
  bumpSkip
  if (← current) = '{' then
    bumpSkip
    let digits ← collect (· != '}')
    let _ ← current
    bumpSkip
    return ⟨← charOfHex digits, false⟩
  else
    let count := if letter = 'x' then 2 else if letter = 'u' then 4 else 8
    return ⟨← charOfHex (← hexDigits count), letter = 'x'⟩

def splitAt? (mark : List Char) : List Char → Option (List Char × List Char)
  | [] => none
  | c :: rest =>
    if mark.isPrefixOf (c :: rest) then some ([], (c :: rest).drop mark.length)
    else (splitAt? mark rest).map fun (a, b) => (c :: a, b)

def propertyClass (negated : Bool) : Reader Atom := do
  bumpSkip
  let c ← current
  if c = '{' then
    bumpSkip
    let name ← collect (· != '}')
    let _ ← current
    bump
    match splitAt? ['!', '='] name with
    | some (p, v) => return .property (.valued (.ofList p) (.ofList v)) !negated
    | none =>
      match (splitAt? [':'] name).or (splitAt? ['='] name) with
      | some (p, v) => return .property (.valued (.ofList p) (.ofList v)) negated
      | none => return .property (.named (.ofList name)) negated
  else if c = '\\' then throw .propertyName
  else
    bumpSkip
    return .property (.named (String.singleton c)) negated

/-- The rest of an escaped `b`: a name in braces selects one of the one-sided boundaries.
Braces that start with anything but a letter or a hyphen are a count. -/
def wordBoundary : Reader Assertion := do
  let before ← get
  if (← peek) != some '{' then return .wordBoundary
  bumpSkip
  let isNameChar (c : Char) : Bool := c.isAlpha || c == '-'
  if !isNameChar (← current) then
    set before
    return .wordBoundary
  let name ← collect isNameChar
  if (← peek) != some '}' then throw .wordBoundaryName
  bump
  match String.ofList name with
  | "start" => return .wordStart
  | "end" => return .wordEnd
  | "start-half" => return .wordStartHalf
  | "end-half" => return .wordEndHalf
  | _ => throw .wordBoundaryName

/-- An escape, from its backslash on. Every ASCII character that is neither a letter nor a
digit may be escaped; the angle brackets are assertions. -/
def escape : Reader Atom := do
  bump
  let c ← current
  match c with
  | 'x' | 'u' | 'U' => return .char (← hexEscape c)
  | 'p' => propertyClass false
  | 'P' => propertyClass true
  | _ =>
    bump
    match c with
    | 'd' => return .short .digit false
    | 'D' => return .short .digit true
    | 's' => return .short .space false
    | 'S' => return .short .space true
    | 'w' => return .short .word false
    | 'W' => return .short .word true
    | 'a' => return .char ⟨'\x07', false⟩
    | 'f' => return .char ⟨'\x0C', false⟩
    | 't' => return .char ⟨'\t', false⟩
    | 'n' => return .char ⟨'\n', false⟩
    | 'r' => return .char ⟨'\r', false⟩
    | 'v' => return .char ⟨'\x0B', false⟩
    | 'A' => return .assertion .textStart
    | 'z' => return .assertion .textEnd
    | 'b' => return .assertion (← wordBoundary)
    | 'B' => return .assertion .notWordBoundary
    | '<' => return .assertion .wordStart
    | '>' => return .assertion .wordEnd
    | _ =>
      if c.toNat < 0x80 && !c.isAlphanum then return .char ⟨c, false⟩
      else throw (.escape c)

/-! ## Classes -/

def NamedClass.ofName? : String → Option NamedClass
  | "alnum" => some .alnum
  | "alpha" => some .alpha
  | "ascii" => some .ascii
  | "blank" => some .blank
  | "cntrl" => some .cntrl
  | "digit" => some .digit
  | "graph" => some .graph
  | "lower" => some .lower
  | "print" => some .print
  | "punct" => some .punct
  | "space" => some .space
  | "upper" => some .upper
  | "word" => some .word
  | "xdigit" => some .xdigit
  | _ => none

def namedClass? : Reader (Option ClassTree) :=
  modifyGet fun s =>
    match s.rest with
    | '[' :: ':' :: more =>
      let (negated, more) := match more with
        | '^' :: m => (true, m)
        | m => (false, m)
      let name := more.takeWhile (· != ':')
      match more.dropWhile (· != ':'), NamedClass.ofName? (.ofList name) with
      | ':' :: ']' :: left, some k => (some (.named k negated), { s with rest := left })
      | _, _ => (none, s)
    | _ => (none, s)

def classAtom : Reader Atom := do
  let c ← current
  if c = '\\' then escape
  else
    bump
    return .char ⟨c, false⟩

def Atom.toItem : Atom → Except Fault ClassTree
  | .char l => .ok (.char l)
  | .short k negated => .ok (.short k negated)
  | .property q negated => .ok (.property q negated)
  | .dot => .error .classItem
  | .assertion _ => .error .classItem

def Atom.toLiteral : Atom → Except Fault Literal
  | .char l => .ok l
  | _ => .error .classItem

/-- One item or range of a class. A hyphen makes a range unless the class ends after it or
another hyphen follows. -/
def classItem : Reader ClassTree := do
  let first ← classAtom
  skip
  let c ← current
  let s ← get
  let after := glance s.verbose s.rest.tail
  if c != '-' || after == some ']' || after == some '-' then first.toItem
  else
    bumpSkip
    let second ← classAtom
    let lo ← first.toLiteral
    let hi ← second.toLiteral
    if hi.char < lo.char then throw .emptyRange
    return .range lo hi

def beside (items : Option ClassTree) (t : ClassTree) : Option ClassTree :=
  match items with
  | none => some t
  | some a => some (.both a t)

def operand (pending : Option (SetOp × ClassTree)) (items : Option ClassTree) : ClassTree :=
  let right := items.getD .empty
  match pending with
  | none => right
  | some (k, left) => .op k left right

def leadingHyphens (items : Option ClassTree) : (fuel : Nat) → Reader (Option ClassTree)
  | 0 => return items
  | fuel + 1 => do
    if (← current) = '-' then
      bumpSkip
      leadingHyphens (beside items (.char ⟨'-', false⟩)) fuel
    else return items

/-- The start of a class from its bracket on: whether it is negated, and the hyphens or the
closing bracket that stand for themselves because they come first. -/
def classStart : Reader (Bool × Option ClassTree) := do
  bumpSkip
  let negated := (← current) = '^'
  if negated then bumpSkip
  let hyphens ← leadingHyphens none (← get).rest.length
  if hyphens.isNone && (← current) = ']' then
    bumpSkip
    let _ ← current
    return (negated, some (.char ⟨']', false⟩))
  return (negated, hyphens)

def setOp? : List Char → Option SetOp
  | '&' :: '&' :: _ => some .inter
  | '-' :: '-' :: _ => some .diff
  | '~' :: '~' :: _ => some .symmDiff
  | _ => none

def classRest (negated : Bool) (pending : Option (SetOp × ClassTree)) (items : Option ClassTree) :
    (fuel : Nat) → Reader ClassTree
  | 0 => throw .unexpectedEnd
  | fuel + 1 => do
    skip
    let c ← current
    if c = '[' then
      match ← namedClass? with
      | some t => classRest negated pending (beside items t) fuel
      | none =>
        let (innerNegated, first) ← classStart
        let t ← classRest innerNegated none first fuel
        classRest negated pending (beside items t) fuel
    else if c = ']' then
      bump
      return .bracket negated (operand pending items)
    else
      match setOp? (← get).rest with
      | some k =>
        bump
        bump
        classRest negated (some (k, operand pending items)) none fuel
      | none =>
        let t ← classItem
        classRest negated pending (beside items t) fuel

/-! ## Groups and repetitions -/

def isNameStart (c : Char) : Bool := c == '_' || inAny c (PropertyQuery.named "alphabetic")
where
  inAny (c : Char) (q : PropertyQuery) : Bool :=
    (q.lists?.getD []).any (inRanges c.toNat ·)

def isNamePart (c : Char) : Bool :=
  isNameStart c || c == '.' || c == '[' || c == ']' ||
    isNameStart.inAny c (PropertyQuery.named "n")

def groupName : Reader Unit := do
  let s ← get
  let name := s.rest.takeWhile (· != '>')
  match s.rest.dropWhile (· != '>'), name with
  | [], _ => throw .groupName
  | _, [] => throw .groupName
  | _ :: left, first :: more =>
    if !isNameStart first || !more.all isNamePart then throw .groupName
    let name := String.ofList name
    if s.names.contains name then throw (.duplicateName name)
    set { s with rest := left, names := name :: s.names }

def Flag.ofChar? : Char → Option Flag
  | 'i' => some .ignoreCase
  | 'm' => some .multiLine
  | 's' => some .dotAll
  | 'U' => some .swapGreed
  | 'u' => some .unicode
  | 'R' => some .crlf
  | 'x' => some .verbose
  | _ => none

/-- The flags up to the colon or parenthesis that ends them. A flag may be named once, one
hyphen turns the flags after it off, and at least one flag must follow it. -/
def flagItems (change : FlagChange) (negated dangling : Bool) : List Char → Except Fault (FlagChange × Char × List Char)
  | [] => .error .unexpectedEnd
  | c :: rest =>
    if c = ':' ∨ c = ')' then
      if dangling then .error .flags else .ok (change, c, rest)
    else if c = '-' then
      if negated then .error .flags else flagItems change true true rest
    else
      match Flag.ofChar? c with
      | none => .error .flags
      | some f =>
        if change.any (·.1 = f) then .error .flags
        else flagItems (change ++ [(f, !negated)]) negated false rest

inductive Opening where
  | flags (change : FlagChange)
  | group
  | flagged (change : FlagChange)

def opening : Reader Opening := do
  bumpSkip
  let s ← get
  if [['?', '='], ['?', '!'], ['?', '<', '='], ['?', '<', '!']].any (·.isPrefixOf s.rest) then
    throw .lookAround
  if ← take? ['?', 'P', '<'] then
    groupName
    return .group
  if ← take? ['?', '<'] then
    groupName
    return .group
  if ← take? ['?'] then
    let (change, closer, left) ← flagItems [] false false (← get).rest
    modify ({ · with rest := left })
    if closer = ':' then return .flagged change
    if change.isEmpty then throw .nothingToRepeat
    return .flags change
  return .group

def decimal? : Reader (Option Nat) := do
  modify fun s => { s with rest := s.rest.dropWhile isBlank }
  let digits ← collect Char.isDigit
  let _ ← collect isBlank
  if digits.isEmpty then return none
  let n := digits.foldl (fun n d => n * 10 + (d.toNat - 0x30)) 0
  if n < UInt32.size then return some n else throw .count

def count : Reader (Nat × Option Nat) := do
  bumpSkip
  let _ ← current
  let lo? ← decimal?
  let c ← current
  let some lo := lo? | throw .count
  let range ← do
    if c = ',' then
      bumpSkip
      if (← current) = '}' then pure (lo, none)
      else
        match ← decimal? with
        | some hi => if lo ≤ hi then pure (lo, some hi) else throw .count
        | none => throw .count
    else pure (lo, some lo)
  if (← peek) != some '}' then throw .count
  bumpSkip
  return range

/-- The parts with the last one repeated. A question mark right after a repetition only
changes its greed. -/
def repeatLast (parts : List Tree) (lo : Nat) (hi : Option Nat) : Reader (List Tree) := do
  match parts with
  | [] => throw .nothingToRepeat
  | .setFlags _ :: _ => throw .nothingToRepeat
  | t :: before =>
    let _ ← take? ['?']
    return .times t lo hi :: before

def Atom.toTree : Atom → Tree
  | .char l => .char l
  | .dot => .dot
  | .assertion k => .assertion k
  | .short k negated => .short k negated
  | .property q negated => .property q negated

def atom : Reader Atom := do
  match ← current with
  | '\\' => escape
  | '.' => bump; return .dot
  | '^' => bump; return .assertion .lineStart
  | '$' => bump; return .assertion .lineEnd
  | c => bump; return .char ⟨c, false⟩

/-- Branches up to the end of the pattern or a closing parenthesis, which stays. Parts and
branches are collected in reverse. -/
def branches (done parts : List Tree) : (fuel : Nat) → Reader Tree
  | 0 => throw .unexpectedEnd
  | fuel + 1 => do
    skip
    match ← peek with
    | none => return finish done parts
    | some ')' => return finish done parts
    | some '|' =>
      bump
      branches (Tree.ofParts parts.reverse :: done) [] fuel
    | some '(' =>
      let outer := (← get).verbose
      match ← opening with
      | .flags change =>
        modify fun s => { s with verbose := (change.value? .verbose).getD s.verbose }
        branches done (.setFlags change :: parts) fuel
      | .group =>
        let t ← branches [] [] fuel
        close outer
        branches done (.group t :: parts) fuel
      | .flagged change =>
        modify fun s => { s with verbose := (change.value? .verbose).getD s.verbose }
        let t ← branches [] [] fuel
        close outer
        branches done (.flagged change t :: parts) fuel
    | some '[' =>
      let (negated, first) ← classStart
      match ← classRest negated none first fuel with
      | .bracket n inner => branches done (.bracket n inner :: parts) fuel
      | _ => throw .classItem
    | some '?' =>
      bump
      branches done (← repeatLast parts 0 (some 1)) fuel
    | some '*' =>
      bump
      branches done (← repeatLast parts 0 none) fuel
    | some '+' =>
      bump
      branches done (← repeatLast parts 1 none) fuel
    | some '{' =>
      if parts.isEmpty then throw .nothingToRepeat
      let (lo, hi) ← count
      branches done (← repeatLast parts lo hi) fuel
    | some _ =>
      let a ← atom
      branches done (a.toTree :: parts) fuel
where
  finish (done parts : List Tree) : Tree :=
    Tree.ofBranches (Tree.ofParts parts.reverse :: done).reverse
  /-- The end of a group, after which blanks count as they did before it. -/
  close (outer : Bool) : Reader Unit := do
    if (← peek) != some ')' then throw .unclosedGroup
    modify fun s => { s with rest := s.rest.tail, verbose := outer }

end Reader

def maxDepth : Nat := 250

def Tree.read (source : List Char) : Except Fault Tree := do
  let (t, s) ← (Reader.branches [] [] (source.length + 1)).run ⟨source, false, []⟩
  if !s.rest.isEmpty then throw .unopenedGroup
  if maxDepth < t.depth .none then throw .tooDeep
  return t

end HookGate.Pattern
