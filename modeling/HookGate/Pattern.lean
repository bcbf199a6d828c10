import HookGate.Pattern.Reader

/-!
# Patterns

A pattern keeps its source beside the expression that the source denotes.
-/

namespace HookGate.Pattern

/-!
## Character sets as tables

The ranges of a set, once its operations are carried out. Asking whether a set has
a character does not need them; how large a set is does.
-/

open Text

def pointCount : List (Nat × Nat) → Nat
  | [] => 0
  | (lo, hi) :: rest => hi + 1 - lo + pointCount rest

def points (table : List (Nat × Nat)) : List Nat :=
  table.flatMap fun (lo, hi) => (List.range (hi + 1 - lo)).map (lo + ·)

def casedPoints : List Nat :=
  foldRuns.flatMap fun r =>
    (List.range ((r.last - r.first) / r.stride + 1)).flatMap fun i =>
      [r.first + i * r.stride, r.target + i * r.stride]

def foldTable (table : List (Nat × Nat)) : List (Nat × Nat) :=
  let movable :=
    if pointCount table ≤ casedPoints.length then points table
    else casedPoints.filter fun n => inRanges n table
  unionRanges table ((movable.flatMap variants).map fun n => (n, n))

def asciiFoldTable (table : List (Nat × Nat)) : List (Nat × Nat) :=
  let letters := (points [(0x41, 0x5A), (0x61, 0x7A)]).filter fun n => inRanges n table
  unionRanges table (letters.map fun n => (CharSet.swapCase n, CharSet.swapCase n))

def CharSet.table : CharSet → List (Nat × Nat)
  | ranges t => tableOf t
  | union a b => unionRanges a.table b.table
  | inter a b => interRanges a.table b.table
  | diff a b => diffRanges a.table b.table
  | symmDiff a b => unionRanges (diffRanges a.table b.table) (diffRanges b.table a.table)
  | compl a => complementRanges a.table
  | folded a => foldTable a.table
  | asciiFolded a => asciiFoldTable a.table

/-- At least as many as the code points of a set that have other cases. -/
def CharSet.casedBound : CharSet → Nat
  | ranges t => min (pointCount t) 3000
  | union a b => min (a.casedBound + b.casedBound) 3000
  | _ => 3000

def CharSet.breadth : CharSet → Nat
  | ranges t => t.length
  | union a b => a.breadth + b.breadth
  | inter a b => a.breadth + b.breadth + 1
  | diff a b => a.breadth + b.breadth + 1
  | symmDiff a b => a.breadth + b.breadth + 1
  | compl a => a.breadth + 1
  | folded a => a.breadth + 3 * a.casedBound
  | asciiFolded a => a.breadth + 52

/-!
## The size of a pattern

A pattern stands for two automata over the bytes of UTF-8: one reads a text
forwards and keeps track of groups, the other reads it backwards. `Expr.size` is what
either takes, in bytes. Repetitions are written out, so that a short pattern can be
large; a pattern of which an automaton takes more than `sizeLimit` is refused. Most
patterns are far from it, and `Expr.sizeBound` settles that without the tables of
their sets.
-/

inductive Direction where
  | forward
  | backward
  deriving DecidableEq, Repr

def stateSize : Nat := 32

def transitionSize : Nat := 8

def branchSize : Nat := 4

/-! ### Sets -/

/-- The ranges that the bytes of a character lie in, one after the other. -/
abbrev ByteRanges := List (Nat × Nat)

def utf8 (n : Nat) : List Nat := (String.utf8EncodeChar (Char.ofNat n)).map UInt8.toNat

/-- Where a range of code points has to be cut so that its encodings are those of all bytes
between the first and the last: at each length, around the surrogates, and where a byte
changes whose successors do not take all their values. -/
def cut? (lo hi : Nat) : Option Nat :=
  ([0x7F, 0x7FF, 0xD7FF, 0xDFFF, 0xFFFF].find? fun m => lo ≤ m && m < hi).or <|
    if hi < 0x80 then none
    else
      [0x40, 0x1000, 0x40000].findSome? fun m =>
        if lo / m = hi / m then none
        else if lo % m ≠ 0 then some (lo / m * m + (m - 1))
        else if hi % m ≠ m - 1 then some (hi / m * m - 1)
        else none

def encodings (lo hi : Nat) : (fuel : Nat) → List ByteRanges
  | 0 => []
  | fuel + 1 =>
    match cut? lo hi with
    | some m => encodings lo m fuel ++ encodings (m + 1) hi fuel
    | none => if 0xD800 ≤ lo ∧ lo < 0xE000 then [] else [(utf8 lo).zip (utf8 hi)]

def maxCuts : Nat := 16

def tableEncodings (table : List (Nat × Nat)) : List ByteRanges :=
  table.flatMap fun (lo, hi) => encodings lo hi (maxCuts + 1)

def sharedLength : ByteRanges → ByteRanges → Nat
  | r :: rs, s :: ss => if r = s then sharedLength rs ss + 1 else 0
  | _, _ => 0

/-- The states of a tree whose paths are the encodings, without its root. -/
def treeStates (before : ByteRanges) : List ByteRanges → Nat
  | [] => 0
  | s :: rest => s.length - sharedLength before s + treeStates s rest

def branchesOf : List ByteRanges → List ((Nat × Nat) × List ByteRanges)
  | [] => []
  | [] :: rest => branchesOf rest
  | (r :: tail) :: rest =>
    match branchesOf rest with
    | (s, tails) :: more => if r = s then (r, tail :: tails) :: more else (r, [tail]) :: (s, tails) :: more
    | [] => [(r, [tail])]

def successors (states : List (List ByteRanges)) : List (List ByteRanges) :=
  ((states.flatMap fun s => (branchesOf s).map (·.2)).filter (· != [[]])).eraseDups

def sharedStates (all : List ByteRanges) : List (List ByteRanges) :=
  let second := successors [all]
  let third := successors second
  (all :: second ++ third ++ successors third).eraseDups

def setSize (d : Direction) (table : List (Nat × Nat)) : Nat :=
  match table with
  | [(lo, hi)] => if lo = hi then stateSize * (utf8 lo).length else wide
  | _ => wide
where
  wide : Nat :=
    if table.all (·.2 < 0x80) then 2 * stateSize + transitionSize * table.length
    else
      let all := tableEncodings table
      match d with
      | .forward =>
        stateSize +
          (sharedStates all).foldl (fun n s => n + stateSize + transitionSize * (branchesOf s).length) 0
      | .backward => (2 + treeStates [] all) * stateSize + branchSize * all.length

/-! ### Choices -/

/-- The bytes below a state of a tree of words, of which `words` are what is left. -/
def wordTreeSize : (fuel : Nat) → (words : List (List Nat)) → Nat
  | 0, _ => 0
  | fuel + 1, words =>
    match (words.filterMap List.head?).eraseDups with
    | [] => 0
    | firsts =>
      let own := if firsts.length = 1 then stateSize else stateSize + transitionSize * firsts.length
      let ending := if words.contains [] then branchSize else 0
      firsts.foldl
        (fun n b => n + wordTreeSize fuel ((words.filter (·.head? == some b)).map List.tail))
        (own + stateSize + branchSize + ending)

def wordsSize (d : Direction) (words : List (List Nat)) : Nat :=
  let words := match d with
    | .forward => words
    | .backward => words.map List.reverse
  stateSize + wordTreeSize ((words.map List.length).foldl max 0 + 1) words

namespace Expr

def char? : Expr → Option Nat
  | .chars s =>
    match s.table with
    | [(lo, hi)] => if lo = hi then some lo else none
    | _ => none
  | _ => none

def several? (e : Expr) : Option (List (Nat × Nat)) :=
  match e with
  | .chars s => if e.char?.isSome then none else some s.table
  | _ => none

def word? : Expr → Option (List Nat)
  | .cat a b => return (← a.word?) ++ (← b.word?)
  | e => e.char?.map utf8

def branches : Expr → List Expr
  | .alt a b => a :: b.branches
  | e => [e]

/-- Leaves no trace beside something else. -/
def isVoid : Expr → Bool
  | .empty => true
  | .times _ _ hi => hi == some 0
  | .cat a b => a.isVoid && b.isVoid
  | _ => false

def consumes : Expr → Bool
  | .chars _ => true
  | .group a => a.consumes
  | .cat a b => a.consumes || b.consumes
  | .alt a b => a.consumes && b.consumes
  | .times a lo _ => lo != 0 && a.consumes
  | _ => false

/-- The bytes for a choice that becomes a set or a tree of words: one between characters, between
sets or between words. -/
def mergedSize? (d : Direction) (e : Expr) : Option Nat :=
  let all := e.branches
  match all.mapM char?, all.mapM several?, all.mapM word? with
  | some ns, _, _ => some (setSize d (tableOf (ns.map fun n => (n, n))))
  | _, some tables, _ => some (setSize d (tableOf tables.flatten))
  | _, _, some words => some (wordsSize d words)
  | none, none, none => none

def timesSize (size : Nat) (consumes : Bool) (lo : Nat) : Option Nat → Nat
  | none =>
    let fork := stateSize + 2 * branchSize
    if lo ≠ 0 then lo * size + fork
    else if consumes then size + fork
    else size + 2 * fork + stateSize
  | some hi =>
    let fork := stateSize + 2 * branchSize
    let least := if lo = 0 then stateSize else lo * size
    if hi = lo then least
    else if lo = 0 ∧ hi = 1 then size + fork + stateSize
    else least + stateSize + (hi - lo) * (size + fork)

/-- The bytes for an expression, or for the branches it adds to a choice. -/
def size (d : Direction) (branch : Bool) : Expr → Nat
  | .alt a b =>
    let apart := a.size d false + branchSize + b.size d true
    if branch then apart else ((alt a b).mergedSize? d).getD (2 * stateSize + apart)
  | .empty => stateSize + slot
  | .look _ => stateSize + slot
  | .chars s => setSize d s.table + slot
  | .group a =>
    let marks := match d with
      | .forward => 2 * stateSize
      | .backward => 0
    a.size d false + marks + slot
  | .cat a b =>
    if a.isVoid then b.size d false + slot
    else if b.isVoid then a.size d false + slot
    else a.size d false + b.size d false + slot
  | .times a lo hi => timesSize (a.size d false) a.consumes lo hi + slot
where
  slot : Nat := if branch then branchSize else 0

/-- The bytes for the automaton of a whole pattern: it may start anywhere, ends in a state of its own
and, forwards, keeps track of the match as of a group. -/
def wholeSize (d : Direction) (e : Expr) : Nat :=
  let start := timesSize (2 * stateSize + transitionSize) true 0 none
  start + (group e).size d false + stateSize

/-- At least as many bytes as an automaton takes, within a constant. -/
def sizeBound : Expr → Nat
  | .empty => 64
  | .look _ => 64
  | .chars s => 128 + 4096 * s.breadth
  | .group a => a.sizeBound + 64
  | .cat a b => a.sizeBound + b.sizeBound
  | .alt a b => a.sizeBound + b.sizeBound + 128
  | .times a lo hi => (a.sizeBound + 64) * (max lo (hi.getD 0) + 1) + 128

def sizeLimit : Nat := 10 * 1024 * 1024

def fits (e : Expr) : Bool :=
  e.sizeBound + 512 ≤ sizeLimit || (e.wholeSize .forward ≤ sizeLimit && e.wholeSize .backward ≤ sizeLimit)

end Expr

end HookGate.Pattern

/-! ## Patterns -/

namespace HookGate

open Pattern

structure Pattern where
  source : String
  expr : Expr
  deriving DecidableEq, Repr

namespace Pattern

/-- Compiles a pattern, on which case counts unless `ignoreCase` is set. -/
def compile (ignoreCase : Bool) (source : String) : Except Fault Pattern := do
  let tree ← Tree.read source.toList
  let (expr, _) ← tree.toExpr { ignoreCase }
  if !expr.fits then throw .tooLarge
  return ⟨source, expr⟩

def isMatch (p : Pattern) (text : String) : Bool := p.expr.isFoundIn text.toList

end Pattern

end HookGate
