import HookGate.Text.CaseFold
import HookGate.Text.Class

/-!
# Expressions

What a pattern comes down to: sets of characters, expressions over them, the stretches
of a text that an expression matches, and the search for one.
-/

namespace HookGate.Pattern

/-!
## Character sets

What one position of a pattern admits: tables of ranges, closed under the set
operations of a bracketed class and under simple case folding. A set is asked
about one character at a time, so it is kept as it was written down.
-/

open Text

inductive CharSet where
  /-- A sorted table. -/
  | ranges (table : List (Nat × Nat))
  | union (a b : CharSet)
  | inter (a b : CharSet)
  | diff (a b : CharSet)
  | symmDiff (a b : CharSet)
  | compl (a : CharSet)
  /-- Everything that agrees up to case with a member of `a`. -/
  | folded (a : CharSet)
  /-- The members of `a` and, of those that are ASCII letters, the other case. -/
  | asciiFolded (a : CharSet)
  deriving DecidableEq, Repr

namespace CharSet

/-- The other case of an ASCII letter; any other code point is left alone. -/
def swapCase (n : Nat) : Nat :=
  if 0x41 ≤ n ∧ n ≤ 0x5A then n + 32
  else if 0x61 ≤ n ∧ n ≤ 0x7A then n - 32
  else n

def mem : CharSet → Nat → Bool
  | ranges table, n => inRanges n table
  | union a b, n => a.mem n || b.mem n
  | inter a b, n => a.mem n && b.mem n
  | diff a b, n => a.mem n && !b.mem n
  | symmDiff a b, n => a.mem n != b.mem n
  | compl a, n => !a.mem n
  | folded a, n => (variants n).any a.mem
  | asciiFolded a, n => a.mem n || a.mem (swapCase n)

def contains (s : CharSet) (c : Char) : Bool := s.mem c.toNat

def empty : CharSet := ranges []

def interval (lo hi : Char) : CharSet := ranges [(lo.toNat, hi.toNat)]

def single (c : Char) : CharSet := interval c c

def ofLists : List (List (Nat × Nat)) → CharSet
  | [] => empty
  | [table] => ranges table
  | table :: more => union (ranges table) (ofLists more)

@[simp] theorem contains_compl (a : CharSet) (c : Char) : (compl a).contains c = !a.contains c := rfl

theorem contains_single (c d : Char) : (single d).contains c = (c == d) := by
  simp only [single, interval, contains, mem, inRanges]
  by_cases h : c = d
  · subst h; simp
  · have hn : c.toNat ≠ d.toNat := fun e => h (Char.toNat_inj.1 e)
    rw [beq_eq_false_iff_ne.2 h]
    split
    · rfl
    · rw [if_neg (by omega)]

end CharSet

/-!
## Expressions and what they match

An expression is a pattern whose flags have been worked into its parts.
`Matches` says which stretches of a text it matches; an assertion looks at the
one character on either side, so the relation carries both neighbours of the
stretch.
-/

inductive Alphabet where
  | unicode
  | ascii
  deriving DecidableEq, Repr

def Alphabet.isWord : Alphabet → Char → Bool
  | unicode, c => Text.isWord c
  | ascii, c => isAsciiWord c

inductive Look where
  | textStart
  | textEnd
  /-- After a line feed, or at the start. -/
  | lineStart
  /-- Before a line feed, or at the end. -/
  | lineEnd
  /-- As `lineStart`, where a carriage return with or without a line feed also ends a line. -/
  | crlfStart
  /-- As `lineEnd`, where a carriage return with or without a line feed also ends a line. -/
  | crlfEnd
  | wordBoundary (a : Alphabet)
  | notWordBoundary (a : Alphabet)
  | wordStart (a : Alphabet)
  | wordEnd (a : Alphabet)
  /-- No word character before. -/
  | wordStartHalf (a : Alphabet)
  /-- No word character after. -/
  | wordEndHalf (a : Alphabet)
  deriving DecidableEq, Repr

def Alphabet.beside (a : Alphabet) (c : Option Char) : Bool := c.any a.isWord

def Look.holds (before after : Option Char) : Look → Bool
  | textStart => before.isNone
  | textEnd => after.isNone
  | lineStart => before.all (· == '\n')
  | lineEnd => after.all (· == '\n')
  | crlfStart => before.all fun c => c == '\n' || (c == '\r' && after != some '\n')
  | crlfEnd => after.all fun c => c == '\r' || (c == '\n' && before != some '\r')
  | wordBoundary a => a.beside before != a.beside after
  | notWordBoundary a => a.beside before == a.beside after
  | wordStart a => !a.beside before && a.beside after
  | wordEnd a => a.beside before && !a.beside after
  | wordStartHalf a => !a.beside before
  | wordEndHalf a => !a.beside after

inductive Expr where
  | empty
  | look (k : Look)
  | chars (s : CharSet)
  /-- A group that is kept track of; it matches what its content matches. -/
  | group (a : Expr)
  | cat (a b : Expr)
  | alt (a b : Expr)
  /-- At least `lo` and, if `hi` is given, at most `hi` times `a`. -/
  | times (a : Expr) (lo : Nat) (hi : Option Nat)
  deriving DecidableEq, Repr

/-- `Matches e before text after` says that `e` matches the whole of `text` where
it stands between the neighbours `before` and `after`. -/
inductive Matches : Expr → Option Char → List Char → Option Char → Prop
  | empty {p q} : Matches .empty p [] q
  | look {k p q} : k.holds p q = true → Matches (.look k) p [] q
  | chars {s c p q} : s.contains c = true → Matches (.chars s) p [c] q
  | group {a u p q} : Matches a p u q → Matches (.group a) p u q
  | cat {a b u v p q} : Matches a p u (v.head?.or q) → Matches b (u.getLast?.or p) v q →
      Matches (.cat a b) p (u ++ v) q
  | altLeft {a b u p q} : Matches a p u q → Matches (.alt a b) p u q
  | altRight {a b u p q} : Matches b p u q → Matches (.alt a b) p u q
  | none {a hi p q} : Matches (.times a 0 hi) p [] q
  | more {a lo hi u v p q} : hi ≠ some 0 → Matches a p u (v.head?.or q) →
      Matches (.times a (lo - 1) (hi.map (· - 1))) (u.getLast?.or p) v q →
      Matches (.times a lo hi) p (u ++ v) q

def FoundIn (e : Expr) (text : List Char) : Prop :=
  ∃ u m v, text = u ++ m ++ v ∧ Matches e u.getLast? m v.head?

def Expr.isEmptyOnly : Expr → Bool
  | .empty => true
  | .look _ => true
  | .chars _ => false
  | .group a => a.isEmptyOnly
  | .cat a b => a.isEmptyOnly && b.isEmptyOnly
  | .alt a b => a.isEmptyOnly && b.isEmptyOnly
  | .times a _ hi => a.isEmptyOnly || hi == some 0

/-- No assertion ties the expression to an end of the text or of a line. -/
def Expr.isUnanchored : Expr → Bool
  | .empty => true
  | .look k =>
    match k with
    | .textStart | .textEnd | .lineStart | .lineEnd | .crlfStart | .crlfEnd => false
    | _ => true
  | .chars _ => true
  | .group a => a.isUnanchored
  | .cat a b => a.isUnanchored && b.isUnanchored
  | .alt a b => a.isUnanchored && b.isUnanchored
  | .times a _ _ => a.isUnanchored

/-!
## Search

A text is searched from left to right with one pass over the expression per
character. Each set of the expression carries a mark that says whether it has
just consumed the last character of some match in progress; `advance` moves all
marks over one character at once, and a match starts afresh at every position.
The time is the length of the text times the size of the expression.
-/

inductive Marked where
  | empty
  | look (k : Look)
  | chars (s : CharSet) (mark : Bool)
  | cat (a b : Marked)
  | alt (a b : Marked)
  | star (a : Marked)
  deriving Repr

namespace Marked

def nullable (before after : Option Char) : Marked → Bool
  | empty => true
  | look k => k.holds before after
  | chars _ _ => false
  | cat a b => a.nullable before after && b.nullable before after
  | alt a b => a.nullable before after || b.nullable before after
  | star _ => true

def final (before after : Option Char) : Marked → Bool
  | empty => false
  | look _ => false
  | chars _ mark => mark
  | cat a b => (a.final before after && b.nullable before after) || b.final before after
  | alt a b => a.final before after || b.final before after
  | star a => a.final before after

/-- Moves the marks over `c`, which follows `before`. With `enter`, a match may also
start here. -/
def advance (before : Option Char) (c : Char) (enter : Bool) : Marked → Marked
  | empty => empty
  | look k => look k
  | chars s _ => chars s (enter && s.contains c)
  | cat a b =>
    cat (a.advance before c enter)
      (b.advance before c ((enter && a.nullable before (some c)) || a.final before (some c)))
  | alt a b => alt (a.advance before c enter) (b.advance before c enter)
  | star a => star (a.advance before c (enter || a.final before (some c)))

/-- `n` copies of `a` in a row, for `n` at most `depth`. The row is halved again
and again so that the tree stays shallow. -/
def row (a : Marked) : (depth : Nat) → (n : Nat) → Marked
  | 0, _ => empty
  | depth + 1, n =>
    if n = 0 then empty
    else if n = 1 then a
    else cat (row a depth (n / 2)) (row a depth (n - n / 2))

def copies (a : Marked) (n : Nat) : Marked := row a n n

/-- The expression with no mark set. A bounded repetition is written out. -/
def ofExpr : Expr → Marked
  | .empty => empty
  | .look k => look k
  | .chars s => chars s false
  | .group a => ofExpr a
  | .cat a b => cat (ofExpr a) (ofExpr b)
  | .alt a b => alt (ofExpr a) (ofExpr b)
  | .times a lo none =>
    let m := ofExpr a
    if lo = 0 then star m else cat (copies m lo) (star m)
  | .times a lo (some hi) =>
    let m := ofExpr a
    if hi < lo then chars .empty false
    else if hi = lo then copies m lo
    else cat (copies m lo) (copies (alt m empty) (hi - lo))

/-- Whether a match in progress, or one that starts later, ends in what is left of the text. -/
def scan (m : Marked) (before : Option Char) : List Char → Bool
  | [] => m.final before none || m.nullable before none
  | c :: rest =>
    m.final before (some c) || m.nullable before (some c) ||
      (m.advance before c true).scan (some c) rest

end Marked

def Expr.isFoundIn (e : Expr) (text : List Char) : Bool := (Marked.ofExpr e).scan none text

end HookGate.Pattern
