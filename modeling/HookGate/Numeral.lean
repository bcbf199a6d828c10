/-!
# Numerals

Digits and the numbers they write, and which of these a binary64 float cannot hold.
-/

namespace HookGate.Text

/-!
## Digits

The value of a digit in bases up to sixteen, and of a row of them.
-/

def hexValue? (c : Char) : Option Nat :=
  if '0' ≤ c ∧ c ≤ '9' then some (c.toNat - 0x30)
  else if 'a' ≤ c ∧ c ≤ 'f' then some (c.toNat - 0x61 + 10)
  else if 'A' ≤ c ∧ c ≤ 'F' then some (c.toNat - 0x41 + 10)
  else none

def isHexDigit (c : Char) : Bool := (hexValue? c).isSome

def ofDigits (base : Nat) (digits : List Nat) : Nat := digits.foldl (fun n d => n * base + d) 0

/-- The number that hexadecimal digits write in a base; others count as zero. -/
def numeral (base : Nat) (cs : List Char) : Nat := ofDigits base (cs.map fun c => (hexValue? c).getD 0)

end HookGate.Text

/-!
## The range of binary64 floats

Which decimal numbers are too large to have a finite nearest float.
-/

namespace HookGate.Binary64

/-- The least number that rounds to infinity, half a unit above the largest float. -/
def overflowBound : Nat := 1 <<< 1024 - 1 <<< 970

/-- Whether `significand * 10 ^ exponent` rounds to infinity. The tests on the exponent
keep the powers small. -/
def isInfinite (significand : Nat) : (exponent : Int) → Bool
  | .ofNat e => significand != 0 && (308 < e || overflowBound ≤ significand * Nat.pow 10 e)
  | .negSucc e => e < significand.log2 && overflowBound * Nat.pow 10 (e + 1) ≤ significand

end HookGate.Binary64

/-!
## The range of JSON numbers

A number is refused when it is too large for a binary64 float. Its digits give a
significand, cut off before it would exceed 64 bits, and a power of ten; both are
rounded to binary64 before their product is.
-/

namespace HookGate.Json

/-- The nearest number of 53 significant bits, a tie going to the even one. -/
def round53 (n : Nat) : Nat :=
  if n < 1 <<< 53 then n
  else
    let unit := 1 <<< (n.log2 - 52)
    let q := n / unit
    let r := n % unit
    if 2 * r > unit ∨ (2 * r = unit ∧ q % 2 = 1) then (q + 1) * unit else q * unit

def isOutOfRange (significand : Nat) (exponent : Int) : Bool :=
  match exponent with
  | .ofNat e =>
    significand != 0 && (308 < e || Binary64.overflowBound ≤ round53 significand * round53 (Nat.pow 10 e))
  | .negSucc _ => false

end HookGate.Json
