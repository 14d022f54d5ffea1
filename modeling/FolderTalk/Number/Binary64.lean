/-!
# Binary floating point

Doubles as exact values: a sign, a mantissa and a power of two, with the two infinities and
not-a-number beside them. A ratio of natural numbers is rounded once, to the nearest double, and
of two equally near ones to the one with an even mantissa.
-/

namespace FolderTalk

/-- A double. A finite one is `mantissa * 2 ^ exponent` with its sign, the mantissa below `2 ^ 53`
and the exponent at least `-1074`; zero has a sign too. -/
inductive Binary64 where
  | nan
  | infinite (negative : Bool)
  | finite (negative : Bool) (mantissa : Nat) (exponent : Int)
  deriving DecidableEq, Repr, Inhabited

namespace Binary64

def zero (negative : Bool) : Binary64 := finite negative 0 (-1074)

/-- `num * 2 ^ e` and `den * 2 ^ (-e)`, whichever keeps both whole: the ratio divided by `2 ^ e`. -/
def scaledDown (num den : Nat) (e : Int) : Nat × Nat :=
  if e < 0 then (num * Nat.pow 2 (-e).toNat, den) else (num, den * Nat.pow 2 e.toNat)

/-- The exponent at which `num / den` has a mantissa of 53 bits, or the least exponent there is. -/
def exponentFor (num den : Nat) : Int :=
  let guess : Int := (Nat.log2 num : Int) - (Nat.log2 den : Int) - 52
  let (n, d) := scaledDown num den guess
  max (-1074) (if n / d < Nat.pow 2 52 then guess - 1 else guess)

/-- The whole number nearest to `n / d`, a half going to the even neighbour. -/
def roundHalfEven (n d : Nat) : Nat :=
  let q := n / d
  let r := n % d
  if 2 * r > d || (2 * r == d && q % 2 == 1) then q + 1 else q

/-- The double nearest to `num / den`, for a positive `den`. -/
def ofRatio (negative : Bool) (num den : Nat) : Binary64 :=
  if num == 0 then zero negative
  else
    let e := exponentFor num den
    let (n, d) := scaledDown num den e
    let m := roundHalfEven n d
    let (m, e) := if m == Nat.pow 2 53 then (Nat.pow 2 52, e + 1) else (m, e)
    if e > 971 then infinite negative else finite negative m e

/-- How many decimal digits a number has; zero has one. -/
def digitCount (n : Nat) : Nat := (Nat.toDigits 10 n).length

/-- The double nearest to `digits * 10 ^ e`. Magnitudes far outside the range are not computed. -/
def ofDecimal (negative : Bool) (digits : Nat) (e : Int) : Binary64 :=
  let scale : Int := digitCount digits + e
  if digits == 0 || scale < -400 then zero negative
  else if scale > 400 then infinite negative
  else if 0 ≤ e then ofRatio negative (digits * Nat.pow 10 e.toNat) 1
  else ofRatio negative digits (Nat.pow 10 (-e).toNat)

def ofInt (n : Int) : Binary64 := ofRatio (n < 0) n.natAbs 1

/-- The magnitude of a finite double as a ratio. -/
def ratio (mantissa : Nat) (exponent : Int) : Nat × Nat :=
  if exponent < 0 then (mantissa, Nat.pow 2 (-exponent).toNat) else (mantissa * Nat.pow 2 exponent.toNat, 1)

def signed (negative : Bool) (n : Nat) : Int := if negative then -(n : Int) else n

/-- The whole number that a double is equal to, if it is one. -/
def toInt? : Binary64 → Option Int
  | finite negative m e =>
    let (n, d) := ratio m e
    if n % d == 0 then some (signed negative (n / d)) else none
  | _ => none

/-- A finite double without its fractional part. -/
def truncate? : Binary64 → Option Int
  | finite negative m e =>
    let (n, d) := ratio m e
    some (signed negative (n / d))
  | _ => none

/-- The whole thousandths of a finite double that is not negative, zero for any other. -/
def thousandths : Binary64 → Nat
  | finite false m e => let (n, d) := ratio m e; n * 1000 / d
  | _ => 0

/-- Whether two doubles are numerically equal: zeros of either sign are, not-a-number never is. -/
def same : Binary64 → Binary64 → Bool
  | nan, _ | _, nan => false
  | finite n m e, finite n' m' e' => (m == 0 && m' == 0) || (n == n' && m == m' && e == e')
  | x, y => x == y

def isNegative : Binary64 → Bool
  | nan => false
  | infinite n | finite n _ _ => n

/-- The value of a finite double as a signed numerator over a denominator. -/
def fraction? : Binary64 → Option (Int × Nat)
  | finite negative m e =>
    let (n, d) := ratio m e
    some (signed negative n, d)
  | _ => none

/-- The double nearest to a signed ratio; a zero result is positive. -/
def ofFraction (n : Int) (d : Nat) : Binary64 := ofRatio (n < 0) n.natAbs d

/-- Sum of two finite doubles, rounded once. -/
def add (x y : Binary64) : Binary64 :=
  match x.fraction?, y.fraction? with
  | some (a, b), some (c, d) => ofFraction (a * d + c * b) (b * d)
  | none, _ => x
  | _, none => y

/-- Product of two finite doubles, rounded once. -/
def mul (x y : Binary64) : Binary64 :=
  match x.fraction?, y.fraction? with
  | some (a, b), some (c, d) => ofRatio (x.isNegative != y.isNegative) (a * c).natAbs (b * d)
  | none, _ => x
  | _, none => y

def negate : Binary64 → Binary64
  | nan => nan
  | infinite n => infinite (!n)
  | finite n m e => finite (!n) m e

end Binary64

end FolderTalk
