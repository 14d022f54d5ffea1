import FolderTalk.Number.Binary64

/-!
# The shortest decimal of a double

A double is written with the fewest decimal digits that read back as the same double and, among
those, with the digits nearest to its value. Such a decimal is looked for on the grids of 1, 2, …,
17 digits: on each grid only the two neighbours of the value can lie in the interval of reals that
round to it.
-/

namespace FolderTalk.Binary64

/-- The power of ten of the leading digit of `num / den`: searched upwards among the fractions and
read off the digits of the whole part otherwise. -/
def leadingPower (num den : Nat) : Int :=
  if den ≤ num then (digitCount (num / den) : Int) - 1
  else
    match (List.range 330).find? fun k => den ≤ num * Nat.pow 10 (k + 1) with
    | some k => -((k : Int) + 1)
    | none => -330

/-- A decimal `digits * 10 ^ power`. -/
structure Decimal where
  digits : Nat
  power : Int
  deriving DecidableEq, Repr

/-- The decimal as a ratio. -/
def Decimal.ratio (x : Decimal) : Nat × Nat :=
  if x.power < 0 then (x.digits, Nat.pow 10 (-x.power).toNat) else (x.digits * Nat.pow 10 x.power.toNat, 1)

/-- Whether the decimal rounds to `m * 2 ^ e`: it lies between the midpoints to the neighbouring
doubles, ends included when `m` is even. Below a power of two the neighbour is half as far. -/
def readsBack (m : Nat) (e : Int) (x : Decimal) : Bool :=
  let (a, b) := x.ratio
  let (low, high) := (if m == Nat.pow 2 52 && e > -1074 then 4 * m - 1 else 4 * m - 2, 4 * m + 2)
  let (l, ld) := Binary64.ratio low (e - 2)
  let (h, hd) := Binary64.ratio high (e - 2)
  if m % 2 == 0 then l * b ≤ a * ld && a * hd ≤ h * b else l * b < a * ld && a * hd < h * b

/-- The decimal of `count` digits that reads back and is nearest to the value, if there is one. -/
def onGrid (m : Nat) (e : Int) (lead : Int) (count : Nat) : Option Decimal :=
  let power := lead - count + 1
  let (n, d) := Binary64.ratio m e
  let (n, d) := if power < 0 then (n * Nat.pow 10 (-power).toNat, d) else (n, d * Nat.pow 10 power.toNat)
  let below : Decimal := ⟨n / d, power⟩
  let above : Decimal := ⟨n / d + 1, power⟩
  let aboveNearer := 2 * (n % d) > d || (2 * (n % d) == d && (n / d) % 2 == 1)
  match readsBack m e below, readsBack m e above with
  | true, true => some (if aboveNearer then above else below)
  | true, false => some below
  | false, true => some above
  | false, false => none

/-- The shortest decimal of a positive finite double. -/
def shortest (m : Nat) (e : Int) : Decimal :=
  let (n, d) := Binary64.ratio m e
  let lead := leadingPower n d
  ((List.range 17).findSome? fun k => onGrid m e lead (k + 1)).getD ⟨0, 0⟩

/-- The digits of a decimal without closing zeros, and the place of the point counted from before
the first digit. -/
def Decimal.layout (x : Decimal) : List Char × Int :=
  let digits := Nat.toDigits 10 x.digits
  let kept := (digits.reverse.dropWhile (· == '0')).reverse
  (kept, (digits.length : Int) + x.power)

/-- The exponent of scientific notation, with a sign and at least two digits. -/
def exponentText (e : Int) : List Char :=
  let digits := Nat.toDigits 10 e.natAbs
  (if e < 0 then '-' else '+') :: (if digits.length < 2 then '0' :: digits else digits)

/-- Positional notation from `10 ^ -4` up to `10 ^ 16`, scientific notation elsewhere; a whole
number keeps one zero after the point. -/
def layoutText (digits : List Char) (point : Int) : List Char :=
  if -4 < point && point ≤ 16 then
    if point ≤ 0 then '0' :: '.' :: (List.replicate (-point).toNat '0' ++ digits)
    else
      let whole := digits.take point.toNat
      let padded := whole ++ List.replicate (point.toNat - whole.length) '0'
      let rest := digits.drop point.toNat
      padded ++ '.' :: (if rest.isEmpty then ['0'] else rest)
  else
    match digits with
    | [] => []
    | [d] => d :: 'e' :: exponentText (point - 1)
    | d :: rest => d :: '.' :: (rest ++ 'e' :: exponentText (point - 1))

/-- The text of a double. -/
def text : Binary64 → String
  | nan => "nan"
  | infinite negative => if negative then "-inf" else "inf"
  | finite negative m e =>
    let (digits, point) := if m == 0 then (['0'], 1) else (shortest m e).layout
    (if negative then "-" else "") ++ String.ofList (layoutText digits point)

end FolderTalk.Binary64
