import VrfClient.Radix

/-!
Doubles as exact numbers. A finite double is `m · 2 ^ q` for natural `m`; `ofRatio` gives the double
nearest to a positive fraction, with ties to the even `m`. Everything is done in natural numbers, so
no intermediate rounding can occur. -/

namespace VrfClient.Binary64

/-- A quotient rounded to the nearest natural number, a tie to the even one. -/
def roundDiv (num den : Nat) : Nat :=
  let q := num / den
  let r := num % den
  if 2 * r < den then q
  else if den < 2 * r then q + 1
  else if q % 2 = 0 then q else q + 1

/-- `num / den` times `2 ^ k`, as a fraction. -/
def scale (num den : Nat) (k : Int) : Nat × Nat :=
  if 0 ≤ k then (num * 2 ^ k.toNat, den) else (num, den * 2 ^ (-k).toNat)

/-- The exponent `q` at which a positive fraction has a 53-bit `m`, but never below the subnormals. -/
def exponent (num den : Nat) : Int :=
  let e : Int := (num.log2 : Int) - den.log2
  let (n, d) := scale num den (-e)
  max (if d ≤ n then e - 52 else e - 53) (-1074)

/-- The bit pattern of the double nearest to `num / den`; infinity when that is too large. -/
def bitsOfRatio (num den : Nat) : Nat :=
  let q := exponent num den
  let (n, d) := scale num den (-q)
  min ((q + 1074).toNat * 2 ^ 52 + roundDiv n d) (2047 * 2 ^ 52)

/-- The double nearest to `num / den`, for positive `den`. -/
def ofRatio (negative : Bool) (num den : Nat) : Float :=
  let magnitude := if num = 0 then 0 else bitsOfRatio num den
  Float.ofBits (UInt64.ofNat (magnitude + if negative then 2 ^ 63 else 0))

/-- What a double is. -/
inductive Shape where
  | nan
  | infinite (negative : Bool)
  | finite (negative : Bool) (m : Nat) (q : Int)

/-- The parts of a double. -/
def shape (x : Float) : Shape :=
  let b := x.toBits.toNat
  let negative := 2 ^ 63 ≤ b
  let biased : Nat := b / 2 ^ 52 % 2 ^ 11
  let fraction : Nat := b % 2 ^ 52
  if biased = 2047 then (if fraction = 0 then .infinite negative else .nan)
  else if biased = 0 then .finite negative fraction (-1074)
  else .finite negative (fraction + 2 ^ 52) ((biased : Int) - 1075)

end VrfClient.Binary64
