import VrfClient.Radix
import VrfClient.Number.Binary64

/-!
Decimal numbers as written: a sign, digits and a power of ten, or one of the three values that have
no digits. `toFloat` gives the nearest double. A decimal so small that its double is zero `vanishes`,
which is decided without computing the power when the exponent is far out of range. -/

namespace VrfClient

/-- A number as written in text. -/
inductive Decimal where
  | finite (negative : Bool) (digits : Nat) (exponent : Int)
  | infinite (negative : Bool)
  | nan
deriving DecidableEq

namespace Decimal

/-- The position of the decimal point: the number of digits plus the exponent. -/
def magnitude (digits : Nat) (exponent : Int) : Int := (Radix.digits 10 digits).length + exponent

/-- The fraction `digits · 10 ^ exponent`. -/
def ratio (digits : Nat) (exponent : Int) : Nat × Nat :=
  if 0 ≤ exponent then (digits * 10 ^ exponent.toNat, 1) else (digits, 10 ^ (-exponent).toNat)

/-- The nearest double. -/
def toFloat : Decimal → Float
  | .nan => 0 / 0
  | .infinite negative => if negative then -1 / 0 else 1 / 0
  | .finite negative digits exponent =>
    if digits = 0 ∨ magnitude digits exponent < -330 then Binary64.ofRatio negative 0 1
    else if 310 < magnitude digits exponent then (if negative then -1 / 0 else 1 / 0)
    else
      let (num, den) := ratio digits exponent
      Binary64.ofRatio negative num den

/-- Whether the nearest double is zero: the number is at most half the smallest positive double. -/
def vanishes : Decimal → Bool
  | .finite _ digits exponent =>
    digits = 0 ∨ magnitude digits exponent < -330 ∨
      (exponent < 0 ∧ magnitude digits exponent < 0 ∧
        digits * 2 ^ 1075 ≤ 10 ^ (-exponent).toNat)
  | _ => false

end Decimal

end VrfClient
