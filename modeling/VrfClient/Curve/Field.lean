import VrfClient.Bytes

/-!
Arithmetic modulo `2 ^ 255 - 19`, on natural numbers kept below the modulus. Powers are taken bit by
bit from the top, inverses by Fermat's little theorem. -/

namespace VrfClient.Field

/-- The modulus. -/
def prime : Nat := 2 ^ 255 - 19

def add (a b : Nat) : Nat := (a + b) % prime

def sub (a b : Nat) : Nat := (a + (prime - b % prime)) % prime

def mul (a b : Nat) : Nat := a * b % prime

def neg (a : Nat) : Nat := (prime - a % prime) % prime

/-- The 256 low bits of a number, highest first. -/
def bits (n : Nat) : List Bool := (List.range 256).reverse.map n.testBit

/-- A power by squaring; exponents are below `2 ^ 256`. -/
def pow (a e : Nat) : Nat :=
  (bits e).foldl (fun acc bit => let sq := mul acc acc; if bit then mul sq a else sq) 1

/-- The inverse of a nonzero element, and zero for zero. -/
def inv (a : Nat) : Nat := pow a (prime - 2)

/-- A square root of minus one. -/
def rootOfMinusOne : Nat :=
  19681161376707505956807079304988542015446066515923890162744021073123829784752

/-- A root of `u / v`, if there is one; `v` is not zero. -/
def sqrtRatio? (u v : Nat) : Option Nat :=
  let v3 := mul (mul v v) v
  let v7 := mul (mul v3 v3) v
  let x := mul (mul u v3) (pow (mul u v7) ((prime - 5) / 8))
  let check := mul v (mul x x)
  if check = u % prime then some x
  else if check = neg u then some (mul x rootOfMinusOne)
  else none

end VrfClient.Field
