import VrfClient.Curve.Field

/-!
Points of the twisted Edwards curve `-x² + y² = 1 + d x² y²` over the field of `2 ^ 255 - 19`
elements, in extended coordinates: `x = X / Z`, `y = Y / Z`, `T = X Y / Z`. The addition formulas are
complete, so no case is singled out. A compressed point is `y` in 255 bits, little-endian, with the
parity of `x` in the top bit. -/

namespace VrfClient.Curve

/-- A point in extended coordinates. -/
structure Point where
  x : Nat
  y : Nat
  z : Nat
  t : Nat

namespace Point

/-- The constant of the curve equation. -/
def d : Nat := 37095705934669439343138083508754565189542113879843219016388785533085940283555

/-- The neutral element. -/
def zero : Point := ⟨0, 1, 1, 0⟩

/-- The point with the given coordinates. -/
def ofAffine (x y : Nat) : Point := ⟨x, y, 1, Field.mul x y⟩

/-- The generator of the prime-order subgroup. -/
def base : Point := ofAffine
  15112221349535400772501151409588531511454012693041857206046113283949847762202
  46316835694926478169428394003475163141307993866256225615783033603165251855960

def neg (p : Point) : Point := ⟨Field.neg p.x, p.y, p.z, Field.neg p.t⟩

def add (p q : Point) : Point :=
  let a := Field.mul (Field.sub p.y p.x) (Field.sub q.y q.x)
  let b := Field.mul (Field.add p.y p.x) (Field.add q.y q.x)
  let c := Field.mul (Field.mul (2 * d) p.t) q.t
  let e := Field.mul (2 * p.z) q.z
  let f := Field.sub b a
  let g := Field.sub e c
  let h := Field.add e c
  let k := Field.add b a
  ⟨Field.mul f g, Field.mul h k, Field.mul g h, Field.mul f k⟩

def double (p : Point) : Point :=
  let a := Field.mul p.x p.x
  let b := Field.mul p.y p.y
  let c := Field.mul (2 * p.z) p.z
  let h := Field.add a b
  let s := Field.add p.x p.y
  let e := Field.sub h (Field.mul s s)
  let g := Field.sub a b
  let f := Field.add c g
  ⟨Field.mul e f, Field.mul g h, Field.mul f g, Field.mul e h⟩

/-- The sum of `n` copies of a point, for `n` below `2 ^ 256`, by doubling and adding. -/
def smul (n : Nat) (p : Point) : Point :=
  (Field.bits n).foldl (fun acc bit => let acc := acc.double; if bit then acc.add p else acc) zero

/-- The y coordinate that 32 bytes give, before reduction: all bits but the top one. -/
def encodedY (o : Octets 32) : Nat := Bytes.toNatLE o.bytes % 2 ^ 255

/-- The top bit of 32 bytes: the parity of x. -/
def encodedSign (o : Octets 32) : Bool := 2 ^ 255 ≤ Bytes.toNatLE o.bytes

/-- The compressed form. -/
def compress (p : Point) : Octets 32 :=
  let zi := Field.inv p.z
  let x := Field.mul p.x zi
  let y := Field.mul p.y zi
  Octets.ofNatLE 32 (if x % 2 = 1 then y + 2 ^ 255 else y)

/-- The point that 32 bytes encode. The y coordinate is taken modulo the prime, and a sign bit on
`x = 0` has no effect. -/
def decompress? (o : Octets 32) : Option Point :=
  let y := encodedY o % Field.prime
  let yy := Field.mul y y
  let u := Field.sub yy 1
  let v := Field.add (Field.mul d yy) 1
  (Field.sqrtRatio? u v).map fun x =>
    ofAffine (if (x % 2 = 1) = encodedSign o then x else Field.neg x) y

/-- Whether 32 bytes encode a point at all. -/
def onCurve (o : Octets 32) : Bool := (decompress? o).isSome

/-- The y coordinates of the eight points whose order divides eight. -/
def smallOrderY : List Nat :=
  let y8 := 2707385501144840649318225287225658788936804267575313519463743609750303402022
  [0, 1, Field.prime - 1, y8, Field.prime - y8]

/-- Whether 32 bytes, reduced or not and with either sign, give a point whose order divides eight. -/
def hasSmallOrder (o : Octets 32) : Bool := (encodedY o % Field.prime) ∈ smallOrderY

/-- Whether the y coordinate is written in reduced form. -/
def isReduced (o : Octets 32) : Bool := encodedY o < Field.prime

end Point

end VrfClient.Curve
