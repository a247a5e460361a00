import VrfClient.Radix
import VrfClient.Number.Binary64

/-!
The text of a double: the fewest decimal digits that read back as the same double, and of those the
ones nearest to it. For one digit, then two, up to seventeen, the two neighbours of the value on that
decimal grid are tested against the interval of numbers that round to the double; seventeen digits
always suffice. -/

namespace VrfClient.Shortest

/-- The interval of numbers that round to a double, and the double itself, over one denominator. -/
structure Target where
  low : Nat
  mid : Nat
  high : Nat
  den : Nat
  /-- Whether the ends belong to the interval. -/
  closed : Bool

/-- The interval of `m · 2 ^ q`: half a step up and half a step down, where the step down from a power
of two is only half as long. -/
def target (m : Nat) (q : Int) : Target :=
  let below := if m = 2 ^ 52 ∧ -1074 < q then 1 else 2
  let up := 2 ^ (q - 2).toNat
  ⟨(4 * m - below) * up, 4 * m * up, (4 * m + 2) * up, 2 ^ (2 - q).toNat, m % 2 = 0⟩

/-- Whether `c · unit` lies in the interval, where the unit is the fraction `un / ud`. -/
def Target.holds (t : Target) (c un ud : Nat) : Bool :=
  let x := c * un * t.den
  if t.closed then t.low * ud ≤ x ∧ x ≤ t.high * ud else t.low * ud < x ∧ x < t.high * ud

/-- A power of ten as a fraction. -/
def power (k : Int) : Nat × Nat := if 0 ≤ k then (10 ^ k.toNat, 1) else (1, 10 ^ (-k).toNat)

/-- The least `k` with `num / den < 10 ^ k`, searched around the estimate from the binary length. -/
def pointPosition (num den : Nat) : Int :=
  let estimate : Int := ((num.log2 : Int) - den.log2) * 30103 / 100000
  let candidates := (List.range 5).map fun (i : Nat) => estimate - 1 + (i : Int)
  (candidates.find? fun k => let (n, d) := power k; num * d < n * den).getD (estimate + 4)

/-- The `count`-digit number that reads back as the double, nearest first, an exact tie to the even. -/
def withDigits? (t : Target) (point : Int) (count : Nat) : Option Nat :=
  let (un, ud) := power (point - count)
  let lower := t.mid * ud / (un * t.den)
  let upper := lower + 1
  match t.holds lower un ud, t.holds upper un ud with
  | true, true =>
    let below := t.mid * ud - lower * un * t.den
    let above := upper * un * t.den - t.mid * ud
    some (if below < above ∨ (below = above ∧ lower % 2 = 0) then lower else upper)
  | true, false => some lower
  | false, true => some upper
  | false, false => none

/-- Digits, most significant first and without trailing zeros, and the position of the point: the
number is `0.ddd · 10 ^ point`. -/
def digits (m : Nat) (q : Int) : List Nat × Int :=
  let t := target m q
  let point := pointPosition t.mid t.den
  let found := (List.range 17).findSome? fun i =>
    (withDigits? t point (i + 1)).map fun c => (c, i + 1)
  let (c, count) := found.getD (0, 1)
  let ds := (Radix.digits 10 c).reverse
  ((ds.reverse.dropWhile (· == 0)).reverse, point + ((ds.length : Int) - count))

/-- The decimal text of a natural number. -/
def natText (n : Nat) : String := toString n

/-- Digits as characters. -/
def digitText (ds : List Nat) : String :=
  String.ofList (ds.map fun d => Char.ofNat (48 + d))

/-- How a double is laid out: positional while the point stays within these bounds, with at least one
digit on either side of it, and otherwise one digit, the rest, and a signed exponent of two digits or
more. -/
structure Style where
  least : Int
  greatest : Int

/-- Positional from `0.0001` up to sixteen digits before the point. -/
def style : Style := ⟨-4, 16⟩

/-- The exponent mark, sign and at least two digits. -/
def exponentText (e : Int) : String :=
  let n := natText e.natAbs
  (if e < 0 then "e-" else "e+") ++ (if e.natAbs < 10 then "0" ++ n else n)

/-- Digits laid out around the decimal point. -/
def layout (ds : List Nat) (point : Int) : String :=
  if style.least < point ∧ point ≤ style.greatest then
    if point ≤ 0 then "0." ++ digitText (List.replicate (-point).toNat 0 ++ ds)
    else
      let whole := ds.take point.toNat
      let rest := ds.drop point.toNat
      digitText (whole ++ List.replicate (point.toNat - whole.length) 0) ++ "." ++
        (if rest.isEmpty then "0" else digitText rest)
  else
    digitText (ds.take 1) ++ (if ds.length ≤ 1 then "" else "." ++ digitText (ds.drop 1)) ++
      exponentText (point - 1)

/-- The text of a double. -/
def text (x : Float) : String :=
  match Binary64.shape x with
  | .nan => "nan"
  | .infinite negative => if negative then "-inf" else "inf"
  | .finite negative m q =>
    let unsigned := if m = 0 then "0.0" else
      let (ds, point) := digits m q
      layout ds point
    if negative then "-" ++ unsigned else unsigned

end VrfClient.Shortest
