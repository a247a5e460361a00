import VrfClient.Number.Decimal
import VrfClient.Number.Shortest

/-!
What polling needs of a clock: instants that a duration can be added to, a strict order, a reading of
decimal durations, a text, and a bound on how many polls fit between a start and a deadline. Doubles
are the clock of a running program, exact fractions the clock to reason with. -/

namespace VrfClient

/-- Instants and durations of one clock. -/
class Clock (τ : Type) where
  add : τ → τ → τ
  /-- Strictly later. -/
  isAfter : τ → τ → Bool
  ofDecimal : Decimal → τ
  text : τ → String
  /-- At least the number of polls, one every interval, that a timeout leaves room for. -/
  polls : (timeout interval : τ) → Nat

namespace Clock

/-- There are fewer than `2 ^ 62` instants that a polling run of doubles could visit. -/
instance : Clock Float where
  add := (· + ·)
  isAfter a b := b < a
  ofDecimal := Decimal.toFloat
  text := Shortest.text
  polls _ _ := 2 ^ 62

/-- A decimal as an exact fraction; a decimal without digits stands for zero. -/
def fraction : Decimal → Rat
  | .finite negative digits exponent =>
    let (num, den) := Decimal.ratio digits exponent
    mkRat (if negative then -num else num) den
  | _ => 0

/-- With a positive interval, a poll at zero and one for every whole interval within the timeout. -/
instance : Clock Rat where
  add := (· + ·)
  isAfter a b := b < a
  ofDecimal := fraction
  text q := toString q
  polls timeout interval := (timeout / interval).floor.toNat + 1

end Clock

end VrfClient
