import VrfClient.Text.Classes
import VrfClient.Number.Decimal

/-!
Reading a number that a person typed: blanks around it, an optional sign, then `inf`, `infinity` or
`nan` in any case, or digits of any script with an optional point and exponent. A single underscore
may stand between two digits. -/

namespace VrfClient.Number

/-- Digits of one run, with single underscores between them; gives their values and the rest. -/
def digitRun : List Char → List Nat × List Char
  | [] => ([], [])
  | '_' :: c :: cs =>
    match Text.decimalDigit? c with
    | some d => let (ds, rest) := digitRun cs; (d :: ds, rest)
    | none => ([], '_' :: c :: cs)
  | c :: cs =>
    match Text.decimalDigit? c with
    | some d => let (ds, rest) := digitRun cs; (d :: ds, rest)
    | none => ([], c :: cs)

/-- A run that starts with a digit proper, or nothing. -/
def digitsHere (cs : List Char) : List Nat × List Char :=
  match cs with
  | '_' :: _ => ([], cs)
  | _ => digitRun cs

/-- An optional sign: whether it is a minus, and the rest. -/
def sign : List Char → Bool × List Char
  | '-' :: cs => (true, cs)
  | '+' :: cs => (false, cs)
  | cs => (false, cs)

/-- The fraction after a point, if there is one. -/
def fraction : List Char → List Nat × List Char
  | '.' :: cs => digitsHere cs
  | cs => ([], cs)

/-- The exponent that ends a number: zero if nothing is left, none if the rest is no exponent. -/
def exponent? : List Char → Option Int
  | [] => some 0
  | c :: cs =>
    if c = 'e' ∨ c = 'E' then
      let (negative, cs) := sign cs
      match digitsHere cs with
      | ([], _) => none
      | (ds, []) => some (if negative then -(Radix.horner 10 ds : Int) else Radix.horner 10 ds)
      | _ => none
    else none

/-- Lower-case ASCII letters. -/
def lower (cs : List Char) : String := String.ofList (cs.map Char.toLower)

/-- The number without its sign. -/
def unsigned? (negative : Bool) (cs : List Char) : Option Decimal :=
  let word := lower cs
  if word = "inf" ∨ word = "infinity" then some (.infinite negative)
  else if word = "nan" then some .nan
  else
    let (whole, rest) := digitsHere cs
    let (part, rest) := fraction rest
    if whole.isEmpty && part.isEmpty then none
    else (exponent? rest).map fun e =>
      .finite negative (Radix.horner 10 (whole ++ part)) (e - part.length)

/-- The number that a text holds. -/
def read? (s : String) : Option Decimal :=
  let cs := s.toList.dropWhile Text.isNumberBlank
  let cs := (cs.reverse.dropWhile Text.isNumberBlank).reverse
  let (negative, cs) := sign cs
  unsigned? negative cs

end VrfClient.Number
