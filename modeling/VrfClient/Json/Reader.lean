import VrfClient.Json.Basic

/-!
Reading a document from text. The grammar is the standard one, and three words stand for numbers
without digits: `NaN`, `Infinity` and `-Infinity`. A name that occurs twice keeps its place and takes
the later value. Control characters inside a text are refused, two escapes that form a surrogate pair
are one character, and half a pair alone is replaced. Arrays and objects may stand inside each other up
to a fixed depth. -/

namespace VrfClient.Json

/-- Why a text is no document. -/
inductive Fault where
  | malformed
  /-- A whole number with more digits than are accepted. -/
  | numberTooLong (digits : Nat)
  /-- More arrays and objects inside each other than are accepted. -/
  | tooDeep
deriving DecidableEq

/-- The greatest number of digits of a whole number. -/
def maxDigits : Nat := 4300

/-- The greatest number of arrays and objects inside each other. -/
def maxNesting : Nat := 989

/-- The text without leading blanks. -/
def skipBlanks : List Char → List Char
  | c :: cs => if c = ' ' ∨ c = '\n' ∨ c = '\t' ∨ c = '\r' then skipBlanks cs else c :: cs
  | [] => []

/-- The value of a hexadecimal digit. -/
def hexValue? (c : Char) : Option Nat :=
  if '0' ≤ c ∧ c ≤ '9' then some (c.toNat - 48)
  else if 'a' ≤ c ∧ c ≤ 'f' then some (c.toNat - 87)
  else if 'A' ≤ c ∧ c ≤ 'F' then some (c.toNat - 55)
  else none

/-- The character that a one-letter escape stands for. -/
def letterEscape? (c : Char) : Option Nat :=
  if c.toNat = 34 ∨ c.toNat = 47 ∨ c.toNat = 92 then some c.toNat
  else if c = 'b' then some 8
  else if c = 'f' then some 12
  else if c = 'n' then some 10
  else if c = 'r' then some 13
  else if c = 't' then some 9
  else none

/-- The code units of a text after its opening quote, newest first, and what follows the closing
quote. -/
def textUnits : List Char → List Nat → Except Fault (List Nat × List Char)
  | [], _ => .error .malformed
  | c :: cs, acc =>
    if c.toNat = 34 then .ok (acc, cs)
    else if c.toNat = 92 then
      match cs with
      | 'u' :: a :: b :: d :: e :: rest =>
        match [a, b, d, e].mapM hexValue? with
        | some ds => textUnits rest (Radix.horner 16 ds :: acc)
        | none => .error .malformed
      | e :: rest =>
        match letterEscape? e with
        | some n => textUnits rest (n :: acc)
        | none => .error .malformed
      | [] => .error .malformed
    else if c.toNat < 32 then .error .malformed
    else textUnits cs (c.toNat :: acc)

/-- Code units, in order, as characters. -/
def joinUnits : List Nat → List Char
  | [] => []
  | u :: us =>
    if 0xd800 ≤ u ∧ u < 0xdc00 then
      match us with
      | v :: rest =>
        if 0xdc00 ≤ v ∧ v < 0xe000 then
          Char.ofNat (0x10000 + (u - 0xd800) * 0x400 + (v - 0xdc00)) :: joinUnits rest
        else Char.ofNat 0xfffd :: joinUnits (v :: rest)
      | [] => [Char.ofNat 0xfffd]
    else if 0xdc00 ≤ u ∧ u < 0xe000 then Char.ofNat 0xfffd :: joinUnits us
    else Char.ofNat u :: joinUnits us

/-- A text after its opening quote. -/
def text (cs : List Char) : Except Fault (String × List Char) := do
  let (units, rest) ← textUnits cs []
  return (String.ofList (joinUnits units.reverse), rest)

/-- A run of ASCII digits and the rest. -/
def digitSpan (cs : List Char) : List Nat × List Char :=
  ((cs.takeWhile Char.isDigit).map fun c => c.toNat - 48, cs.dropWhile Char.isDigit)

/-- The fraction digits, if a point and a digit follow. -/
def fractionPart (cs : List Char) : Option (List Nat) × List Char :=
  match cs with
  | '.' :: rest =>
    match digitSpan rest with
    | ([], _) => (none, cs)
    | (ds, rest) => (some ds, rest)
  | _ => (none, cs)

/-- The exponent, if a mark, perhaps a sign, and a digit follow. -/
def exponentPart (cs : List Char) : Option Int × List Char :=
  match cs with
  | c :: rest =>
    if c = 'e' ∨ c = 'E' then
      let (negative, digits) := match rest with
        | '-' :: r => (true, r)
        | '+' :: r => (false, r)
        | r => (false, r)
      match digitSpan digits with
      | ([], _) => (none, cs)
      | (ds, after) =>
        (some (if negative then -(Radix.horner 10 ds : Int) else Radix.horner 10 ds), after)
    else (none, cs)
  | [] => (none, cs)

/-- A number after its sign. -/
def number (negative : Bool) (cs : List Char) : Except Fault (Json × List Char) :=
  let (whole, rest) := match cs with
    | '0' :: r => ([0], r)
    | _ => digitSpan cs
  if whole.isEmpty then .error .malformed
  else
    match fractionPart rest with
    | (fraction, rest) =>
      match exponentPart rest with
      | (exponent, rest) =>
        if fraction.isNone && exponent.isNone then
          if maxDigits < whole.length then .error (.numberTooLong whole.length)
          else
            let n : Int := Radix.horner 10 whole
            .ok (.int (if negative then -n else n), rest)
        else
          let part := fraction.getD []
          let scaled := exponent.getD 0 - part.length
          .ok (.decimal (.finite negative (Radix.horner 10 (whole ++ part)) scaled), rest)

/-- The rest of the text after a word that it starts with. -/
def after? (word : String) (cs : List Char) : Option (List Char) :=
  if word.toList.isPrefixOf cs then some (cs.drop word.length) else none

/-- The words that are values of their own. -/
def words : List (String × Json) :=
  [("null", .null), ("true", .bool true), ("false", .bool false), ("NaN", .decimal .nan),
   ("Infinity", .decimal (.infinite false)), ("-Infinity", .decimal (.infinite true))]

/-- A word or a number. -/
def scalar (cs : List Char) : Except Fault (Json × List Char) :=
  match words.findSome? fun w => (after? w.1 cs).map fun rest => (w.2, rest) with
  | some found => .ok found
  | none =>
    match cs with
    | '-' :: rest => number true rest
    | _ => number false cs

/-- Members with one more; a name already present keeps its place. -/
def insert (members : List (String × Json)) (name : String) (j : Json) : List (String × Json) :=
  match members with
  | [] => [(name, j)]
  | m :: ms => if m.1 == name then (name, j) :: ms else m :: insert ms name j

mutual

/-- A value inside `depth` arrays and objects; `fuel` bounds the number of steps. -/
def value : Nat → Nat → List Char → Except Fault (Json × List Char)
  | 0, _, _ => .error .malformed
  | fuel + 1, depth, cs =>
    match cs with
    | '[' :: rest =>
      if maxNesting ≤ depth then .error .tooDeep
      else match skipBlanks rest with
        | ']' :: rest => .ok (.arr [], rest)
        | rest => do
          let (xs, rest) ← elements fuel (depth + 1) rest
          return (.arr xs, rest)
    | '\x7b' :: rest =>
      if maxNesting ≤ depth then .error .tooDeep
      else match skipBlanks rest with
        | '\x7d' :: rest => .ok (.obj [], rest)
        | rest => members fuel (depth + 1) rest []
    | c :: rest =>
      if c.toNat = 34 then do
        let (s, rest) ← text rest
        return (.str s, rest)
      else scalar cs
    | [] => .error .malformed

/-- The elements of an array up to its closing bracket. -/
def elements : Nat → Nat → List Char → Except Fault (List Json × List Char)
  | 0, _, _ => .error .malformed
  | fuel + 1, depth, cs => do
    let (x, rest) ← value fuel depth cs
    match skipBlanks rest with
    | ',' :: rest => do
      let (xs, rest) ← elements fuel depth (skipBlanks rest)
      return (x :: xs, rest)
    | ']' :: rest => return ([x], rest)
    | _ => .error .malformed

/-- The members of an object up to its closing brace, after those read so far. -/
def members : Nat → Nat → List Char → List (String × Json) → Except Fault (Json × List Char)
  | 0, _, _, _ => .error .malformed
  | fuel + 1, depth, cs, acc =>
    match cs with
    | quote :: rest =>
      if quote.toNat = 34 then do
        let (name, rest) ← text rest
        match skipBlanks rest with
        | ':' :: rest => do
          let (j, rest) ← value fuel depth (skipBlanks rest)
          match skipBlanks rest with
          | ',' :: rest => members fuel depth (skipBlanks rest) (insert acc name j)
          | '\x7d' :: rest => return (.obj (insert acc name j), rest)
          | _ => .error .malformed
        | _ => .error .malformed
      else .error .malformed
    | [] => .error .malformed

end

/-- The document that a text holds, with nothing but blanks around it. -/
def parse (s : String) : Except Fault Json := do
  let cs := s.toList
  let (j, rest) ← value (2 * cs.length + 2) 0 (skipBlanks cs)
  if (skipBlanks rest).isEmpty then return j else .error .malformed

end VrfClient.Json
