import VrfClient.Bytes

/-!
Base 58 text of a byte string. A byte string is read as a numeral in base 256 and written as one in
base 58, or back; either way each leading zero digit becomes one leading zero digit, so that the
length of a run of zero bytes survives. The two directions are the same `recode`, with the bases
exchanged. -/

namespace VrfClient

namespace Radix

/-- A numeral, most significant digit first, carried from one base to another: the leading zeros one
for one, the rest by value. -/
def recode (source target : Nat) (ds : List Nat) : List Nat :=
  List.replicate (ds.takeWhile (· == 0)).length 0 ++ (digits target (horner source ds)).reverse

end Radix

namespace Base58

/-- The fifty-eight digits in order of value; `0`, `O`, `I` and `l` are left out. -/
def alphabet : List Char := "123456789ABCDEFGHJKLMNPQRSTUVWXYZabcdefghijkmnopqrstuvwxyz".toList

/-- The value of a digit. -/
def digit? (c : Char) : Option Nat := alphabet.idxOf? c

/-- The digit of a value. -/
def char (d : Nat) : Char := alphabet.getD d '1'

/-- The text of a byte string. -/
def encode (bs : Bytes) : String :=
  String.ofList ((Radix.recode 256 58 (bs.map UInt8.toNat)).map char)

/-- The byte string of a text, if every character is a digit. -/
def decode? (text : String) : Option Bytes :=
  (text.toList.mapM digit?).map fun ds => (Radix.recode 58 256 ds).map UInt8.ofNat

end Base58

end VrfClient
