import VrfClient.Bytes
import VrfClient.Text.Classes

/-!
Text quoted for a message. The quotes are single, unless the text holds a single quote and no double
one; the quote in use and the backslash are escaped, line feed, carriage return and tab have letters
of their own, and any other character without a visible form is shown by its code point in two, four
or eight hexadecimal digits. -/

namespace VrfClient.Text

/-- The single quotation mark. -/
def singleQuote : Char := Char.ofNat 39

/-- The double quotation mark. -/
def doubleQuote : Char := Char.ofNat 34

/-- The escape character. -/
def backslash : Char := Char.ofNat 92

/-- A code point as `width` hexadecimal digits. -/
def hexPoint (width n : Nat) : List Char :=
  ((List.range width).reverse).map fun i => Bytes.hexDigit (n / 16 ^ i % 16)

/-- One character inside quotes. -/
def escape (quote c : Char) : List Char :=
  if c = quote ∨ c = backslash then [backslash, c]
  else if c = '\n' then [backslash, 'n']
  else if c = '\r' then [backslash, 'r']
  else if c = '\t' then [backslash, 't']
  else if isVisible c then [c]
  else if c.toNat < 0x100 then backslash :: 'x' :: hexPoint 2 c.toNat
  else if c.toNat < 0x10000 then backslash :: 'u' :: hexPoint 4 c.toNat
  else backslash :: 'U' :: hexPoint 8 c.toNat

/-- The quote that a text is put into. -/
def quoteFor (cs : List Char) : Char :=
  if cs.contains singleQuote && !cs.contains doubleQuote then doubleQuote else singleQuote

/-- The quoted text. -/
def quoted (s : String) : String :=
  let q := quoteFor s.toList
  String.ofList (q :: s.toList.flatMap (escape q) ++ [q])

end VrfClient.Text
