import VrfClient.Base58

/-!
Addresses of accounts and programs: 32 bytes, shown as base 58 text. Reading a text is the inverse of
showing an address; a text that is no address is told apart by what is wrong with it. Randomness seeds
are 32 bytes too, and a caller may give one as bytes, as an address or as base 58 text. -/

namespace VrfClient

/-- The place of an account or a program on the ledger. -/
abbrev Address := Octets 32

/-- What randomness is asked for. -/
abbrev Seed := Octets 32

/-- A signature over a message; it also names the transaction that carries it. -/
abbrev Signature := Octets 64

namespace Address

/-- Why a text is no address. -/
inductive TextFault where
  | wrongSize
  | notBase58
deriving DecidableEq

def TextFault.message : TextFault → String
  | .wrongSize => "String is the wrong size"
  | .notBase58 => "Invalid Base58 string"

/-- The longest base 58 text of 32 bytes. -/
def maxTextLength : Nat := 44

/-- The base 58 text. -/
def text (a : Address) : String := Base58.encode a.bytes

/-- The address that a text shows. -/
def ofText (t : String) : Except TextFault Address :=
  if maxTextLength < t.utf8ByteSize then .error .wrongSize
  else match Base58.decode? t with
    | none => .error .notBase58
    | some bs =>
      match Octets.ofBytes? 32 bs with
      | some a => .ok a
      | none => .error (if 32 < bs.length then .notBase58 else .wrongSize)

end Address

namespace Signature

/-- Why a text is no transaction signature. -/
inductive TextFault where
  | wrongSize
  | undecodable
deriving DecidableEq

def TextFault.message : TextFault → String
  | .wrongSize => "string decoded to wrong size for signature"
  | .undecodable => "failed to decode string to signature"

/-- The longest base 58 text of 64 bytes. -/
def maxTextLength : Nat := 88

/-- The base 58 text. -/
def text (s : Signature) : String := Base58.encode s.bytes

/-- The signature that a text shows. -/
def ofText (t : String) : Except TextFault Signature :=
  if maxTextLength < t.utf8ByteSize then .error .wrongSize
  else match Base58.decode? t with
    | none => .error .undecodable
    | some bs =>
      match Octets.ofBytes? 64 bs with
      | some s => .ok s
      | none => .error (if 64 < bs.length then .undecodable else .wrongSize)

end Signature

/-- The forms in which a caller may give a seed. -/
inductive SeedForm where
  | bytes (bs : Bytes)
  | address (a : Address)
  | text (t : String)

namespace SeedForm

/-- Why a form is no seed. -/
inductive Fault where
  | wrongLength (length : Nat)
  | text (fault : Address.TextFault)
deriving DecidableEq

def Fault.message : Fault → String
  | .wrongLength n => s!"Seed must be 32 bytes, got {n}"
  | .text f => f.message

/-- The seed that a form stands for. -/
def resolve : SeedForm → Except Fault Seed
  | .address a => .ok a
  | .bytes bs =>
    match Octets.ofBytes? 32 bs with
    | some s => .ok s
    | none => .error (.wrongLength bs.length)
  | .text t => (Address.ofText t).mapError .text

end SeedForm

end VrfClient
