import VrfClient.Address

/-!
Transactions. An instruction names a program, the accounts it touches with their privileges, and its
payload. `Message.compile` lists every key once, the payer first, then the other keys in four groups by
privilege, each group in byte order, and turns addresses into positions in that list; three counts in
the header say where the groups end. `bytes` lays a message and a transaction out. -/

namespace VrfClient

/-- An account that an instruction touches. -/
structure AccountMeta where
  address : Address
  signer : Bool
  writable : Bool
deriving DecidableEq

/-- A call of a program. -/
structure Instruction where
  program : Address
  accounts : List AccountMeta
  data : Bytes
deriving DecidableEq

/-- An instruction whose addresses are positions in the key list of its message. -/
structure CompiledInstruction where
  program : Nat
  accounts : List Nat
  data : Bytes
deriving DecidableEq

/-- What is signed. -/
structure Message where
  requiredSignatures : Nat
  readOnlySigners : Nat
  readOnlyOthers : Nat
  keys : List Address
  blockhash : Octets 32
  instructions : List CompiledInstruction
deriving DecidableEq

namespace Message

/-- Every address that a payer and instructions mention, each once. -/
def mentioned (payer : Address) (instructions : List Instruction) : List Address :=
  (payer :: instructions.flatMap fun ix => ix.accounts.map AccountMeta.address ++ [ix.program]).eraseDups

/-- Whether some instruction wants the signature of a key. -/
def wantsSignature (instructions : List Instruction) (key : Address) : Bool :=
  instructions.any fun ix => ix.accounts.any fun m => m.address = key && m.signer

/-- Whether some instruction wants to write to a key. -/
def wantsWrite (instructions : List Instruction) (key : Address) : Bool :=
  instructions.any fun ix => ix.accounts.any fun m => m.address = key && m.writable

/-- The keys other than the payer with these privileges, in byte order. -/
def group (payer : Address) (instructions : List Instruction) (signer writable : Bool) :
    List Address :=
  ((mentioned payer instructions).filter fun k =>
    k ≠ payer && wantsSignature instructions k = signer && wantsWrite instructions k = writable)
    |>.mergeSort fun a b => a.bytes.precedes b.bytes

/-- The message of a payer, instructions and a recent block hash. -/
def compile (payer : Address) (instructions : List Instruction) (blockhash : Octets 32) : Message :=
  let signers := payer :: group payer instructions true true
  let readOnlySigners := group payer instructions true false
  let writable := group payer instructions false true
  let readOnly := group payer instructions false false
  let keys := signers ++ readOnlySigners ++ writable ++ readOnly
  { requiredSignatures := signers.length + readOnlySigners.length
    readOnlySigners := readOnlySigners.length
    readOnlyOthers := readOnly.length
    keys
    blockhash
    instructions := instructions.map fun ix =>
      ⟨keys.idxOf ix.program, ix.accounts.map fun m => keys.idxOf m.address, ix.data⟩ }

/-- A length below `2 ^ 21` in groups of seven bits, lowest first; the top bit of a byte says that
another follows. -/
def compactLength (n : Nat) : Bytes :=
  if n < 0x80 then [UInt8.ofNat n]
  else if n < 0x4000 then [UInt8.ofNat (n % 0x80 + 0x80), UInt8.ofNat (n / 0x80)]
  else [UInt8.ofNat (n % 0x80 + 0x80), UInt8.ofNat (n / 0x80 % 0x80 + 0x80), UInt8.ofNat (n / 0x4000)]

/-- The layout of an instruction. -/
def instructionBytes (ix : CompiledInstruction) : Bytes :=
  UInt8.ofNat ix.program :: (compactLength ix.accounts.length ++ ix.accounts.map UInt8.ofNat ++
    compactLength ix.data.length ++ ix.data)

/-- The layout of a message. -/
def bytes (m : Message) : Bytes :=
  [UInt8.ofNat m.requiredSignatures, UInt8.ofNat m.readOnlySigners, UInt8.ofNat m.readOnlyOthers] ++
    compactLength m.keys.length ++ m.keys.flatMap Octets.bytes ++ m.blockhash.bytes ++
    compactLength m.instructions.length ++ m.instructions.flatMap instructionBytes

end Message

/-- A message with its signatures. -/
structure Transaction where
  signatures : List Signature
  message : Message
deriving DecidableEq

/-- The layout of a transaction. -/
def Transaction.bytes (t : Transaction) : Bytes :=
  Message.compactLength t.signatures.length ++ t.signatures.flatMap Octets.bytes ++ t.message.bytes

end VrfClient
