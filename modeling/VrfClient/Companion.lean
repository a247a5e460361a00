import VrfClient.Address

/-!
The signature-check instruction that accompanies a fulfilment. Its data starts with a count and a
padding byte; one fourteen-byte record per signature follows, made of seven two-byte numbers that say
where signature, key and message lie and which instruction of the transaction holds them. A record is
local when all three lie in this instruction. `read` goes through the records in order: records that
are not local are passed over, a local record that points outside the data ends the reading with a
fault, and every other one yields an entry. -/

namespace VrfClient.Companion

/-- The program that checks signatures. -/
def program : String := "Ed25519SigVerify111111111111111111111111111"

/-- Count and padding. -/
def headerLength : Nat := 2

def recordLength : Nat := 14

def keyLength : Nat := 32

def signatureLength : Nat := 64

/-- The instruction index that means the instruction itself. -/
def thisInstruction : Nat := 0xffff

/-- Why companion data is no evidence. -/
inductive Fault where
  | empty
  | noSignatures
  | truncated
  /-- A local record points outside the data. -/
  | outside (index : Nat)
  | notBase58
  /-- No instruction has an entry for the seed. -/
  | absent
  | signatureLength (length : Nat)
  /-- The signature does not verify. -/
  | forged
deriving DecidableEq

def Fault.message : Fault → String
  | .empty => "Ed25519 instruction data is empty"
  | .noSignatures => "Ed25519 instruction carries no signatures"
  | .truncated => "Ed25519 instruction offsets are truncated"
  | .outside i => s!"Ed25519 entry {i} points outside instruction data"
  | .notBase58 => "Ed25519 instruction data is not base58"
  | .absent => "Unable to find transaction with EdSigVerify instruction for this seed"
  | .signatureLength n => s!"Randomness must be 64 bytes, got {n}"
  | .forged => "Randomness signature is invalid: Signature was forged or corrupt"

/-- Where one signature, its key and its message lie. -/
structure Record where
  signatureOffset : Nat
  signatureIndex : Nat
  keyOffset : Nat
  keyIndex : Nat
  messageOffset : Nat
  messageSize : Nat
  messageIndex : Nat
deriving DecidableEq

/-- What a record points to. -/
structure Entry where
  key : Bytes
  signature : Bytes
  message : Bytes
deriving DecidableEq

/-- The record number `i` of the data. -/
def recordAt (data : Bytes) (i : Nat) : Record :=
  let field := fun k => Bytes.toNatLE (data.slice (headerLength + recordLength * i + 2 * k) 2)
  ⟨field 0, field 1, field 2, field 3, field 4, field 5, field 6⟩

namespace Record

/-- Whether an instruction index means the instruction at position `own`. -/
def refersTo (own index : Nat) : Bool := index = thisInstruction || index = own

/-- Whether signature, key and message all lie in the instruction at position `own`. -/
def isLocal (own : Nat) (r : Record) : Bool :=
  refersTo own r.signatureIndex && refersTo own r.keyIndex && refersTo own r.messageIndex

/-- Whether the three ranges end within `length` bytes. -/
def isInside (length : Nat) (r : Record) : Bool :=
  r.keyOffset + keyLength ≤ length && r.signatureOffset + signatureLength ≤ length &&
    r.messageOffset + r.messageSize ≤ length

/-- The bytes of the three ranges. -/
def entry (data : Bytes) (r : Record) : Entry :=
  ⟨data.slice r.keyOffset keyLength, data.slice r.signatureOffset signatureLength,
    data.slice r.messageOffset r.messageSize⟩

end Record

/-- What a record contributes to a reading. -/
inductive Step where
  | entry (e : Entry)
  /-- The record at this index refers to another instruction. -/
  | elsewhere (index : Nat)
deriving DecidableEq

/-- The steps of a reading in order, and the fault that ends it, if one does. -/
structure Reading where
  steps : List Step
  fault : Option Fault
deriving DecidableEq

namespace Reading

/-- A reading that fails at once. -/
def failed (f : Fault) : Reading := ⟨[], some f⟩

/-- A reading with one more step in front. -/
def after (s : Step) (r : Reading) : Reading := ⟨s :: r.steps, r.fault⟩

/-- The entries among the steps. -/
def entries (r : Reading) : List Entry :=
  r.steps.filterMap fun s => match s with
    | .entry e => some e
    | .elsewhere _ => none

/-- The records passed over. -/
def elsewhere (r : Reading) : List Nat :=
  r.steps.filterMap fun s => match s with
    | .entry _ => none
    | .elsewhere i => some i

end Reading

/-- The reading of the records with these numbers. -/
def readRecords (data : Bytes) (own : Nat) : List Nat → Reading
  | [] => ⟨[], none⟩
  | i :: is =>
    let r := recordAt data i
    if r.isLocal own then
      if r.isInside data.length then (readRecords data own is).after (.entry (r.entry data))
      else .failed (.outside i)
    else (readRecords data own is).after (.elsewhere i)

/-- The reading of companion data in the instruction at position `own`. -/
def read (data : Bytes) (own : Nat) : Reading :=
  match data with
  | count :: _ :: _ =>
    if count = 0 then .failed .noSignatures
    else if data.length < headerLength + recordLength * count.toNat then .failed .truncated
    else readRecords data own (List.range count.toNat)
  | _ => .failed .empty

/-- The data for one signature: key, signature and message follow the record in this order. -/
def single (key : Octets 32) (signature : Signature) (message : Bytes) (index : Nat) : Bytes :=
  let keyOffset := headerLength + recordLength
  let signatureOffset := keyOffset + keyLength
  let messageOffset := signatureOffset + signatureLength
  [1, 0] ++ ([signatureOffset, index, keyOffset, index, messageOffset, message.length, index].flatMap
    (Bytes.ofNatLE 2)) ++ key.bytes ++ signature.bytes ++ message

end VrfClient.Companion
