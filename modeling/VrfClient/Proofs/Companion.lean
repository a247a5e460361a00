import VrfClient.Companion

/-!
What a companion proves. A record of companion data checks a message under a key when it is one of the
counted records, lies in its own instruction and points inside the data: `Checks`. Data that holds the
records it counts is read record by record (`read_eq_readRecords`), and the data that a signer writes for
one signature is read as exactly one entry (`read_single`). -/

namespace VrfClient

namespace Bytes

/-- A number that fits two bytes is read back from them. -/
theorem toNatLE_pair {n : Nat} (h : n < 65536) :
    toNatLE [UInt8.ofNat n, UInt8.ofNat (n / 256)] = n :=
  (toNatLE_ofNatLE 2 n).trans (Nat.mod_eq_of_lt h)

/-- A slice that is one part of a byte string in three parts. -/
theorem slice_append (a b c : Bytes) : slice (a ++ b ++ c) a.length b.length = b := by
  simp [slice, List.append_assoc]

end Bytes

namespace Companion

/-- The instruction with this index is the instruction at position `own` itself. -/
def Own (own index : Nat) : Prop := index = thisInstruction ∨ index = own

/-- Record `i` of companion data, in the instruction at position `own`, checks a message under a key. -/
structure Checks (data : Bytes) (own i : Nat) (key message : Bytes) : Prop where
  counted : ∃ count : UInt8, data[0]? = some count ∧ i < count.toNat ∧
    headerLength + recordLength * count.toNat ≤ data.length
  signature_own : Own own (recordAt data i).signatureIndex
  key_own : Own own (recordAt data i).keyIndex
  message_own : Own own (recordAt data i).messageIndex
  signature_inside : (recordAt data i).signatureOffset + signatureLength ≤ data.length
  key_inside : (recordAt data i).keyOffset + keyLength ≤ data.length
  message_inside : (recordAt data i).messageOffset + (recordAt data i).messageSize ≤ data.length
  key_eq : data.slice (recordAt data i).keyOffset keyLength = key
  message_eq : data.slice (recordAt data i).messageOffset (recordAt data i).messageSize = message

theorem Record.isLocal_iff {own : Nat} {r : Record} : r.isLocal own = true ↔
    Own own r.signatureIndex ∧ Own own r.keyIndex ∧ Own own r.messageIndex := by
  simp [isLocal, refersTo, Own, and_assoc]

theorem Record.isInside_iff {length : Nat} {r : Record} : r.isInside length = true ↔
    r.keyOffset + keyLength ≤ length ∧ r.signatureOffset + signatureLength ≤ length ∧
      r.messageOffset + r.messageSize ≤ length := by
  simp [isInside, and_assoc]

/-- Data that holds the records it counts is read record by record. -/
theorem read_eq_readRecords {data : Bytes} {count : UInt8} (own : Nat) (hc : data[0]? = some count)
    (h0 : count ≠ 0) (hlen : headerLength + recordLength * count.toNat ≤ data.length) :
    read data own = readRecords data own (List.range count.toNat) := by
  match data with
  | [] => simp at hc
  | [_] =>
    simp [headerLength] at hlen
    omega
  | c :: second :: rest =>
    obtain rfl : c = count := by simpa using hc
    simp only [read, h0, if_false, Nat.not_lt.2 hlen]

/-! ### Data for one signature -/

/-- What stands in front of the key: count, padding and one record. -/
def singleHead (message : Bytes) (index : Nat) : Bytes :=
  [1, 0] ++ [48, index, 16, index, 112, message.length, index].flatMap (Bytes.ofNatLE 2)

theorem single_eq (key : Octets 32) (signature : Signature) (message : Bytes) (index : Nat) :
    single key signature message index =
      singleHead message index ++ key.bytes ++ signature.bytes ++ message := rfl

theorem length_singleHead (message : Bytes) (index : Nat) : (singleHead message index).length = 16 :=
  rfl

theorem length_single (key : Octets 32) (signature : Signature) (message : Bytes) (index : Nat) :
    (single key signature message index).length = 112 + message.length := by
  simp [single_eq, length_singleHead, key.length_bytes, signature.length_bytes]
  omega

/-- The only record of the data for one signature. -/
theorem recordAt_single (key : Octets 32) (signature : Signature) {message : Bytes} {index : Nat}
    (hm : message.length < 65536) (hx : index < 65536) :
    recordAt (single key signature message index) 0 =
      ⟨48, index, 16, index, 112, message.length, index⟩ := by
  simp only [recordAt, single_eq, singleHead, Bytes.ofNatLE, Bytes.slice, headerLength, recordLength,
    List.flatMap_cons, List.flatMap_nil, List.cons_append, List.nil_append, List.append_assoc,
    Nat.mul_zero, Nat.mul_one, Nat.reduceAdd, Nat.reduceMul, List.drop_succ_cons, List.drop_zero,
    List.take_succ_cons, List.take_zero, Bytes.toNatLE_pair hx, Bytes.toNatLE_pair hm]
  rfl

section Single

variable (key : Octets 32) (signature : Signature) {message : Bytes} {index own : Nat}
  (hm : message.length < 65536) (hx : index < 65536)

include hm hx

/-- The record lies in its own instruction. -/
theorem isLocal_single (ho : Own own index) :
    (recordAt (single key signature message index) 0).isLocal own = true := by
  rw [recordAt_single key signature hm hx, Record.isLocal_iff]
  exact ⟨ho, ho, ho⟩

/-- It points inside the data. -/
theorem isInside_single : (recordAt (single key signature message index) 0).isInside
    (single key signature message index).length = true := by
  rw [recordAt_single key signature hm hx, Record.isInside_iff, length_single]
  simp [keyLength, signatureLength]
  omega

/-- What it points to is the key, the signature and the message. -/
theorem entry_single : (recordAt (single key signature message index) 0).entry
    (single key signature message index) = ⟨key.bytes, signature.bytes, message⟩ := by
  rw [recordAt_single key signature hm hx, Record.entry]
  have hk := Bytes.slice_append (singleHead message index) key.bytes (signature.bytes ++ message)
  have hs := Bytes.slice_append (singleHead message index ++ key.bytes) signature.bytes message
  have hg := Bytes.slice_append (singleHead message index ++ key.bytes ++ signature.bytes) message []
  simp only [List.length_append, length_singleHead, key.length_bytes, signature.length_bytes,
    List.append_nil, List.append_assoc, Nat.reduceAdd] at hk hs hg
  simp only [single_eq, List.append_assoc, keyLength, signatureLength, hk, hs, hg]

omit hm hx in
theorem held_single : headerLength + recordLength * (1 : UInt8).toNat ≤
    (single key signature message index).length := by
  simp [length_single, headerLength, recordLength]
  omega

/-- The data for one signature, in its own instruction, is read as one entry. -/
theorem read_single (ho : Own own index) : read (single key signature message index) own =
    ⟨[.entry ⟨key.bytes, signature.bytes, message⟩], none⟩ := by
  have hcount : (single key signature message index)[0]? = some 1 := rfl
  have hread := read_eq_readRecords own hcount (by decide) (held_single key signature)
  rw [hread, show List.range (1 : UInt8).toNat = [0] from rfl]
  simp only [readRecords, isLocal_single key signature hm hx ho, isInside_single key signature hm hx,
    entry_single key signature hm hx, if_true]
  rfl

/-- Its only record checks the message under the key. -/
theorem checks_single (ho : Own own index) :
    Checks (single key signature message index) own 0 key.bytes message := by
  have hentry := entry_single key signature hm hx
  have hinside := Record.isInside_iff.1 (isInside_single key signature hm hx)
  have hlocal := Record.isLocal_iff.1 (isLocal_single key signature hm hx ho)
  exact {
    counted := ⟨1, rfl, by decide, held_single key signature⟩
    signature_own := hlocal.1
    key_own := hlocal.2.1
    message_own := hlocal.2.2
    signature_inside := hinside.2.1
    key_inside := hinside.1
    message_inside := hinside.2.2
    key_eq := congrArg Entry.key hentry
    message_eq := congrArg Entry.message hentry }

end Single

end Companion

end VrfClient
