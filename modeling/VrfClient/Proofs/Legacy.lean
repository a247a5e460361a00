import VrfClient.Wire.Transaction

/-!
Reading transactions in the legacy format. The readers here are strict: lengths are as short as they can
be, the first byte of a message is below `0x80`, and a transaction ends with its message. A layout `Reads`
as a value when the reader takes exactly the layout from the front of any byte string; layouts in a row
read as values in a row (`Reads.bind`), so a message and a list of signatures are read back field by field
(`reads_message`, `reads_signatures`) as long as every number fits its field. -/

namespace VrfClient.Legacy

/-- Something read from the front of a byte string, with what is left of the string. -/
abbrev Reader (α : Type) := StateT Bytes Option α

variable {α β : Type}

/-! ### Readers -/

def byte : Reader UInt8
  | [] => none
  | b :: bs => some (b, bs)

def octets (n : Nat) : Reader (Octets n) := fun bs =>
  (Octets.ofBytes? n (bs.take n)).map fun o => (o, bs.drop n)

/-- A length below `2 ^ 16` in groups of seven bits, lowest first. The last group is not zero unless it
is the only one. -/
def compactLength : Reader Nat
  | [] => none
  | a :: bs =>
    if a.toNat < 0x80 then some (a.toNat, bs)
    else match bs with
      | [] => none
      | b :: bs =>
        if b.toNat = 0 then none
        else if b.toNat < 0x80 then some (a.toNat % 0x80 + 0x80 * b.toNat, bs)
        else match bs with
          | [] => none
          | c :: bs =>
            if c.toNat = 0 ∨ 4 ≤ c.toNat then none
            else some (a.toNat % 0x80 + 0x80 * (b.toNat % 0x80) + 0x4000 * c.toNat, bs)

def many (r : Reader α) : Nat → Reader (List α)
  | 0 => return []
  | n + 1 => do
    let a ← r
    return a :: (← many r n)

/-- A length, and as many items. -/
def counted (r : Reader α) : Reader (List α) := do many r (← compactLength)

def instruction : Reader CompiledInstruction := do
  let program ← byte
  let accounts ← counted byte
  let data ← counted byte
  return ⟨program.toNat, accounts.map UInt8.toNat, data⟩

def message : Reader Message := do
  let requiredSignatures ← byte
  if 0x80 ≤ requiredSignatures then failure
  let readOnlySigners ← byte
  let readOnlyOthers ← byte
  let keys ← counted (octets 32)
  let blockhash ← octets 32
  let instructions ← counted instruction
  return ⟨requiredSignatures.toNat, readOnlySigners.toNat, readOnlyOthers.toNat, keys, blockhash,
    instructions⟩

def signatures : Reader (List Signature) := counted (octets 64)

/-! ### Layouts that read as values -/

/-- The reader takes this layout, and no more, from the front of any byte string. -/
def Reads (r : Reader α) (layout : Bytes) (a : α) : Prop :=
  ∀ rest, r (layout ++ rest) = some (a, rest)

theorem reads_pure (a : α) : Reads (pure a) [] a := fun _ => rfl

/-- One layout after the other. -/
theorem Reads.bind {r : Reader α} {f : α → Reader β} {layout layout' : Bytes} {a : α} {b : β}
    (h : Reads r layout a) (h' : Reads (f a) layout' b) : Reads (r >>= f) (layout ++ layout') b := by
  intro rest
  have hfirst := h (layout' ++ rest)
  rw [List.append_assoc]
  show (r (layout ++ (layout' ++ rest))).bind (fun p => f p.1 p.2) = some (b, rest)
  rw [hfirst]
  exact h' rest

theorem reads_byte (b : UInt8) : Reads byte [b] b := fun _ => rfl

theorem reads_octets {n : Nat} (o : Octets n) : Reads (octets n) o.bytes o := by
  intro rest
  simp only [octets, List.take_left' o.length_bytes, List.drop_left' o.length_bytes,
    Octets.ofBytes?_bytes]
  rfl

/-- A byte that holds a small number. -/
theorem toNat_ofNat {n : Nat} (h : n < 256) : (UInt8.ofNat n).toNat = n :=
  UInt8.toNat_ofNat_of_lt' h

/-- What is written as a compact length reads as it. -/
theorem reads_compactLength {n : Nat} (h : n < 65536) :
    Reads compactLength (Message.compactLength n) n := by
  intro rest
  unfold Message.compactLength
  split
  · rename_i hn
    have ha : (UInt8.ofNat n).toNat = n := toNat_ofNat (by omega)
    simp only [List.cons_append, List.nil_append, compactLength, ha, if_pos hn]
  · have ha : (UInt8.ofNat (n % 0x80 + 0x80)).toNat = n % 0x80 + 0x80 := toNat_ofNat (by omega)
    have ha' : ¬ n % 0x80 + 0x80 < 0x80 := by omega
    split
    · rename_i hn hm
      have hb : (UInt8.ofNat (n / 0x80)).toNat = n / 0x80 := toNat_ofNat (by omega)
      have hb0 : ¬ n / 0x80 = 0 := by omega
      have hb' : n / 0x80 < 0x80 := by omega
      have hvalue : (n % 0x80 + 0x80) % 0x80 + 0x80 * (n / 0x80) = n := by omega
      simp only [List.cons_append, List.nil_append, compactLength, ha, hb, if_neg ha', if_neg hb0,
        if_pos hb', hvalue]
    · rename_i hn hm
      have hb : (UInt8.ofNat (n / 0x80 % 0x80 + 0x80)).toNat = n / 0x80 % 0x80 + 0x80 :=
        toNat_ofNat (by omega)
      have hc : (UInt8.ofNat (n / 0x4000)).toNat = n / 0x4000 := toNat_ofNat (by omega)
      have hb0 : ¬ n / 0x80 % 0x80 + 0x80 = 0 := by omega
      have hb' : ¬ n / 0x80 % 0x80 + 0x80 < 0x80 := by omega
      have hc' : ¬ (n / 0x4000 = 0 ∨ 4 ≤ n / 0x4000) := by omega
      have hvalue : (n % 0x80 + 0x80) % 0x80 + 0x80 * ((n / 0x80 % 0x80 + 0x80) % 0x80) +
          0x4000 * (n / 0x4000) = n := by omega
      simp only [List.cons_append, List.nil_append, compactLength, ha, hb, hc, if_neg ha', if_neg hb0,
        if_neg hb', if_neg hc', hvalue]

theorem reads_many {r : Reader α} {f : α → Bytes} :
    ∀ {as : List α}, (∀ a ∈ as, Reads r (f a) a) → Reads (many r as.length) (as.flatMap f) as
  | [], _ => reads_pure []
  | a :: as, h => by
    have hrest : Reads (do return a :: (← many r as.length)) (as.flatMap f ++ []) (a :: as) :=
      (reads_many fun b hb => h b (List.mem_cons_of_mem _ hb)).bind (reads_pure _)
    rw [List.append_nil] at hrest
    exact (h a (by simp)).bind hrest

theorem reads_counted {r : Reader α} {f : α → Bytes} {as : List α} (hlength : as.length < 65536)
    (h : ∀ a ∈ as, Reads r (f a) a) :
    Reads (counted r) (Message.compactLength as.length ++ as.flatMap f) as :=
  (reads_compactLength hlength).bind (reads_many h)

/-- Bytes in a row read as themselves. -/
theorem reads_counted_bytes {bs : Bytes} (hlength : bs.length < 65536) :
    Reads (counted byte) (Message.compactLength bs.length ++ bs) bs := by
  have hread := reads_counted hlength fun b _ => reads_byte b
  rwa [List.flatMap_singleton'] at hread

/-! ### Instructions and messages -/

/-- Every number of an instruction fits its field. -/
structure FitsInstruction (ix : CompiledInstruction) : Prop where
  program : ix.program < 256
  accounts : ∀ i ∈ ix.accounts, i < 256
  accounts_length : ix.accounts.length < 65536
  data_length : ix.data.length < 65536

/-- Every number of a message fits its field, and the first is no version mark. -/
structure Fits (m : Message) : Prop where
  requiredSignatures : m.requiredSignatures < 128
  readOnlySigners : m.readOnlySigners < 256
  readOnlyOthers : m.readOnlyOthers < 256
  keys_length : m.keys.length < 65536
  instructions_length : m.instructions.length < 65536
  instructions : ∀ ix ∈ m.instructions, FitsInstruction ix

theorem reads_instruction {ix : CompiledInstruction} (h : FitsInstruction ix) :
    Reads instruction (Message.instructionBytes ix) ix := by
  have hlength : (ix.accounts.map UInt8.ofNat).length < 65536 := by
    rw [List.length_map]
    exact h.accounts_length
  have hlayout : Message.instructionBytes ix = [UInt8.ofNat ix.program] ++
      ((Message.compactLength (ix.accounts.map UInt8.ofNat).length ++
        ix.accounts.map UInt8.ofNat) ++
      ((Message.compactLength ix.data.length ++ ix.data) ++ [])) := by
    simp [Message.instructionBytes]
  rw [hlayout]
  refine (reads_byte _).bind ((reads_counted_bytes hlength).bind
    ((reads_counted_bytes h.data_length).bind ?_))
  rw [toNat_ofNat h.program, Bytes.map_toNat_ofNat h.accounts]
  exact reads_pure ix

/-- What is written as a message reads as it. -/
theorem reads_message {m : Message} (h : Fits m) : Reads message m.bytes m := by
  have hlayout : m.bytes = [UInt8.ofNat m.requiredSignatures] ++
      ([UInt8.ofNat m.readOnlySigners] ++ ([UInt8.ofNat m.readOnlyOthers] ++
        ((Message.compactLength m.keys.length ++ m.keys.flatMap Octets.bytes) ++
          (m.blockhash.bytes ++ ((Message.compactLength m.instructions.length ++
            m.instructions.flatMap Message.instructionBytes) ++ []))))) := by
    simp [Message.bytes]
  have hmark : ¬ 0x80 ≤ (UInt8.ofNat m.requiredSignatures) := by
    have hlt := h.requiredSignatures
    rw [UInt8.le_iff_toNat_le, toNat_ofNat (by omega)]
    exact Nat.not_le.2 hlt
  have hkeys : Reads (counted (octets 32)) _ m.keys :=
    reads_counted h.keys_length fun key _ => reads_octets key
  have hinstructions : Reads (counted instruction) _ m.instructions :=
    reads_counted h.instructions_length fun ix hix => reads_instruction (h.instructions ix hix)
  rw [hlayout]
  refine (reads_byte _).bind ?_
  rw [if_neg hmark]
  refine (reads_byte _).bind ((reads_byte _).bind (hkeys.bind
    ((reads_octets m.blockhash).bind (hinstructions.bind ?_))))
  rw [toNat_ofNat h.readOnlySigners, toNat_ofNat h.readOnlyOthers,
    toNat_ofNat (Nat.lt_trans h.requiredSignatures (by decide))]
  exact reads_pure m

theorem reads_signatures {gs : List Signature} (h : gs.length < 65536) :
    Reads signatures (Message.compactLength gs.length ++ gs.flatMap Octets.bytes) gs :=
  reads_counted h fun g _ => reads_octets g

end VrfClient.Legacy
