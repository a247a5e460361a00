import VrfClient.Radix

/-!
Byte strings. Messages, account data and payloads are lists of bytes; keys, hashes and signatures
have a fixed length, which `Octets n` carries as a proof. Numbers inside a layout are little-endian
and of fixed width: `ofNatLE` writes them, `toNatLE` reads them, and each undoes the other. -/

namespace VrfClient

/-- A byte string of any length. -/
abbrev Bytes := List UInt8

namespace Bytes

/-- The UTF-8 form of a text. -/
def ofText (s : String) : Bytes := s.toUTF8.data.toList

/-- The lower-case hexadecimal digit of a number below sixteen. -/
def hexDigit (n : Nat) : Char := ("0123456789abcdef".toList)[n]?.getD '?'

/-- Two lower-case hexadecimal digits a byte. -/
def hex (bs : Bytes) : String :=
  String.ofList (bs.flatMap fun b => [hexDigit (b.toNat / 16), hexDigit (b.toNat % 16)])

/-- The `len` bytes from position `start`; fewer where the string ends earlier. -/
def slice (bs : Bytes) (start len : Nat) : Bytes := (bs.drop start).take len

/-- A number as `width` bytes, least significant first; higher digits are dropped. -/
def ofNatLE : Nat → Nat → Bytes
  | 0, _ => []
  | width + 1, n => UInt8.ofNat n :: ofNatLE width (n / 256)

/-- The number that bytes, least significant first, stand for. -/
def toNatLE : Bytes → Nat
  | [] => 0
  | b :: bs => b.toNat + 256 * toNatLE bs

/-- A number as `width` bytes, most significant first. -/
def ofNatBE (width n : Nat) : Bytes := (ofNatLE width n).reverse

/-- The number that bytes, most significant first, stand for. -/
def toNatBE (bs : Bytes) : Nat := toNatLE bs.reverse

/-- Bytes in the order of their first difference, a shorter string before its extensions. -/
def precedes : Bytes → Bytes → Bool
  | [], _ => true
  | _ :: _, [] => false
  | a :: as, b :: bs => a < b || (a == b && precedes as bs)

@[simp] theorem length_ofNatLE : ∀ (width n : Nat), (ofNatLE width n).length = width
  | 0, _ => rfl
  | width + 1, n => by simp [ofNatLE, length_ofNatLE width]

@[simp] theorem length_ofNatBE (width n : Nat) : (ofNatBE width n).length = width := by
  simp [ofNatBE]

theorem toNatLE_lt : ∀ bs : Bytes, toNatLE bs < 256 ^ bs.length
  | [] => by simp [toNatLE]
  | b :: bs => by
    have h := toNatLE_lt bs
    have hb : b.toNat < 256 := b.toNat_lt
    rw [toNatLE, List.length_cons, Nat.pow_succ]
    omega

theorem toNatLE_ofNatLE : ∀ (width n : Nat), toNatLE (ofNatLE width n) = n % 256 ^ width
  | 0, n => by simp [ofNatLE, toNatLE, Nat.mod_one]
  | width + 1, n => by
    have hb : (UInt8.ofNat n).toNat = n % 256 := UInt8.toNat_ofNat'
    rw [ofNatLE, toNatLE, toNatLE_ofNatLE width, hb,
      show 256 ^ (width + 1) = 256 * 256 ^ width from Nat.pow_succ', Nat.mod_mul]

theorem ofNatLE_toNatLE : ∀ bs : Bytes, ofNatLE bs.length (toNatLE bs) = bs
  | [] => rfl
  | b :: bs => by
    have hb : b.toNat < 256 := b.toNat_lt
    have hd : (b.toNat + 256 * toNatLE bs) / 256 = toNatLE bs := by omega
    rw [List.length_cons, ofNatLE, toNatLE, hd, ofNatLE_toNatLE bs]
    congr 1
    apply UInt8.toNat_inj.1
    rw [UInt8.toNat_ofNat']
    omega

/-- Small numbers are read back from the bytes that hold them. -/
theorem map_toNat_ofNat {ns : List Nat} (h : ∀ n ∈ ns, n < 256) :
    (ns.map UInt8.ofNat).map UInt8.toNat = ns := by
  rw [List.map_map]
  refine (List.map_congr_left fun n hn => ?_).trans (List.map_id ns)
  exact UInt8.toNat_ofNat_of_lt' (h n hn)

end Bytes

/-- A byte string of exactly `n` bytes. -/
structure Octets (n : Nat) where
  bytes : Bytes
  length_bytes : bytes.length = n
deriving DecidableEq

namespace Octets

/-- The byte string as one of fixed length, if it has that length. -/
def ofBytes? (n : Nat) (bs : Bytes) : Option (Octets n) :=
  if h : bs.length = n then some ⟨bs, h⟩ else none

/-- A number below `256 ^ n`, least significant byte first. -/
def ofNatLE (n value : Nat) : Octets n := ⟨Bytes.ofNatLE n value, Bytes.length_ofNatLE n value⟩

/-- All bytes zero. -/
def zero (n : Nat) : Octets n := ⟨List.replicate n 0, List.length_replicate⟩

/-- One string after the other. -/
def append {m n : Nat} (a : Octets m) (b : Octets n) : Octets (m + n) :=
  ⟨a.bytes ++ b.bytes, by simp [a.length_bytes, b.length_bytes]⟩

/-- The lower-case hexadecimal text. -/
def hex {n : Nat} (o : Octets n) : String := o.bytes.hex

theorem ofBytes?_eq_some_iff {n : Nat} {bs : Bytes} {o : Octets n} :
    ofBytes? n bs = some o ↔ bs = o.bytes := by
  constructor
  · intro h
    unfold ofBytes? at h
    split at h
    · cases h; rfl
    · simp at h
  · rintro rfl
    simp [ofBytes?, o.length_bytes]

theorem ofBytes?_eq_none_iff {n : Nat} {bs : Bytes} :
    ofBytes? n bs = none ↔ bs.length ≠ n := by
  unfold ofBytes?
  split <;> simp_all

@[simp] theorem ofBytes?_bytes {n : Nat} (o : Octets n) : ofBytes? n o.bytes = some o :=
  ofBytes?_eq_some_iff.2 rfl

theorem bytes_inj {n : Nat} {a b : Octets n} : a.bytes = b.bytes ↔ a = b := by
  cases a; cases b; simp

end Octets

end VrfClient
