import VrfClient.Account.NetworkConfig
import VrfClient.Proofs.Fields

/-!
The format of the configuration account. Behind its header, data is read number by number and address by
address; each step is exact, so the whole is: `decode` reads a configuration exactly where its `layout`
stands in front. The list of authorities is counted, and the count is believed only as far as there are
addresses to read, which is an induction on the count (`prefix_of_takeAddresses`). -/

namespace VrfClient.NetworkConfig

theorem length_discriminator : discriminator.length = Wire.discriminatorLength :=
  Wire.length_discriminator _ _

/-- Data with a header: discriminator, authority and treasury in front of the rest. -/
def headed (authority treasury : Address) (rest : Bytes) : Bytes :=
  discriminator ++ (authority.bytes ++ (treasury.bytes ++ rest))

/-- The header, the fee in eight bytes, the count in four, and the authorities. -/
def layout (authority treasury : Address) (fee : Nat) (authorities : List Address) : Bytes :=
  headed authority treasury (Bytes.ofNatLE 8 fee ++
    (Bytes.ofNatLE 4 authorities.length ++ authorities.flatMap Octets.bytes))

/-- Fee and count have room in their fields. -/
structure Fits (c : NetworkConfig) : Prop where
  fee_nonneg : 0 ≤ c.requestFee
  fee_lt : c.requestFee < 2 ^ 64
  count_lt : c.authorities.length < 2 ^ 32

theorem headed_append (authority treasury : Address) (body rest : Bytes) :
    headed authority treasury body ++ rest = headed authority treasury (body ++ rest) := by
  simp [headed]

/-! ### Writing -/

/-- A configuration can be laid out exactly if it fits. -/
theorem encode_eq_ok_iff {c : NetworkConfig} {data : Bytes} : c.encode = .ok data ↔
    Fits c ∧ data = layout c.authority c.treasury c.requestFee.toNat c.authorities := by
  have hwritten : ∀ fee count : Bytes, discriminator ++ (c.authority.bytes ++ c.treasury.bytes ++ fee ++
      count ++ c.authorities.flatMap Octets.bytes) =
      headed c.authority c.treasury (fee ++ (count ++ c.authorities.flatMap Octets.bytes)) := by
    simp [headed]
  simp only [encode, bind_eq_ok, Wire.number_eq_ok_iff, pure_eq_ok, Except.ok.injEq, hwritten]
  constructor
  · rintro ⟨_, ⟨⟨hnonneg, hlt⟩, rfl⟩, _, ⟨⟨-, hcount⟩, rfl⟩, rfl⟩
    exact ⟨⟨hnonneg, by omega, by omega⟩, rfl⟩
  · rintro ⟨⟨hnonneg, hlt, hcount⟩, rfl⟩
    exact ⟨_, ⟨⟨hnonneg, by omega⟩, rfl⟩, _, ⟨⟨by omega, by omega⟩, rfl⟩, rfl⟩

/-- A fee out of range is not written. -/
theorem encode_eq_error {c : NetworkConfig} (h : c.requestFee < 0 ∨ 2 ^ 64 ≤ c.requestFee) :
    c.encode = .error .outOfRange := by
  have hnumber : Wire.number 8 c.requestFee = .error .outOfRange := by
    refine if_neg ?_
    rintro ⟨hnonneg, hlt⟩
    omega
  rw [encode, hnumber]
  rfl

/-! ### Reading the header -/

theorem addressAt_append {front rest : Bytes} {start : Nat} (h : front.length = start) (a : Address) :
    addressAt (front ++ (a.bytes ++ rest)) start = a := by
  rw [addressAt, Bytes.slice, List.drop_left' h, List.take_left' a.length_bytes, Octets.ofBytes?_bytes,
    Option.getD_some]

section Headed

variable (authority treasury : Address) (rest : Bytes)

theorem addressAt_authority :
    addressAt (headed authority treasury rest) Wire.discriminatorLength = authority :=
  addressAt_append length_discriminator authority

theorem addressAt_treasury : addressAt (headed authority treasury rest) treasuryOffset = treasury := by
  have hlength : (discriminator ++ authority.bytes).length = treasuryOffset := by
    rw [List.length_append, length_discriminator, authority.length_bytes, treasuryOffset]
  rw [headed, ← List.append_assoc]
  exact addressAt_append hlength treasury

theorem drop_headed : (headed authority treasury rest).drop minLength = rest := by
  have hlength : (discriminator ++ authority.bytes ++ treasury.bytes).length = minLength := by
    simp only [List.length_append, length_discriminator, authority.length_bytes, treasury.length_bytes,
      minLength]
  rw [headed, ← List.append_assoc, ← List.append_assoc, List.drop_left' hlength]

theorem checkHeader_headed : checkHeader (headed authority treasury rest) = .ok () := by
  have hlong : ¬ (headed authority treasury rest).length < minLength := by
    simp only [headed, List.length_append, length_discriminator, authority.length_bytes,
      treasury.length_bytes, minLength]
    omega
  rw [checkHeader, if_neg hlong, headed, List.take_left' length_discriminator,
    if_neg (not_not_intro rfl)]

end Headed

/-- Only data with a header passes the checks. -/
theorem exists_headed_of_checkHeader {data : Bytes} (h : checkHeader data = .ok ()) :
    ∃ authority treasury rest, data = headed authority treasury rest := by
  unfold checkHeader at h
  split at h
  · cases h
  · rename_i hlong
    split at h
    · cases h
    · rename_i hdiscriminator
      have hauthority : ((data.drop Wire.discriminatorLength).take 32).length = 32 := by
        rw [List.length_take, List.length_drop]
        unfold minLength at hlong
        omega
      have htreasury : (((data.drop Wire.discriminatorLength).drop 32).take 32).length = 32 := by
        rw [List.length_take, List.length_drop, List.length_drop]
        unfold minLength at hlong
        omega
      refine ⟨⟨_, hauthority⟩, ⟨_, htreasury⟩,
        ((data.drop Wire.discriminatorLength).drop 32).drop 32, ?_⟩
      simp only [headed, List.take_append_drop, ← Decidable.not_not.1 hdiscriminator]

/-! ### Reading what follows -/

/-- A number that fits its field is read back from it. -/
theorem takeNumber_append (field : String) {width n : Nat} (h : n < 256 ^ width) (rest : Bytes) :
    takeNumber field width (Bytes.ofNatLE width n ++ rest) = .ok (n, rest) := by
  have hlong : ¬ (Bytes.ofNatLE width n ++ rest).length < width := by
    simp
  rw [takeNumber, if_neg hlong, List.take_left' (Bytes.length_ofNatLE width n),
    List.drop_left' (Bytes.length_ofNatLE width n), Bytes.toNatLE_ofNatLE, Nat.mod_eq_of_lt h]

/-- What is read as a number stands in front as its field. -/
theorem append_of_takeNumber {field : String} {width n : Nat} {data rest : Bytes}
    (h : takeNumber field width data = .ok (n, rest)) :
    n < 256 ^ width ∧ data = Bytes.ofNatLE width n ++ rest := by
  unfold takeNumber at h
  split at h
  · cases h
  · rename_i hlong
    have hlength : (data.take width).length = width := by
      rw [List.length_take]
      omega
    have hback := Bytes.ofNatLE_toNatLE (data.take width)
    have hlt := Bytes.toNatLE_lt (data.take width)
    rw [hlength] at hback hlt
    cases h
    exact ⟨hlt, by rw [hback, List.take_append_drop]⟩

/-- As many addresses as there are are read back. -/
theorem takeAddresses_append (rest : Bytes) : ∀ as : List Address,
    takeAddresses as.length (as.flatMap Octets.bytes ++ rest) = .ok as
  | [] => rfl
  | a :: as => by
    rw [List.flatMap_cons, List.append_assoc, List.length_cons, takeAddresses,
      List.take_left' a.length_bytes, List.drop_left' a.length_bytes, Octets.ofBytes?_bytes,
      takeAddresses_append rest as]
    rfl

/-- However large the count is, addresses are read only where they stand. -/
theorem prefix_of_takeAddresses : ∀ {count : Nat} {data : Bytes} {as : List Address},
    takeAddresses count data = .ok as → as.length = count ∧ as.flatMap Octets.bytes <+: data
  | 0, data, as, h => by
    cases h
    exact ⟨rfl, List.nil_prefix⟩
  | count + 1, data, as, h => by
    unfold takeAddresses at h
    split at h
    · cases h
    · rename_i a ha
      obtain ⟨as', has', h⟩ := bind_eq_ok.1 h
      cases h
      obtain ⟨hlength, hprefix⟩ := prefix_of_takeAddresses has'
      refine ⟨by rw [List.length_cons, hlength], ?_⟩
      rw [List.flatMap_cons, ← List.take_append_drop 32 data, Octets.ofBytes?_eq_some_iff.1 ha]
      exact (List.prefix_append_right_inj _).2 hprefix

/-! ### Both -/

/-- The layout of a configuration reads back, whatever follows it. -/
theorem decode_layout_append {fee : Nat} {authorities : List Address} (hfee : fee < 256 ^ 8)
    (hcount : authorities.length < 256 ^ 4) (authority treasury : Address) (rest : Bytes) :
    decode (layout authority treasury fee authorities ++ rest) =
      .ok ⟨authority, treasury, fee, authorities⟩ := by
  rw [layout, headed_append, List.append_assoc, List.append_assoc, decode, checkHeader_headed, ok_bind,
    drop_headed, takeNumber_append _ hfee, ok_bind]
  dsimp only
  rw [takeNumber_append _ hcount, ok_bind]
  dsimp only
  rw [takeAddresses_append, ok_bind, addressAt_authority, addressAt_treasury, pure_eq_ok]

/-- Data that is read starts with the layout of what is read. -/
theorem exists_layout_of_decode {data : Bytes} {c : NetworkConfig} (h : decode data = .ok c) :
    ∃ fee : Nat, c.requestFee = fee ∧ fee < 256 ^ 8 ∧ c.authorities.length < 256 ^ 4 ∧
      layout c.authority c.treasury fee c.authorities <+: data := by
  obtain ⟨⟨⟩, hheader, h⟩ := bind_eq_ok.1 h
  obtain ⟨⟨fee, body⟩, hfee, h⟩ := bind_eq_ok.1 h
  obtain ⟨⟨count, items⟩, hcount, h⟩ := bind_eq_ok.1 h
  obtain ⟨authorities, hauthorities, h⟩ := bind_eq_ok.1 h
  cases h
  obtain ⟨authority, treasury, rest, rfl⟩ := exists_headed_of_checkHeader hheader
  rw [drop_headed] at hfee
  obtain ⟨hfee_lt, rfl⟩ := append_of_takeNumber hfee
  obtain ⟨hcount_lt, rfl⟩ := append_of_takeNumber hcount
  obtain ⟨rfl, tail, rfl⟩ := prefix_of_takeAddresses hauthorities
  refine ⟨fee, rfl, hfee_lt, hcount_lt, tail, ?_⟩
  rw [addressAt_authority, addressAt_treasury, layout, headed_append, List.append_assoc,
    List.append_assoc]

/-- Data is read as a configuration exactly where it starts with what the configuration is written
as. -/
theorem decode_eq_ok_iff {data : Bytes} {c : NetworkConfig} :
    decode data = .ok c ↔ ∃ bs, c.encode = .ok bs ∧ bs <+: data := by
  constructor
  · intro h
    obtain ⟨fee, hfee, hlt, hcount, hprefix⟩ := exists_layout_of_decode h
    refine ⟨_, encode_eq_ok_iff.2 ⟨⟨?_, ?_, hcount⟩, rfl⟩, ?_⟩
    · omega
    · omega
    · rwa [hfee, Int.toNat_natCast]
  · rintro ⟨bs, hbs, rest, rfl⟩
    obtain ⟨⟨hnonneg, hlt, hcount⟩, rfl⟩ := encode_eq_ok_iff.1 hbs
    have hfee : c.requestFee.toNat < 256 ^ 8 := by omega
    rw [decode_layout_append hfee hcount, Int.toNat_of_nonneg hnonneg]

/-- The configuration account has an exact format: a configuration is read exactly where the data starts
with what it is written as; data that starts with no configuration is refused, whatever count it claims;
a configuration that fits is written as its layout; and one whose fee is out of range is not written. -/
theorem config_format_exact :
    (∀ (data : Bytes) (c : NetworkConfig),
      decode data = .ok c ↔ ∃ bs, c.encode = .ok bs ∧ bs <+: data) ∧
    (∀ data : Bytes, (∀ (c : NetworkConfig) (bs : Bytes), c.encode = .ok bs → ¬ bs <+: data) →
      ∃ fault, decode data = .error fault) ∧
    (∀ c : NetworkConfig, Fits c →
      c.encode = .ok (layout c.authority c.treasury c.requestFee.toNat c.authorities)) ∧
    ∀ c : NetworkConfig, c.requestFee < 0 ∨ 2 ^ 64 ≤ c.requestFee →
      c.encode = .error .outOfRange := by
  refine ⟨fun data c => decode_eq_ok_iff, ?_, fun c hfits => encode_eq_ok_iff.2 ⟨hfits, rfl⟩,
    fun c => encode_eq_error⟩
  intro data hnone
  refine exists_eq_error fun c hc => ?_
  obtain ⟨bs, hbs, hprefix⟩ := decode_eq_ok_iff.1 hc
  exact hnone c bs hbs hprefix

/-- A configuration with one authority is written and read, nothing is refused, and a fee that is one too
large is not written. -/
theorem config_format_exact_sample :
    ∃ bs, encode ⟨Octets.zero 32, Octets.zero 32, 5, [Octets.zero 32]⟩ = .ok bs ∧
      decode bs = .ok ⟨Octets.zero 32, Octets.zero 32, 5, [Octets.zero 32]⟩ ∧
      (∃ fault, decode [] = .error fault) ∧
      encode ⟨Octets.zero 32, Octets.zero 32, 2 ^ 64, []⟩ = .error .outOfRange := by
  obtain ⟨hread, hrefused, hwritten, hlarge⟩ := config_format_exact
  have hfits : Fits ⟨Octets.zero 32, Octets.zero 32, 5, [Octets.zero 32]⟩ :=
    ⟨by decide, by decide, by decide⟩
  refine ⟨_, hwritten _ hfits, (hread _ _).2 ⟨_, hwritten _ hfits, List.prefix_rfl⟩, ?_,
    hlarge _ (.inr (by decide))⟩
  refine hrefused [] fun c bs hbs hprefix => ?_
  cases (hread [] c).2 ⟨bs, hbs, hprefix⟩

end VrfClient.NetworkConfig
