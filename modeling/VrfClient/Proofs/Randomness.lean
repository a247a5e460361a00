import VrfClient.Account.Randomness
import VrfClient.Proofs.Fields

/-!
The format of randomness accounts. `encode` writes the `layout` of a record, and `decode` reads a record
exactly where its layout stands in front: whatever follows is ignored, everything else is refused. The
optional field moves the status by the length of a signature, so each direction goes by cases on the tag,
once: `decodeTail_tagged` and `exists_tagged_of_decodeTail`. -/

namespace VrfClient.Randomness

theorem length_discriminator : discriminator.length = Wire.discriminatorLength :=
  Wire.length_discriminator _ _

/-- The optional field as bytes: its tag, and the value if there is one. -/
def tagged : Option Bytes → Bytes
  | none => [0]
  | some bs => 1 :: bs

/-- Discriminator, seed, optional field and status. -/
def layout (seed : Bytes) (randomness : Option Bytes) (code : UInt8) : Bytes :=
  discriminator ++ (seed ++ tagged randomness ++ [code])

/-- Seed and randomness have their lengths. -/
def Fits (seed : Bytes) (randomness : Option Bytes) : Prop :=
  seed.length = seedLength ∧ ∀ bs ∈ randomness, bs.length = signatureLength

/-! ### Writing -/

theorem optional_eq_ok_iff {randomness : Option Bytes} {data : Bytes} :
    optional randomness = .ok data ↔
      (∀ bs ∈ randomness, bs.length = signatureLength) ∧ data = tagged randomness := by
  cases randomness with
  | none => simp [optional, tagged, eq_comm]
  | some value =>
    simp only [optional, bind_eq_ok, Wire.fixed_eq_ok_iff, pure_eq_ok, Except.ok.injEq, tagged,
      Option.mem_some_iff, forall_eq']
    constructor
    · rintro ⟨_, ⟨hlength, rfl⟩, rfl⟩
      exact ⟨hlength, rfl⟩
    · rintro ⟨hlength, rfl⟩
      exact ⟨_, ⟨hlength, rfl⟩, rfl⟩

/-- Fields can be laid out exactly if they fit, the status into a byte. -/
theorem encodeFields_eq_ok_iff {seed : Bytes} {randomness : Option Bytes} {status : Int} {data : Bytes} :
    encodeFields seed randomness status = .ok data ↔
      Fits seed randomness ∧ (0 ≤ status ∧ status < 256) ∧
        data = layout seed randomness (UInt8.ofNat status.toNat) := by
  simp only [encodeFields, bind_eq_ok, Wire.fixed_eq_ok_iff, optional_eq_ok_iff, Wire.number_eq_ok_iff,
    pure_eq_ok, Except.ok.injEq]
  constructor
  · rintro ⟨_, ⟨hseed, rfl⟩, _, ⟨hrandomness, rfl⟩, _, ⟨hstatus, rfl⟩, rfl⟩
    exact ⟨⟨hseed, hrandomness⟩, by simpa using hstatus, rfl⟩
  · rintro ⟨⟨hseed, hrandomness⟩, hstatus, rfl⟩
    exact ⟨_, ⟨hseed, rfl⟩, _, ⟨hrandomness, rfl⟩, _, ⟨by simpa using hstatus, rfl⟩, rfl⟩

/-- A record can be laid out exactly if its seed and its randomness fit. -/
theorem encode_eq_ok_iff {r : Randomness} {data : Bytes} : r.encode = .ok data ↔
    Fits r.seed r.randomness ∧ data = layout r.seed r.randomness (UInt8.ofNat r.status.code) := by
  have hcode : (0 : Int) ≤ r.status.code ∧ (r.status.code : Int) < 256 := by
    cases r.status <;> decide
  rw [encode, encodeFields_eq_ok_iff]
  simp [hcode]

/-! ### Reading -/

theorem withStatus_code (seed : Bytes) (randomness : Option Bytes) (status : Status) :
    withStatus seed randomness (UInt8.ofNat status.code) = .ok ⟨seed, randomness, status⟩ := by
  cases status <;> rfl

theorem ofCode?_eq_some_iff {n : Nat} {status : Status} :
    Status.ofCode? n = some status ↔ n = status.code := by
  constructor
  · intro h
    unfold Status.ofCode? at h
    split at h <;> cases h <;> rfl
  · rintro rfl
    cases status <;> rfl

/-- Only the byte of a status gives a record. -/
theorem eq_code_of_withStatus {seed : Bytes} {randomness : Option Bytes} {code : UInt8}
    {r : Randomness} (h : withStatus seed randomness code = .ok r) :
    r.seed = seed ∧ r.randomness = randomness ∧ code = UInt8.ofNat r.status.code := by
  unfold withStatus at h
  split at h
  · rename_i status hstatus
    cases h
    refine ⟨rfl, rfl, ?_⟩
    rw [← ofCode?_eq_some_iff.1 hstatus, UInt8.ofNat_toNat]
  · cases h

theorem withStatus_eq_error {code : Nat} (hunknown : 2 ≤ code) (hbyte : code < 256) (seed : Bytes)
    (randomness : Option Bytes) :
    withStatus seed randomness (UInt8.ofNat code) = .error (.unknownStatus code) := by
  have hnat : (UInt8.ofNat code).toNat = code := by
    rw [UInt8.toNat_ofNat', Nat.mod_eq_of_lt hbyte]
  have hnone : Status.ofCode? code = none := by
    match code, hunknown with
    | n + 2, _ => rfl
  rw [withStatus, hnat, hnone]

/-- Behind an optional field that fits stands the status. -/
theorem decodeTail_tagged (seed : Bytes) {randomness : Option Bytes}
    (hr : ∀ bs ∈ randomness, bs.length = signatureLength) (code : UInt8) (rest : Bytes) :
    decodeTail seed (tagged randomness ++ code :: rest) = withStatus seed randomness code := by
  cases randomness with
  | none => rfl
  | some bs =>
    have hb : bs.length = signatureLength := hr bs rfl
    simp [tagged, decodeTail, List.take_left' hb, List.drop_left' hb]

/-- What gives a record is an optional field that fits and a status, whatever follows. -/
theorem exists_tagged_of_decodeTail {seed body : Bytes} {r : Randomness}
    (h : decodeTail seed body = .ok r) : r.seed = seed ∧
      (∀ bs ∈ r.randomness, bs.length = signatureLength) ∧
      ∃ rest, body = tagged r.randomness ++ UInt8.ofNat r.status.code :: rest := by
  match body with
  | [] => cases h
  | tag :: body =>
    simp only [decodeTail] at h
    split at h
    · rename_i htag
      subst htag
      match body with
      | [] => cases h
      | code :: rest =>
        obtain ⟨hseed, hnone, rfl⟩ := eq_code_of_withStatus h
        exact ⟨hseed, by simp [hnone], rest, by rw [hnone]; rfl⟩
    · split at h
      · rename_i htag
        subst htag
        split at h
        · rename_i code rest hdrop
          obtain ⟨hseed, hsome, rfl⟩ := eq_code_of_withStatus h
          -- Something is left behind the first bytes, so these are as many as were asked for.
          have hlong : signatureLength < body.length := by
            have hlength := congrArg List.length hdrop
            rw [List.length_drop, List.length_cons] at hlength
            omega
          have htake : (body.take signatureLength).length = signatureLength := by
            rw [List.length_take]
            omega
          refine ⟨hseed, by simpa [hsome] using htake, rest, ?_⟩
          rw [hsome, ← hdrop]
          simp [tagged]
        · cases h
      · cases h

/-- Data of a layout is read by its status, whatever follows. -/
theorem decode_layout_append {seed : Bytes} {randomness : Option Bytes} (h : Fits seed randomness)
    (code : UInt8) (rest : Bytes) :
    decode (layout seed randomness code ++ rest) = withStatus seed randomness code := by
  obtain ⟨hs, hr⟩ := h
  have hlong : ¬ (layout seed randomness code ++ rest).length < minLength := by
    have ht : 1 ≤ (tagged randomness).length := by
      cases randomness <;> simp [tagged]
    simp only [layout, List.length_append, length_discriminator, hs, List.length_singleton, minLength]
    omega
  rw [decode, if_neg hlong]
  simp only [layout, List.append_assoc, List.take_left' length_discriminator,
    List.drop_left' length_discriminator, ne_eq, not_true_eq_false, if_false, List.take_left' hs,
    List.drop_left' hs, List.singleton_append]
  exact decodeTail_tagged seed hr code rest

/-- Data that is read starts with the layout of what is read. -/
theorem exists_layout_of_decode {data : Bytes} {r : Randomness} (h : decode data = .ok r) :
    Fits r.seed r.randomness ∧
      layout r.seed r.randomness (UInt8.ofNat r.status.code) <+: data := by
  unfold decode at h
  split at h
  · cases h
  · rename_i hlong
    split at h
    · cases h
    · rename_i hdiscriminator
      obtain ⟨hseed, hrandomness, rest, hbody⟩ := exists_tagged_of_decodeTail h
      have hlength : r.seed.length = seedLength := by
        rw [hseed, List.length_take, List.length_drop]
        unfold minLength at hlong
        omega
      refine ⟨⟨hlength, hrandomness⟩, rest, ?_⟩
      calc layout r.seed r.randomness (UInt8.ofNat r.status.code) ++ rest
        _ = discriminator ++ (r.seed ++
              (tagged r.randomness ++ UInt8.ofNat r.status.code :: rest)) := by
          simp [layout]
        _ = discriminator ++ data.drop Wire.discriminatorLength := by
          rw [← hbody, hseed, List.take_append_drop]
        _ = data := by
          rw [← Decidable.not_not.1 hdiscriminator, List.take_append_drop]

/-! ### Both -/

/-- A record reads back from its account data, whatever follows it. -/
theorem decode_encode_append {r : Randomness} {data : Bytes} (h : r.encode = .ok data)
    (rest : Bytes) : decode (data ++ rest) = .ok r := by
  obtain ⟨hfits, rfl⟩ := encode_eq_ok_iff.1 h
  rw [decode_layout_append hfits, withStatus_code]

/-- Data is read as a record exactly where it starts with what the record is written as. -/
theorem decode_eq_ok_iff {data : Bytes} {r : Randomness} :
    decode data = .ok r ↔ ∃ bs, r.encode = .ok bs ∧ bs <+: data := by
  constructor
  · intro h
    obtain ⟨hfits, hprefix⟩ := exists_layout_of_decode h
    exact ⟨_, encode_eq_ok_iff.2 ⟨hfits, rfl⟩, hprefix⟩
  · rintro ⟨bs, hbs, rest, rfl⟩
    exact decode_encode_append hbs rest

/-- Of what a record is written as, no part but the whole is read. -/
theorem whole_of_decode {r r' : Randomness} {bs short : Bytes} (h : r.encode = .ok bs)
    (hshort : short <+: bs) (hread : decode short = .ok r') : short = bs := by
  obtain ⟨bs', hbs', hprefix⟩ := decode_eq_ok_iff.1 hread
  have hr' : decode bs = .ok r' := decode_eq_ok_iff.2 ⟨bs', hbs', hprefix.trans hshort⟩
  have hr : decode bs = .ok r := decode_eq_ok_iff.2 ⟨bs, h, List.prefix_rfl⟩
  obtain rfl : r = r' := Except.ok.inj (hr.symm.trans hr')
  obtain rfl : bs = bs' := Except.ok.inj (h.symm.trans hbs')
  exact hshort.eq_of_length_le hprefix.length_le

/-- Randomness accounts have an exact format: a record is read exactly where the data starts with what
the record is written as, data that starts with no record is refused, the layout of a record that fits
reads back whatever follows it and from none of its strict prefixes, and an account with any other status
byte is refused. -/
theorem record_format_exact :
    (∀ (data : Bytes) (r : Randomness),
      decode data = .ok r ↔ ∃ bs, r.encode = .ok bs ∧ bs <+: data) ∧
    (∀ data : Bytes, (∀ (r : Randomness) (bs : Bytes), r.encode = .ok bs → ¬ bs <+: data) →
      ∃ fault, decode data = .error fault) ∧
    (∀ r : Randomness, Fits r.seed r.randomness → ∃ bs, r.encode = .ok bs ∧
      bs = layout r.seed r.randomness (UInt8.ofNat r.status.code) ∧
      (∀ rest, decode (bs ++ rest) = .ok r) ∧
      ∀ short, short <+: bs → short ≠ bs → ∃ fault, decode short = .error fault) ∧
    (∀ (seed : Bytes) (randomness : Option Bytes) (code : Nat), Fits seed randomness →
      2 ≤ code → code < 256 → ∃ bs, encodeFields seed randomness code = .ok bs ∧
        ∀ rest, decode (bs ++ rest) = .error (.unknownStatus code)) := by
  refine ⟨fun data r => decode_eq_ok_iff, ?_, ?_, ?_⟩
  · intro data hnone
    refine exists_eq_error fun r hr => ?_
    obtain ⟨bs, hbs, hprefix⟩ := decode_eq_ok_iff.1 hr
    exact hnone r bs hbs hprefix
  · intro r hfits
    have hwritten := encode_eq_ok_iff.2 ⟨hfits, rfl⟩
    refine ⟨_, hwritten, rfl, decode_encode_append hwritten, ?_⟩
    intro short hshort hne
    exact exists_eq_error fun r' hread => hne (whole_of_decode hwritten hshort hread)
  · intro seed randomness code hfits hunknown hbyte
    refine ⟨_, encodeFields_eq_ok_iff.2 ⟨hfits, ⟨by omega, by omega⟩, rfl⟩, ?_⟩
    intro rest
    rw [decode_layout_append hfits, Int.toNat_natCast, withStatus_eq_error hunknown hbyte]

/-- A pending request: with anything behind it it is read, cut short or with another status it is not. -/
theorem record_format_exact_sample :
    ∃ bs other, encode ⟨List.replicate 32 7, none, .pending⟩ = .ok bs ∧
      decode (bs ++ [1]) = .ok ⟨List.replicate 32 7, none, .pending⟩ ∧
      (∃ fault, decode (bs.take 41) = .error fault) ∧
      encodeFields (List.replicate 32 7) none 2 = .ok other ∧
      decode other = .error (.unknownStatus 2) := by
  obtain ⟨-, -, hback, hother⟩ := record_format_exact
  have hfits : Fits (List.replicate 32 7) none := ⟨rfl, by simp⟩
  obtain ⟨bs, hwritten, rfl, hread, hshort⟩ := hback ⟨_, none, .pending⟩ hfits
  obtain ⟨other, hwritten', hrefused⟩ := hother _ _ 2 hfits (by decide) (by decide)
  refine ⟨_, other, hwritten, hread _, hshort _ (List.take_prefix 41 _) ?_, hwritten', ?_⟩
  · intro h
    have hlength := congrArg List.length h
    simp [layout, tagged, length_discriminator, Wire.discriminatorLength] at hlength
  · simpa using hrefused []

end VrfClient.Randomness
