import VrfClient.Proofs.Fields
import VrfClient.Wire.Payload

/-!
Payloads are exact: `decodeRequest` accepts the payload of a seed, `decodeFulfill` the layout of a seed and a
signature, and neither accepts anything else. Unlike accounts they leave no room for bytes behind them, so
their lengths alone keep the two kinds apart. -/

namespace VrfClient.Payload

/-- Discriminator, seed and signature, and no more. -/
def fulfillLayout (seed : Seed) (signature : Signature) : Bytes :=
  fulfillDiscriminator ++ seed.bytes ++ signature.bytes

theorem length_fulfillDiscriminator : fulfillDiscriminator.length = Wire.discriminatorLength :=
  Wire.length_discriminator _ _

theorem length_fulfillLayout (seed : Seed) (signature : Signature) :
    (fulfillLayout seed signature).length = fulfillLength := by
  simp [fulfillLayout, length_fulfillDiscriminator, seed.length_bytes, signature.length_bytes,
    fulfillLength, Randomness.seedLength, Randomness.signatureLength]

/-- The body of an exact payload follows its discriminator. -/
theorem body?_eq_some_iff {length : Nat} {d data body : Bytes} (hd : d.length = Wire.discriminatorLength) :
    body? length d data = some body ↔ data = d ++ body ∧ data.length = length := by
  unfold body?
  constructor
  · intro h
    split at h
    · rename_i hc
      cases h
      exact ⟨by rw [← hc.2, List.take_append_drop], hc.1⟩
    · cases h
  · rintro ⟨rfl, rfl⟩
    rw [← hd]
    simp

theorem length_requestDiscriminator : requestDiscriminator.length = Wire.discriminatorLength :=
  Wire.length_discriminator _ _

theorem length_request (seed : Seed) : (request seed).length = requestLength := by
  simp [request, length_requestDiscriminator, seed.length_bytes, requestLength, Randomness.seedLength]

/-- A payload decodes to a seed exactly if it is the request for it. -/
theorem decodeRequest_eq_ok_iff {data : Bytes} {seed : Seed} :
    decodeRequest data = .ok seed ↔ data = request seed := by
  have hbody : (body? requestLength requestDiscriminator data).bind (Octets.ofBytes? 32) = some seed ↔
      data = request seed := by
    simp only [Option.bind_eq_some_iff, body?_eq_some_iff length_requestDiscriminator,
      Octets.ofBytes?_eq_some_iff]
    constructor
    · rintro ⟨body, ⟨rfl, -⟩, rfl⟩
      rfl
    · rintro rfl
      exact ⟨seed.bytes, ⟨rfl, length_request seed⟩, rfl⟩
  rw [← hbody]
  unfold decodeRequest
  split
  · rename_i found hfound
    rw [hfound]
    simp
  · rename_i hnone
    rw [hnone]
    simp

/-- A payload decodes to a seed and a signature exactly if it is their layout. -/
theorem decodeFulfill_eq_ok_iff {data : Bytes} {seed : Seed} {signature : Signature} :
    decodeFulfill data = .ok (seed, signature) ↔ data = fulfillLayout seed signature := by
  constructor
  · intro h
    unfold decodeFulfill at h
    split at h
    · cases h
    · rename_i body hbody
      obtain ⟨rfl, -⟩ := (body?_eq_some_iff length_fulfillDiscriminator).1 hbody
      split at h
      · rename_i s g hs hg
        cases h
        rw [Octets.ofBytes?_eq_some_iff] at hs hg
        rw [fulfillLayout, List.append_assoc, ← hs, ← hg, List.take_append_drop]
      · cases h
  · rintro rfl
    have hbody : body? fulfillLength fulfillDiscriminator (fulfillLayout seed signature) =
        some (seed.bytes ++ signature.bytes) := by
      exact (body?_eq_some_iff length_fulfillDiscriminator).2
        ⟨by simp [fulfillLayout], length_fulfillLayout seed signature⟩
    simp [decodeFulfill, hbody, List.take_left' seed.length_bytes, List.drop_left' seed.length_bytes]

/-- The payload that the oracle writes is the layout. -/
theorem fulfill_eq_ok (seed : Seed) (signature : Signature) :
    fulfill seed signature.bytes = .ok (fulfillLayout seed signature) := by
  simp [fulfill, Wire.fixed, signature.length_bytes, Randomness.signatureLength, fulfillLayout,
    bind, Except.bind, pure, Except.pure]

/-! ### Other payloads -/

/-- The oracle writes the layout and nothing else. -/
theorem fulfill_eq_ok_iff {data : Bytes} {seed : Seed} {signature : Signature} :
    fulfill seed signature.bytes = .ok data ↔ data = fulfillLayout seed signature := by
  rw [fulfill_eq_ok, Except.ok.injEq]
  exact eq_comm

/-- A request is refused in one way. -/
theorem eq_notRequest_of_decodeRequest {data : Bytes} {fault : DecodeError}
    (h : decodeRequest data = .error fault) : fault = .notRequest := by
  unfold decodeRequest at h
  split at h
  · cases h
  · cases h
    rfl

/-- And so is a fulfilment. -/
theorem eq_notFulfill_of_decodeFulfill {data : Bytes} {fault : DecodeError}
    (h : decodeFulfill data = .error fault) : fault = .notFulfill := by
  unfold decodeFulfill at h
  split at h
  · cases h
    rfl
  · split at h
    · cases h
    · cases h
      rfl

/-- No payload is both a request and a fulfilment: they differ in length. -/
theorem request_ne_fulfillLayout (seed seed' : Seed) (signature : Signature) :
    request seed ≠ fulfillLayout seed' signature := by
  intro h
  have hlength := congrArg List.length h
  rw [length_request, length_fulfillLayout] at hlength
  exact absurd hlength (by decide)

/-- Bytes of another length are no seed. -/
theorem resolve_bytes_of_length_ne {bs : Bytes} (h : bs.length ≠ 32) :
    (SeedForm.bytes bs).resolve = .error (.wrongLength bs.length) := by
  rw [SeedForm.resolve, Octets.ofBytes?_eq_none_iff.2 h]

/-- A signature of another length is not laid out. -/
theorem fulfill_eq_error {seed : Seed} {bs : Bytes} (h : bs.length ≠ 64) :
    fulfill seed bs = .error .wrongLength := by
  rw [fulfill, Wire.fixed, if_neg (show bs.length ≠ Randomness.signatureLength from h)]
  rfl

/-- The payloads are exact inverses of their readings: a request is read exactly from the payload of its
seed, and a fulfilment exactly from what the oracle writes for its seed and signature, which it always
does. Everything else is refused, in one way for each kind, and nothing is read as both. For bytes that are
no seed no payload is written, and none for a signature of another length. -/
theorem payloads_exact :
    (∀ (data : Bytes) (seed : Seed), decodeRequest data = .ok seed ↔ data = request seed) ∧
    (∀ (data : Bytes) (seed : Seed) (signature : Signature),
      decodeFulfill data = .ok (seed, signature) ↔ fulfill seed signature.bytes = .ok data) ∧
    (∀ (seed : Seed) (signature : Signature), ∃ data, fulfill seed signature.bytes = .ok data) ∧
    (∀ data : Bytes, (∀ seed, data ≠ request seed) → decodeRequest data = .error .notRequest) ∧
    (∀ data : Bytes, (∀ (seed : Seed) (signature : Signature), fulfill seed signature.bytes ≠ .ok data) →
      decodeFulfill data = .error .notFulfill) ∧
    (∀ (data : Bytes) (seed : Seed) (read : Seed × Signature),
      decodeRequest data = .ok seed → decodeFulfill data ≠ .ok read) ∧
    (∀ bs : Bytes, bs.length ≠ 32 →
      (SeedForm.bytes bs).resolve.map request = .error (.wrongLength bs.length) ∧
      ∀ signature : Bytes, ((SeedForm.bytes bs).resolve.map fun seed => fulfill seed signature) =
        .error (.wrongLength bs.length)) ∧
    ∀ (seed : Seed) (bs : Bytes), bs.length ≠ 64 → fulfill seed bs = .error .wrongLength := by
  refine ⟨fun data seed => decodeRequest_eq_ok_iff,
    fun data seed signature => decodeFulfill_eq_ok_iff.trans fulfill_eq_ok_iff.symm,
    fun seed signature => ⟨_, fulfill_eq_ok seed signature⟩, ?_, ?_, ?_, ?_,
    fun seed bs => fulfill_eq_error⟩
  · intro data hnone
    obtain ⟨fault, hfault⟩ := exists_eq_error fun seed hread =>
      hnone seed (decodeRequest_eq_ok_iff.1 hread)
    rw [hfault, eq_notRequest_of_decodeRequest hfault]
  · intro data hnone
    obtain ⟨fault, hfault⟩ := exists_eq_error fun (read : Seed × Signature) hread =>
      hnone read.1 read.2 (fulfill_eq_ok_iff.2 (decodeFulfill_eq_ok_iff.1 hread))
    rw [hfault, eq_notFulfill_of_decodeFulfill hfault]
  · rintro data seed ⟨seed', signature⟩ hrequest hfulfill
    rw [decodeRequest_eq_ok_iff] at hrequest
    rw [decodeFulfill_eq_ok_iff, hrequest] at hfulfill
    exact request_ne_fulfillLayout seed seed' signature hfulfill
  · intro bs hlength
    rw [resolve_bytes_of_length_ne hlength]
    exact ⟨rfl, fun signature => rfl⟩

/-- One byte more makes a request of sevens none, and a seed or a signature of one byte less is not
written. -/
theorem payloads_exact_sample :
    decodeRequest (request ⟨List.replicate 32 7, rfl⟩) = .ok ⟨List.replicate 32 7, rfl⟩ ∧
    decodeRequest (request ⟨List.replicate 32 7, rfl⟩ ++ [0]) = .error .notRequest ∧
    decodeFulfill (request ⟨List.replicate 32 7, rfl⟩) = .error .notFulfill ∧
    (∃ data, fulfill ⟨List.replicate 32 7, rfl⟩ (List.replicate 64 9) = .ok data ∧
      decodeFulfill data = .ok (⟨List.replicate 32 7, rfl⟩, ⟨List.replicate 64 9, rfl⟩)) ∧
    (SeedForm.bytes (List.replicate 31 7)).resolve.map request = .error (.wrongLength 31) ∧
    fulfill ⟨List.replicate 32 7, rfl⟩ (List.replicate 63 9) = .error .wrongLength := by
  obtain ⟨hrequest, hfulfill, hwritten, hother, hother', -, hseed, hsignature⟩ := payloads_exact
  have hlong : ∀ seed, request ⟨List.replicate 32 7, rfl⟩ ++ [0] ≠ request seed := by
    intro seed h
    have hlength := congrArg List.length h
    rw [List.length_append, length_request, length_request] at hlength
    exact absurd hlength (by decide)
  have hkind : ∀ (seed : Seed) (signature : Signature),
      fulfill seed signature.bytes ≠ .ok (request ⟨List.replicate 32 7, rfl⟩) := by
    intro seed signature h
    exact request_ne_fulfillLayout _ seed signature (fulfill_eq_ok_iff.1 h)
  obtain ⟨data, hdata⟩ := hwritten ⟨List.replicate 32 7, rfl⟩ ⟨List.replicate 64 9, rfl⟩
  exact ⟨(hrequest _ _).2 rfl, hother _ hlong, hother' _ hkind, ⟨data, hdata, (hfulfill _ _ _).2 hdata⟩,
    (hseed _ (by decide)).1, hsignature _ _ (by decide)⟩

end VrfClient.Payload
