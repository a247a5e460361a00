import VrfClient.Proofs.Outcomes

/-!
Which key is trusted. The key of a transaction is that of its first entry for the seed
(`extractKey_eq_ok_iff_first`), and what a check makes of a signature hangs on that entry alone: later
entries are not looked at, also where they check the seed under another key. -/

namespace VrfClient

namespace Fulfillment

open Companion

variable {seed : Seed} {key : Bytes}

/-! ### The first entry of a transaction -/

/-- The first companion with a record for the message checks it first under this key, and nothing before it
is malformed. -/
def FirstEntry (ixs : List Json) (key message : Bytes) : Prop :=
  ∃ position ix, ixs[position]? = some ix ∧
    (Calls Companion.program ix ∧ ∃ data, Carries data ix ∧ ChecksFirst data position key message) ∧
    ∀ q < position, ∀ iy, ixs[q]? = some iy → Calls Companion.program iy →
      ∃ data, Carries data iy ∧ ChecksNone data q message

/-- Two entries check the message, under different keys. -/
def Ambiguous (ixs : List Json) (message : Bytes) : Prop :=
  ∃ p q key key', ChecksAt ixs p key message ∧ ChecksAt ixs q key' message ∧ key ≠ key'

section

variable {tx : Json} {ixs : List Json} (hixs : instructions tx = .ok ixs)
  (hobj : ∀ ix ∈ ixs, ix.IsObject)

include hixs hobj

/-- The key of a transaction is that of its first entry. -/
theorem extractKey_eq_ok_iff_first : extractKey tx seed = .ok key ↔ FirstEntry ixs key seed.bytes := by
  have hnone : ∀ (q : Nat) (iy : Json), ixs[q]? = some iy →
      ((searchInstruction seed q iy).result = .ok none ↔
        (Calls Companion.program iy → ∃ data, Carries data iy ∧ ChecksNone data q seed.bytes)) :=
    fun q iy hiy => result_searchInstruction_eq_ok_none_iff (hobj iy (List.mem_of_getElem? hiy))
  rw [extractKey_eq_ok_iff, search, hixs]
  dsimp only
  simp only [result_searchFrom_eq_ok_some_iff, result_searchInstruction_eq_ok_some_iff, Nat.zero_add]
  constructor
  · rintro ⟨position, ix, hix, hfound, hbefore⟩
    exact ⟨position, ix, hix, hfound, fun q hq iy hiy => (hnone q iy hiy).1 (hbefore q hq iy hiy)⟩
  · rintro ⟨position, ix, hix, hfound, hbefore⟩
    exact ⟨position, ix, hix, hfound, fun q hq iy hiy => (hnone q iy hiy).2 (hbefore q hq iy hiy)⟩

/-- A check refuses for want of evidence exactly where the signature is not valid under the key of the
first entry. -/
theorem check_eq_evidence_iff (bs : Bytes) : (∃ fault, check tx seed bs = .error (.evidence fault)) ↔
    ∀ (key : Octets 32) (signature : Signature), FirstEntry ixs key.bytes seed.bytes →
      bs = signature.bytes → Ed25519.verify key seed.bytes signature = false := by
  have hends := ends_check hixs hobj seed bs
  have hok : check tx seed bs = .ok () ↔ _ := check_eq_ok_iff
  simp only [extractKey_eq_ok_iff_first hixs hobj] at hok
  cases hcheck : check tx seed bs with
  | ok value =>
    obtain ⟨signature, rfl, key, hfirst, hvalid⟩ := hok.1 hcheck
    simp only [reduceCtorEq, exists_false, false_iff]
    intro hinvalid
    rw [hinvalid key signature hfirst rfl] at hvalid
    cases hvalid
  | error e =>
    rw [hcheck] at hends hok
    obtain ⟨fault, rfl⟩ := hends
    refine ⟨fun _ key signature hfirst hbs => ?_, fun _ => ⟨fault, rfl⟩⟩
    rw [Bool.eq_false_iff]
    intro hvalid
    cases hok.2 ⟨signature, hbs, key, hfirst, hvalid⟩

end

end Fulfillment

namespace Client

open Plan Fulfillment

/-- A verification asks nothing, and it refuses the signature as evidence exactly where the signature is not
valid under the key of the first entry for the seed, whatever other entries the transaction has. -/
theorem refused_iff_not_valid_under_first {τ σ : Type} [Clock τ] {tx : Json} {ixs : List Json}
    {form : SeedForm} {seed : Seed} (hixs : instructions tx = .ok ixs)
    (hobj : ∀ ix ∈ ixs, ix.IsObject) (hform : form.resolve = .ok seed) (bs : Bytes)
    (m : Model Ledger.service τ σ) (t : τ) (s : σ) :
    (∃ fault, ((verifyFulfillment tx form bs).run m t s).result = .error (.evidence fault)) ↔
      ∀ (key : Octets 32) (signature : Signature), FirstEntry ixs key.bytes seed.bytes →
        bs = signature.bytes → Ed25519.verify key seed.bytes signature = false := by
  obtain ⟨-, hresult⟩ := reaches_verifyFulfillment hform
    (reaches_run m (verifyFulfillment tx form bs) t s)
  rw [hresult]
  exact check_eq_evidence_iff hixs hobj bs

end Client

/-! ### An instance -/

namespace Sample

open Fulfillment

/-- Two companions that check the seed, under different keys, and the fulfilment. -/
def twoKeys : List Json :=
  [instruction Companion.program (Companion.single key signature seed.bytes 0xffff),
    instruction Companion.program (Companion.single (Octets.zero 32) signature seed.bytes 0xffff),
    instruction env.program.text (Payload.fulfillLayout seed signature)]

def ambiguousTransaction : Json :=
  .obj [("meta", .obj []),
    ("transaction", .obj [("message", .obj [("instructions", .arr twoKeys)])])]

theorem instructions_ambiguousTransaction :
    Fulfillment.instructions ambiguousTransaction = .ok twoKeys := rfl

theorem isObject_of_mem_twoKeys : ∀ ix ∈ twoKeys, ix.IsObject := by
  intro ix hix
  simp only [twoKeys, List.mem_cons, List.not_mem_nil, or_false] at hix
  rcases hix with rfl | rfl | rfl <;> exact ⟨_, rfl⟩

theorem result_searchInstruction_companion (k : Octets 32) (position : Nat) :
    (searchInstruction seed position
      (instruction Companion.program (Companion.single k signature seed.bytes 0xffff))).result =
      .ok (some k.bytes) :=
  searchInstruction_of_single rfl (carries_encode rfl) (by decide) (.inl rfl)

theorem checksAt_twoKeys {position : Nat} {k : Octets 32} (h : twoKeys[position]? =
    some (instruction Companion.program (Companion.single k signature seed.bytes 0xffff))) :
    ChecksAt twoKeys position k.bytes seed.bytes := by
  obtain ⟨hcalls, data, hdata, i, hchecks, -⟩ :=
    result_searchInstruction_eq_ok_some_iff.1 (result_searchInstruction_companion k position)
  exact ⟨_, data, i, h, hcalls, hdata, hchecks⟩

theorem ambiguous_twoKeys : Ambiguous twoKeys seed.bytes :=
  ⟨0, 1, key.bytes, (Octets.zero 32).bytes, checksAt_twoKeys rfl, checksAt_twoKeys rfl, by decide⟩

theorem extractKey_ambiguousTransaction : extractKey ambiguousTransaction seed = .ok key.bytes := by
  rw [extractKey_eq_ok_iff, search, instructions_ambiguousTransaction]
  refine result_searchFrom_eq_ok_some_iff.2 ⟨0, _, rfl, result_searchInstruction_companion key 0, ?_⟩
  exact fun q hq => absurd hq (Nat.not_lt_zero q)

end Sample

namespace Client

open Plan Fulfillment Ledger

/-- Not the sample's signature, but one of nothing but zeros is refused on the ambiguous transaction. -/
theorem refused_iff_not_valid_under_first_sample :
    instructions Sample.ambiguousTransaction = .ok Sample.twoKeys ∧
    (∀ ix ∈ Sample.twoKeys, ix.IsObject) ∧
    ∃ fault, ((verifyFulfillment Sample.ambiguousTransaction (.address Sample.seed)
      (Octets.zero 64).bytes).run Simulated.model (0 : Rat) .empty).result =
        .error (.evidence fault) := by
  refine ⟨Sample.instructions_ambiguousTransaction, Sample.isObject_of_mem_twoKeys, ?_⟩
  rw [refused_iff_not_valid_under_first Sample.instructions_ambiguousTransaction
    Sample.isObject_of_mem_twoKeys Sample.resolve_eq]
  intro key signature hfirst hsignature
  have hkey := (extractKey_eq_ok_iff_first Sample.instructions_ambiguousTransaction
    Sample.isObject_of_mem_twoKeys).2 hfirst
  rw [Sample.extractKey_ambiguousTransaction] at hkey
  obtain rfl := Octets.bytes_inj.1 (Except.ok.inj hkey)
  obtain rfl := Octets.bytes_inj.1 hsignature
  decide +kernel

/-- Two entries check the seed of this transaction under different keys, and yet the signature that is valid
under the first of them is accepted. -/
theorem ambiguous_accepted :
    instructions Sample.ambiguousTransaction = .ok Sample.twoKeys ∧
    (∀ ix ∈ Sample.twoKeys, ix.IsObject) ∧ Ambiguous Sample.twoKeys Sample.seed.bytes ∧
    ((verifyFulfillment Sample.ambiguousTransaction (.address Sample.seed)
      Sample.signature.bytes).run Simulated.model (0 : Rat) .empty).result = .ok () := by
  refine ⟨Sample.instructions_ambiguousTransaction, Sample.isObject_of_mem_twoKeys,
    Sample.ambiguous_twoKeys, ?_⟩
  obtain ⟨-, hresult⟩ := reaches_verifyFulfillment Sample.resolve_eq (reaches_run Simulated.model
    (verifyFulfillment Sample.ambiguousTransaction (.address Sample.seed) Sample.signature.bytes)
    (0 : Rat) .empty)
  rw [hresult, check_eq_ok_iff]
  exact ⟨Sample.signature, rfl, Sample.key, Sample.extractKey_ambiguousTransaction,
    Sample.verify_signature⟩

end Client

end VrfClient
