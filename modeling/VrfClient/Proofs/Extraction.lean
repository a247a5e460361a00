import VrfClient.Proofs.FirstEntry

/-!
Which entry the key is taken from. The key of a transaction stands in one record of one companion, and
`EntryAt` says which: the record checks the seed, and neither the records before it nor the companions before
its own are malformed or check the seed. Nothing is said there about what stands behind the record, and so
nothing behind it can change the key (`EntryAt.of_agrees`): other records, and other instructions of whatever
kind, may follow. -/

namespace VrfClient

namespace Companion

variable {data data' : Bytes} {own i j : Nat} {key message : Bytes}

/-- The second data counts as many records as the first and holds at least as many bytes; the records up to
number `i` are the same, and point to the same bytes. -/
structure AgreesUpTo (i : Nat) (data data' : Bytes) : Prop where
  count : data'[0]? = data[0]?
  length : data.length ≤ data'.length
  records : ∀ j ≤ i, recordAt data' j = recordAt data j
  entries : ∀ j ≤ i, (recordAt data j).entry data' = (recordAt data j).entry data

theorem Checks.of_agrees (h : Checks data own i key message) (hagrees : AgreesUpTo i data data') :
    Checks data' own i key message := by
  obtain ⟨count, hcount, hi, hheld⟩ := h.counted
  have hrecord := hagrees.records i (Nat.le_refl i)
  have hentry := hagrees.entries i (Nat.le_refl i)
  exact {
    counted := ⟨count, hagrees.count.trans hcount, hi, hheld.trans hagrees.length⟩
    signature_own := hrecord ▸ h.signature_own
    key_own := hrecord ▸ h.key_own
    message_own := hrecord ▸ h.message_own
    signature_inside := hrecord ▸ h.signature_inside.trans hagrees.length
    key_inside := hrecord ▸ h.key_inside.trans hagrees.length
    message_inside := hrecord ▸ h.message_inside.trans hagrees.length
    key_eq := hrecord ▸ (congrArg Entry.key hentry).trans h.key_eq
    message_eq := hrecord ▸ (congrArg Entry.message hentry).trans h.message_eq }

theorem Record.isInside_of_le {length length' : Nat} {r : Record} (h : r.isInside length = true)
    (hle : length ≤ length') : r.isInside length' = true := by
  rw [isInside_iff] at h ⊢
  exact ⟨h.1.trans hle, h.2.1.trans hle, h.2.2.trans hle⟩

theorem Unrelated.of_agrees (h : Unrelated data own j message) (hagrees : AgreesUpTo i data data')
    (hj : j ≤ i) : Unrelated data' own j message := by
  rw [Unrelated, hagrees.records j hj, hagrees.entries j hj]
  exact h.imp_right (And.imp_left (Record.isInside_of_le · hagrees.length))

end Companion

namespace Fulfillment

open Companion

variable {seed : Seed} {ixs : List Json} {p i : Nat} {data key message : Bytes}

/-! ### The entry -/

/-- Record `i` of the companion at position `p` checks the message under the key, and everything before it is
well formed and has nothing to do with the message. -/
structure EntryAt (ixs : List Json) (p i : Nat) (data key message : Bytes) : Prop where
  companion : ∃ ix, ixs[p]? = some ix ∧ Calls Companion.program ix ∧ Carries data ix
  checks : Checks data p i key message
  before : ∀ j < i, Unrelated data p j message
  earlier : ∀ q < p, ∀ iy, ixs[q]? = some iy → Calls Companion.program iy →
    ∃ data, Carries data iy ∧ ChecksNone data q message

theorem firstEntry_iff : FirstEntry ixs key message ↔ ∃ p i data, EntryAt ixs p i data key message := by
  constructor
  · rintro ⟨p, ix, hix, ⟨hcalls, data, hdata, i, hchecks, hbefore⟩, hearlier⟩
    exact ⟨p, i, data, ⟨ix, hix, hcalls, hdata⟩, hchecks, hbefore, hearlier⟩
  · rintro ⟨p, i, data, ⟨ix, hix, hcalls, hdata⟩, hchecks, hbefore, hearlier⟩
    exact ⟨p, ix, hix, ⟨hcalls, data, hdata, i, hchecks, hbefore⟩, hearlier⟩

/-- An entry gives the key of the transaction. Only the instructions before it need to be objects. -/
theorem EntryAt.extractKey_eq_ok (h : EntryAt ixs p i data key seed.bytes) {tx : Json}
    (hixs : instructions tx = .ok ixs)
    (hobj : ∀ q < p, ∀ iy, ixs[q]? = some iy → iy.IsObject) : extractKey tx seed = .ok key := by
  obtain ⟨ix, hix, hcalls, hdata⟩ := h.companion
  have hfound : (searchInstruction seed (0 + p) ix).result = .ok (some key) := by
    rw [Nat.zero_add]
    exact result_searchInstruction_eq_ok_some_iff.2 ⟨hcalls, data, hdata, i, h.checks, h.before⟩
  have hnone : ∀ q < p, ∀ iy, ixs[q]? = some iy → (searchInstruction seed (0 + q) iy).result = .ok none := by
    intro q hq iy hiy
    rw [Nat.zero_add, result_searchInstruction_eq_ok_none_iff (hobj q hq iy hiy)]
    exact h.earlier q hq iy hiy
  rw [extractKey_eq_ok_iff, search, hixs]
  exact result_searchFrom_eq_ok_some_iff.2 ⟨p, ix, hix, hfound, hnone⟩

/-! ### What follows the entry -/

theorem EntryAt.length_take (h : EntryAt ixs p i data key message) : (ixs.take p).length = p := by
  obtain ⟨ix, hix, -⟩ := h.companion
  exact List.length_take_of_le (List.getElem?_eq_some_iff.1 hix).1.le

/-- The entry stays where it is if other data, which agrees up to the record, takes the place of its own and
anything follows the instruction. -/
theorem EntryAt.of_agrees (h : EntryAt ixs p i data key message) {ix : Json} {data' : Bytes}
    (hcalls : Calls Companion.program ix) (hdata : Carries data' ix) (hagrees : AgreesUpTo i data data')
    (later : List Json) : EntryAt (ixs.take p ++ ix :: later) p i data' key message where
  companion := ⟨ix, by simp [h.length_take], hcalls, hdata⟩
  checks := h.checks.of_agrees hagrees
  before := fun j hj => (h.before j hj).of_agrees hagrees hj.le
  earlier := by
    intro q hq iy hiy
    rw [List.getElem?_append_left (h.length_take.symm ▸ hq), List.getElem?_take_of_lt hq] at hiy
    exact h.earlier q hq iy hiy

end Fulfillment

namespace Client

open Plan Fulfillment

variable {τ σ : Type}

theorem reaches_extractKey {form : SeedForm} {seed : Seed} (hform : form.resolve = .ok seed) {tx : Json}
    {x : List (Exchange Ledger.service)} {r : Except Error Bytes}
    (h : Reaches (τ := τ) (extractKey tx form) x r) : x = [] ∧ r = Fulfillment.extractKey tx seed :=
  reaches_lift.1 (reaches_reportElsewhere_bind ((reaches_resolve_bind hform).1 h))

/-- The key of a transaction is that of its entry for the seed; without one there is no evidence; and what
follows the entry, be it other records or other instructions, has no influence on the key. -/
theorem key_of_entry [Clock τ] {tx : Json} {ixs : List Json} {form : SeedForm} {seed : Seed}
    (hixs : instructions tx = .ok ixs) (hobj : ∀ ix ∈ ixs, ix.IsObject)
    (hform : form.resolve = .ok seed) (m : Model Ledger.service τ σ) (t : τ) (s : σ) :
    (∀ key, ((extractKey tx form).run m t s).result = .ok key ↔
      ∃ p i data, EntryAt ixs p i data key seed.bytes) ∧
    ((∀ key p i data, ¬ EntryAt ixs p i data key seed.bytes) →
      ∃ fault, ((extractKey tx form).run m t s).result = .error (.evidence fault)) ∧
    ∀ key p i data, EntryAt ixs p i data key seed.bytes →
      ∀ ix data', Calls Companion.program ix → Carries data' ix → Companion.AgreesUpTo i data data' →
      ∀ tx' later, instructions tx' = .ok (ixs.take p ++ ix :: later) →
        ((extractKey tx' form).run m t s).result = .ok key := by
  have hresult : ∀ tx, ((extractKey tx form).run m t s).result = Fulfillment.extractKey tx seed :=
    fun tx => (reaches_extractKey hform (reaches_run m (extractKey tx form) t s)).2
  simp only [hresult]
  have hkey : ∀ key, Fulfillment.extractKey tx seed = .ok key ↔
      ∃ p i data, EntryAt ixs p i data key seed.bytes :=
    fun key => (extractKey_eq_ok_iff_first hixs hobj).trans firstEntry_iff
  refine ⟨hkey, fun hnone => ?_, fun key p i data h ix data' hcalls hdata hagrees tx' later htx' => ?_⟩
  · have hends := ends_extractKey hixs hobj seed
    cases hfound : Fulfillment.extractKey tx seed with
    | ok key =>
      obtain ⟨p, i, data, hentry⟩ := (hkey key).1 hfound
      exact absurd hentry (hnone key p i data)
    | error e =>
      rw [hfound] at hends
      obtain ⟨fault, rfl⟩ := hends
      exact ⟨fault, rfl⟩
  · refine (h.of_agrees hcalls hdata hagrees later).extractKey_eq_ok htx' fun q hq iy hiy => ?_
    rw [List.getElem?_append_left (h.length_take.symm ▸ hq)] at hiy
    exact hobj iy (List.mem_of_mem_take (List.mem_of_getElem? hiy))

end Client

/-! ### An instance -/

namespace Sample

open Fulfillment

/-- The sample's companion in front of other instructions gives the key. -/
theorem entryAt (later : List Json) : EntryAt
    (instruction Companion.program (Companion.single key signature seed.bytes 0xffff) :: later) 0 0
    (Companion.single key signature seed.bytes 0xffff) key.bytes seed.bytes where
  companion := ⟨_, rfl, rfl, carries_encode rfl⟩
  checks := Companion.checks_single key signature (by decide) (by decide) (.inl rfl)
  before := fun j hj => absurd hj (Nat.not_lt_zero j)
  earlier := fun q hq => absurd hq (Nat.not_lt_zero q)

end Sample

namespace Client

open Plan Fulfillment Ledger

/-- The sample's companion gives its key, and it still does with a companion for another key behind it. -/
theorem key_of_entry_sample :
    instructions Sample.transaction = .ok Sample.instructions ∧
    ((extractKey Sample.transaction (.address Sample.seed)).run Simulated.model (0 : Rat) .empty).result =
      .ok Sample.key.bytes ∧
    ((extractKey Sample.ambiguousTransaction (.address Sample.seed)).run Simulated.model (0 : Rat)
      .empty).result = .ok Sample.key.bytes := by
  have hixs : instructions Sample.transaction = .ok Sample.instructions := rfl
  have hkey := key_of_entry hixs Sample.honest.objects Sample.resolve_eq Simulated.model (0 : Rat) .empty
  have hagrees : Companion.AgreesUpTo 0
      (Companion.single Sample.key Sample.signature Sample.seed.bytes 0xffff)
      (Companion.single Sample.key Sample.signature Sample.seed.bytes 0xffff) :=
    ⟨rfl, Nat.le_refl _, fun _ _ => rfl, fun _ _ => rfl⟩
  have hentry : EntryAt Sample.instructions 0 0 _ Sample.key.bytes Sample.seed.bytes := Sample.entryAt _
  obtain ⟨ix, hix, hcalls, hdata⟩ := hentry.companion
  obtain rfl := Option.some.inj hix
  refine ⟨hixs, (hkey.1 _).2 ⟨_, _, _, hentry⟩, ?_⟩
  exact hkey.2.2 _ _ _ _ hentry _ _ hcalls hdata hagrees Sample.ambiguousTransaction _
    Sample.instructions_ambiguousTransaction

end Client

end VrfClient
