import VrfClient.Proofs.Extraction

/-!
Companion data cut short. Where a record of the shorter data is counted and points inside it, the longer data
has the same record with the same bytes, so a record that checks a message, or has nothing to do with it, keeps
doing so when bytes are added behind (`ChecksFirst.append`, `ChecksNone.append`). The key found in a
transaction with a cut companion is therefore the key of the whole transaction, and data for one signature,
whose message stands at its end, gives no key at all once a byte is missing. -/

namespace VrfClient

namespace Companion

variable {data rest : Bytes} {own i count : Nat} {key message : Bytes}

/-! ### Bytes added behind -/

theorem Counts.append (h : Counts data count) (rest : Bytes) : Counts (data ++ rest) count := by
  obtain ⟨⟨c, hc, hcount⟩, hpos, hheld⟩ := h
  refine ⟨⟨c, ?_, hcount⟩, hpos, ?_⟩
  · rw [List.getElem?_append_left (List.getElem?_eq_some_iff.1 hc).1, hc]
  · rw [List.length_append]
    exact hheld.trans (Nat.le_add_right _ _)

/-- A record that is counted and held stays as it is. -/
theorem Counts.recordAt_append (h : Counts data count) (hi : i < count) (rest : Bytes) :
    recordAt (data ++ rest) i = recordAt data i := by
  have hfield : ∀ k < 7, (data ++ rest).slice (headerLength + recordLength * i + 2 * k) 2 =
      data.slice (headerLength + recordLength * i + 2 * k) 2 := by
    intro k hk
    refine Bytes.slice_append_of_le ?_ rest
    have hheld := h.held
    simp only [headerLength, recordLength] at hheld ⊢
    omega
  simp only [recordAt, hfield 0 (by decide), hfield 1 (by decide), hfield 2 (by decide),
    hfield 3 (by decide), hfield 4 (by decide), hfield 5 (by decide), hfield 6 (by decide)]

/-- What a record points to inside the data stays as it is. -/
theorem Record.entry_append {r : Record} (h : r.isInside data.length = true) (rest : Bytes) :
    r.entry (data ++ rest) = r.entry data := by
  obtain ⟨hkey, hsignature, hmessage⟩ := isInside_iff.1 h
  simp only [entry, Bytes.slice_append_of_le hkey, Bytes.slice_append_of_le hsignature,
    Bytes.slice_append_of_le hmessage]

theorem Record.isInside_append {r : Record} (h : r.isInside data.length = true) (rest : Bytes) :
    r.isInside (data ++ rest).length = true :=
  isInside_of_le h (by simp)

theorem Unrelated.append (h : Unrelated data own i message) (hcount : Counts data count) (hi : i < count)
    (rest : Bytes) : Unrelated (data ++ rest) own i message := by
  rw [Unrelated, hcount.recordAt_append hi]
  refine h.imp_right ?_
  rintro ⟨hinside, hother⟩
  exact ⟨Record.isInside_append hinside rest, (Record.entry_append hinside rest).symm ▸ hother⟩

theorem verdict_append (hcount : Counts data count) (hi : i < count) (rest : Bytes)
    (h : verdict data own message i = .ok (some key)) :
    verdict (data ++ rest) own message i = .ok (some key) := by
  unfold verdict at h ⊢
  rw [hcount.recordAt_append hi]
  split at h
  · split at h
    · rename_i hlocal hinside
      rw [if_pos hlocal, if_pos (Record.isInside_append hinside rest), Record.entry_append hinside rest]
      exact h
    · cases h
  · cases h

theorem Checks.append (h : Checks data own i key message) (rest : Bytes) :
    Checks (data ++ rest) own i key message := by
  obtain ⟨count, hcount⟩ := h.exists_counts
  obtain ⟨hi, hverdict⟩ := (checks_iff hcount).1 h
  exact (checks_iff (hcount.append rest)).2 ⟨hi, verdict_append hcount hi rest hverdict⟩

theorem ChecksFirst.append (h : ChecksFirst data own key message) (rest : Bytes) :
    ChecksFirst (data ++ rest) own key message := by
  obtain ⟨i, hchecks, hbefore⟩ := h
  obtain ⟨count, hcount⟩ := hchecks.exists_counts
  have hi : i < count := ((checks_iff hcount).1 hchecks).1
  exact ⟨i, hchecks.append rest, fun j hj => (hbefore j hj).append hcount (hj.trans hi) rest⟩

theorem ChecksNone.append (h : ChecksNone data own message) (rest : Bytes) :
    ChecksNone (data ++ rest) own message := by
  obtain ⟨count, hcount, hnone⟩ := h
  exact ⟨count, hcount.append rest, fun i hi => (hnone i hi).append hcount hi rest⟩

/-! ### Data for one signature, cut -/

theorem Counts.eq_of_first (h : Counts data count) {c : UInt8} (hc : data[0]? = some c) :
    count = c.toNat := by
  obtain ⟨⟨d, hd, rfl⟩, -, -⟩ := h
  obtain rfl := Option.some.inj (hc.symm.trans hd)
  rfl

theorem messageRange_single (key : Octets 32) (signature : Signature) {message : Bytes} (index : Nat)
    (hm : message.length < 65536) :
    (recordAt (single key signature message index) 0).messageOffset = 112 ∧
      (recordAt (single key signature message index) 0).messageSize = message.length := by
  simp only [recordAt, single_eq, singleHead, Bytes.ofNatLE, Bytes.slice, headerLength, recordLength,
    List.flatMap_cons, List.flatMap_nil, List.cons_append, List.nil_append, List.append_assoc,
    Nat.mul_zero, Nat.reduceAdd, Nat.reduceMul, List.drop_succ_cons, List.drop_zero,
    List.take_succ_cons, List.take_zero, Bytes.toNatLE_pair hm]
  exact ⟨rfl, trivial⟩

/-- The message stands at the end of the data, so no strict beginning of the data checks anything. -/
theorem not_checks_take_single (k : Octets 32) (signature : Signature) {sent : Bytes} {index n : Nat}
    (hm : sent.length < 65536) (hn : n < (single k signature sent index).length) :
    ¬ Checks ((single k signature sent index).take n) own i key message := by
  intro h
  obtain ⟨count, hcount⟩ := h.exists_counts
  have hlen : ((single k signature sent index).take n).length = n := List.length_take_of_le hn.le
  obtain rfl : count = 1 := by
    have hpos : 0 < n := by
      have hheld := hcount.held
      rw [hlen, headerLength] at hheld
      omega
    refine hcount.eq_of_first (c := 1) ?_
    rw [List.getElem?_take_of_lt hpos]
    rfl
  obtain rfl : i = 0 := by
    have hi := ((checks_iff hcount).1 h).1
    omega
  have hrecord := hcount.recordAt_append (i := 0) (by omega) ((single k signature sent index).drop n)
  rw [List.take_append_drop] at hrecord
  obtain ⟨hoffset, hsize⟩ := messageRange_single k signature index hm
  have hinside := h.message_inside
  rw [← hrecord, hoffset, hsize, hlen] at hinside
  rw [length_single] at hn
  omega

end Companion

namespace Fulfillment

open Companion

variable {tx tx' : Json} {ixs ixs' : List Json} {seed : Seed} {p n : Nat} {data key message : Bytes}

/-! ### A transaction with a companion cut short -/

theorem Carries.unique {ix : Json} {a b : Bytes} (ha : Carries a ix) (hb : Carries b ix) : a = b := by
  rw [← instructionData_eq_some_iff] at ha hb
  exact Option.some.inj (Except.ok.inj (ha.symm.trans hb))

/-- The second list is the first, but for the companion at this position: it holds only the first `n` bytes of
its data. -/
structure CutAt (ixs ixs' : List Json) (p n : Nat) (data : Bytes) : Prop where
  companion : ∃ ix, ixs[p]? = some ix ∧ Calls Companion.program ix ∧ Carries data ix
  cut : ∃ ix, ixs' = ixs.set p ix ∧ Calls Companion.program ix ∧
    ix.member "data" = .ok (.str (Base58.encode (data.take n)))

/-- The companion at the position of the cut holds a beginning of the data. -/
theorem CutAt.carries_take (h : CutAt ixs ixs' p n data) {ix : Json} (hix : ixs'[p]? = some ix) :
    Calls Companion.program ix ∧ Carries (data.take n) ix := by
  obtain ⟨_, hp, -, -⟩ := h.companion
  obtain ⟨ix', rfl, hcalls, hdata⟩ := h.cut
  rw [List.getElem?_set_self (List.getElem?_eq_some_iff.1 hp).1] at hix
  obtain rfl := Option.some.inj hix
  exact ⟨hcalls, carries_encode hdata⟩

/-- Everywhere else the lists are the same. -/
theorem CutAt.elsewhere (h : CutAt ixs ixs' p n data) {q : Nat} (hq : q ≠ p) : ixs'[q]? = ixs[q]? := by
  obtain ⟨ix', rfl, -⟩ := h.cut
  exact List.getElem?_set_ne hq.symm

theorem CutAt.isObject (h : CutAt ixs ixs' p n data) (hobj : ∀ ix ∈ ixs, ix.IsObject) :
    ∀ ix ∈ ixs', ix.IsObject := by
  intro ix hix
  obtain ⟨ix', rfl, hcalls, -⟩ := h.cut
  rcases List.mem_or_eq_of_mem_set hix with hmem | rfl
  · exact hobj ix hmem
  · exact Json.isObject_of_member hcalls

/-- What no companion of the cut list checks at a position, none of the whole list checks there. -/
theorem CutAt.checksNone (h : CutAt ixs ixs' p n data) {q : Nat} {iy : Json} (hiy : ixs[q]? = some iy)
    (hnone : ∀ iz, ixs'[q]? = some iz → Calls Companion.program iz →
      ∃ d, Carries d iz ∧ ChecksNone d q message) (hcalls : Calls Companion.program iy) :
    ∃ d, Carries d iy ∧ ChecksNone d q message := by
  by_cases hq : q = p
  · subst hq
    obtain ⟨ix, hix, -, hdata⟩ := h.companion
    obtain rfl := Option.some.inj (hix.symm.trans hiy)
    obtain ⟨ix', hset, -, -⟩ := h.cut
    have hix' : ixs'[q]? = some ix' := by
      rw [hset, List.getElem?_set_self (List.getElem?_eq_some_iff.1 hix).1]
    obtain ⟨hcalls', hdata'⟩ := h.carries_take hix'
    obtain ⟨d, hd, hchecks⟩ := hnone ix' hix' hcalls'
    obtain rfl := hd.unique hdata'
    refine ⟨data, hdata, ?_⟩
    simpa using hchecks.append (data.drop n)
  · exact hnone iy ((h.elsewhere hq).trans hiy) hcalls

/-- The first entry of the cut list is the first entry of the whole list. -/
theorem FirstEntry.of_cut (h : FirstEntry ixs' key message) (hcut : CutAt ixs ixs' p n data) :
    FirstEntry ixs key message := by
  obtain ⟨position, ix, hix, ⟨hcalls, d, hd, hfirst⟩, hearlier⟩ := h
  have hbefore : ∀ q < position, ∀ iy, ixs[q]? = some iy → Calls Companion.program iy →
      ∃ d, Carries d iy ∧ ChecksNone d q message :=
    fun q hq iy hiy => hcut.checksNone hiy (hearlier q hq)
  by_cases hp : position = p
  · subst hp
    obtain ⟨whole, hwhole, hwhole_calls, hwhole_data⟩ := hcut.companion
    obtain rfl := hd.unique (hcut.carries_take hix).2
    refine ⟨position, whole, hwhole, ⟨hwhole_calls, data, hwhole_data, ?_⟩, hbefore⟩
    simpa using hfirst.append (data.drop n)
  · exact ⟨position, ix, (hcut.elsewhere hp).symm.trans hix, ⟨hcalls, d, hd, hfirst⟩, hbefore⟩

/-- Where the only companion holds a strict beginning of the data for one signature, there is no key. -/
theorem extractKey_ne_ok_of_cut {k : Octets 32} {signature : Signature} {index : Nat}
    (hixs' : instructions tx' = .ok ixs') (hobj : ∀ ix ∈ ixs, ix.IsObject)
    (hcut : CutAt ixs ixs' p n data) (hdata : data = single k signature seed.bytes index) (hn : n < data.length)
    (honly : ∀ q iy, ixs[q]? = some iy → Calls Companion.program iy → q = p) :
    extractKey tx' seed ≠ .ok key := by
  intro hkey
  rw [extractKey_eq_ok_iff_first hixs' (hcut.isObject hobj)] at hkey
  obtain ⟨position, ix, hix, ⟨hcalls, d, hd, i, hchecks, -⟩, -⟩ := hkey
  obtain rfl : position = p := by
    by_contra hp
    exact hp (honly position ix ((hcut.elsewhere hp).symm.trans hix) hcalls)
  obtain rfl := hd.unique (hcut.carries_take hix).2
  subst hdata
  have hseed : seed.bytes.length < 65536 := by
    rw [seed.length_bytes]
    decide
  exact not_checks_take_single k signature hseed hn hchecks

end Fulfillment

namespace Client

open Plan Fulfillment

variable {τ σ : Type}

/-- Cutting the data of a companion short never leads to another key: a key that is found in the cut
transaction is that of the whole one, and otherwise there is no evidence. If the only companion is cut, and its
data was made for one signature over the seed, every signature is refused. -/
theorem key_survives_truncation [Clock τ] {tx tx' : Json} {ixs ixs' : List Json} {form : SeedForm}
    {seed : Seed} {p n : Nat} {data : Bytes} (hixs : instructions tx = .ok ixs)
    (hixs' : instructions tx' = .ok ixs') (hobj : ∀ ix ∈ ixs, ix.IsObject)
    (hform : form.resolve = .ok seed) (hcut : CutAt ixs ixs' p n data)
    (m : Model Ledger.service τ σ) (t : τ) (s : σ) :
    (∀ key, ((extractKey tx' form).run m t s).result = .ok key →
      ((extractKey tx form).run m t s).result = .ok key) ∧
    (∀ e, ((extractKey tx' form).run m t s).result = .error e → ∃ fault, e = .evidence fault) ∧
    ∀ key signature index, data = Companion.single key signature seed.bytes index → n < data.length →
      (∀ q iy, ixs[q]? = some iy → Calls Companion.program iy → q = p) →
      ∀ bs, ∃ fault, ((verifyFulfillment tx' form bs).run m t s).result = .error (.evidence fault) := by
  have hresult : ∀ tx, ((extractKey tx form).run m t s).result = Fulfillment.extractKey tx seed :=
    fun tx => (reaches_extractKey hform (reaches_run m (extractKey tx form) t s)).2
  have hobj' := hcut.isObject hobj
  refine ⟨fun key hkey => ?_, fun e he => ?_, fun key signature index hdata hn honly bs => ?_⟩
  · rw [hresult] at hkey ⊢
    rw [extractKey_eq_ok_iff_first hixs' hobj'] at hkey
    exact (extractKey_eq_ok_iff_first hixs hobj).2 (hkey.of_cut hcut)
  · have hends := ends_extractKey hixs' hobj' seed
    rw [← hresult, he] at hends
    exact hends
  · obtain ⟨-, hverified⟩ := reaches_verifyFulfillment hform
      (reaches_run m (verifyFulfillment tx' form bs) t s)
    have hends := ends_check hixs' hobj' seed bs
    rw [hverified]
    cases hcheck : check tx' seed bs with
    | ok value =>
      obtain ⟨-, -, k, hk, -⟩ := check_eq_ok_iff.1 hcheck
      exact absurd hk (extractKey_ne_ok_of_cut hixs' hobj hcut hdata hn honly)
    | error e =>
      rw [hcheck] at hends
      obtain ⟨fault, rfl⟩ := hends
      exact ⟨fault, rfl⟩

end Client

/-! ### An instance -/

namespace Sample

open Fulfillment

/-- A transaction that succeeded, with these instructions. -/
def holding (ixs : List Json) : Json :=
  .obj [("meta", .obj []), ("transaction", .obj [("message", .obj [("instructions", .arr ixs)])])]

/-- The sample's companion data. -/
def companionData : Bytes := Companion.single key signature seed.bytes 0xffff

/-- A companion with this data, and the fulfilment. -/
def accompanied (data : Bytes) : List Json :=
  [instruction Companion.program data, instruction env.program.text (Payload.fulfillLayout seed signature)]

theorem instructions_holding (data : Bytes) :
    Fulfillment.instructions (holding (accompanied data)) = .ok (accompanied data) := rfl

theorem isObject_of_mem_accompanied (data : Bytes) : ∀ ix ∈ accompanied data, ix.IsObject := by
  intro ix hix
  simp only [accompanied, List.mem_cons, List.not_mem_nil, or_false] at hix
  rcases hix with rfl | rfl <;> exact ⟨_, rfl⟩

theorem cutAt_accompanied (data : Bytes) (n : Nat) :
    CutAt (accompanied data) (accompanied (data.take n)) 0 n data where
  companion := ⟨_, rfl, rfl, carries_encode rfl⟩
  cut := ⟨_, rfl, rfl, rfl⟩

end Sample

namespace Client

open Plan Fulfillment Ledger

/-- With one byte more than is needed the key is that of the data without it; with one byte less than is needed
the sample's own signature is refused. -/
theorem key_survives_truncation_sample :
    CutAt (Sample.accompanied (Sample.companionData ++ [0])) (Sample.accompanied Sample.companionData) 0 144
      (Sample.companionData ++ [0]) ∧
    ((extractKey (Sample.holding (Sample.accompanied (Sample.companionData ++ [0])))
      (.address Sample.seed)).run Simulated.model (0 : Rat) .empty).result = .ok Sample.key.bytes ∧
    ∃ fault, ((verifyFulfillment (Sample.holding (Sample.accompanied (Sample.companionData.take 143)))
      (.address Sample.seed) Sample.signature.bytes).run Simulated.model (0 : Rat) .empty).result =
        .error (.evidence fault) := by
  have hcut := Sample.cutAt_accompanied (Sample.companionData ++ [0]) 144
  rw [List.take_left' (by rfl)] at hcut
  have hkey : ((extractKey (Sample.holding (Sample.accompanied Sample.companionData))
      (.address Sample.seed)).run Simulated.model (0 : Rat) .empty).result = .ok Sample.key.bytes := by
    rw [(reaches_extractKey Sample.resolve_eq (reaches_run _ _ _ _)).2]
    exact Sample.honest.extractKey ⟨_, _, rfl, rfl, rfl⟩ (by decide)
  have hlonger := key_survives_truncation (Sample.instructions_holding (Sample.companionData ++ [0]))
    (Sample.instructions_holding Sample.companionData) (Sample.isObject_of_mem_accompanied _)
    Sample.resolve_eq hcut Simulated.model (0 : Rat) .empty
  have hshorter := key_survives_truncation (Sample.instructions_holding Sample.companionData)
    (Sample.instructions_holding (Sample.companionData.take 143)) (Sample.isObject_of_mem_accompanied _)
    Sample.resolve_eq (Sample.cutAt_accompanied _ _) Simulated.model (0 : Rat) .empty
  refine ⟨hcut, hlonger.1 _ hkey, hshorter.2.2 _ _ _ rfl (by decide +kernel) ?_ _⟩
  intro q iy hiy hcalls
  match q with
  | 0 => rfl
  | 1 => exact Sample.honest.only 1 iy hiy hcalls
  | q + 2 => simp [Sample.accompanied] at hiy

end Client

end VrfClient
