import VrfClient.Proofs.Truncation

/-!
Instructions that take no part. What is made of a transaction hangs on two kinds of its instructions: on the
companions, in their order, and on the calls of the oracle's program, as a set. Where a companion refers to itself
by the index that means so, and not by its position, it does not matter either where it stands: the search goes
by the companions alone (`searchFrom_filter`). So any other instructions may be added, removed, changed or moved
about, and nothing is decided differently. -/

namespace VrfClient

namespace Companion

variable {data : Bytes}

/-! ### Records that are local wherever they stand -/

/-- The three indexes of the record all mean the instruction itself. -/
def Record.MeansItself (r : Record) : Prop :=
  r.signatureIndex = thisInstruction ∧ r.keyIndex = thisInstruction ∧ r.messageIndex = thisInstruction

/-- Such a record is local at every position. -/
theorem Record.MeansItself.isLocal {r : Record} (h : r.MeansItself) (own : Nat) : r.isLocal own = true :=
  isLocal_iff.2 ⟨.inl h.1, .inl h.2.1, .inl h.2.2⟩

theorem readRecords_position (own own' : Nat) : ∀ {is : List Nat},
    (∀ i ∈ is, (recordAt data i).MeansItself) → readRecords data own is = readRecords data own' is
  | [], _ => rfl
  | i :: is, h => by
    obtain ⟨hi, his⟩ := List.forall_mem_cons.1 h
    simp only [readRecords, hi.isLocal, if_true, readRecords_position own own' his]

/-- Data whose records all mean their own instruction is read in the same way at every position. -/
theorem read_position (h : ∀ count, Counts data count → ∀ i < count, (recordAt data i).MeansItself)
    (own own' : Nat) : read data own = read data own' := by
  by_cases hcounts : ∃ count, Counts data count
  · obtain ⟨count, hcount⟩ := hcounts
    rw [hcount.read_eq, hcount.read_eq]
    exact readRecords_position own own' fun i hi => h count hcount i (List.mem_range.1 hi)
  · obtain ⟨fault, hfault⟩ := exists_read_eq_failed (not_exists.1 hcounts)
    rw [hfault, hfault]

end Companion

namespace Fulfillment

open Companion

variable {seed : Seed} {ix : Json} {ixs ixs' : List Json}

/-! ### The search goes by the companions -/

/-- Every record of the instruction's data, if the data holds the records it counts, means the instruction
itself. -/
def SelfContained (ix : Json) : Prop :=
  ∀ data count, Carries data ix → Counts data count → ∀ i < count, (recordAt data i).MeansItself

/-- Whether the instruction is a companion. -/
def isCompanion (ix : Json) : Bool :=
  match calls Companion.program ix with
  | .ok called => called
  | .error _ => false

theorem isCompanion_iff : isCompanion ix = true ↔ Calls Companion.program ix := by
  rw [← calls_eq_true_iff, isCompanion]
  cases calls Companion.program ix with
  | error m => simp
  | ok called => simp

theorem searchInstruction_of_bystander (hobj : ix.IsObject) (h : isCompanion ix = false) (position : Nat) :
    searchInstruction seed position ix = .ended (.ok none) := by
  have hcalls : calls Companion.program ix = .ok (isCompanion ix) := by
    obtain ⟨v, hv⟩ := hobj.exists_member "programId"
    rw [isCompanion, calls, hv]
    rfl
  rw [searchInstruction, hcalls, h]

/-- A companion that means itself gives the same at every position. -/
theorem searchInstruction_position (h : SelfContained ix) (p q : Nat) :
    searchInstruction seed p ix = searchInstruction seed q ix := by
  unfold searchInstruction
  cases calls Companion.program ix with
  | error m => rfl
  | ok called =>
    cases called with
    | false => rfl
    | true =>
      cases hdata : instructionData ix with
      | error m => rfl
      | ok found =>
        cases found with
        | none => rfl
        | some data =>
          have hread := read_position (fun count => h data count (instructionData_eq_some_iff.1 hdata)) p q
          simp only [hread]

/-- The search in a list of instructions is the search in its companions, wherever these stand. -/
theorem searchFrom_filter : ∀ (position position' : Nat) {ixs : List Json}, (∀ ix ∈ ixs, ix.IsObject) →
    (∀ ix ∈ ixs, isCompanion ix = true → SelfContained ix) →
    searchFrom seed position ixs = searchFrom seed position' (ixs.filter isCompanion)
  | _, _, [], _, _ => rfl
  | position, position', ix :: ixs, hobj, hself => by
    obtain ⟨hix, hobjs⟩ := List.forall_mem_cons.1 hobj
    obtain ⟨hself_ix, hselfs⟩ := List.forall_mem_cons.1 hself
    cases hcompanion : isCompanion ix with
    | true =>
      rw [List.filter_cons_of_pos hcompanion, searchFrom, searchFrom,
        searchInstruction_position (hself_ix hcompanion) position position',
        searchFrom_filter (position + 1) (position' + 1) hobjs hselfs]
    | false =>
      have hnot : ¬ isCompanion ix = true := by simp [hcompanion]
      rw [List.filter_cons_of_neg hnot, searchFrom, searchInstruction_of_bystander hix hcompanion]
      exact searchFrom_filter (position + 1) position' hobjs hselfs

/-! ### The same parties -/

/-- Two lists of instructions that differ in bystanders only: they have the same companions in the same order,
and the same calls of the program, in any order. -/
structure SameParties (program : Address) (ixs ixs' : List Json) : Prop where
  companions : ixs.filter isCompanion = ixs'.filter isCompanion
  calls : ∀ ix, Calls program.text ix → (ix ∈ ixs ↔ ix ∈ ixs')

variable {program : Address} {tx tx' : Json}

theorem SameParties.symm (h : SameParties program ixs ixs') : SameParties program ixs' ixs :=
  ⟨h.companions.symm, fun ix hix => (h.calls ix hix).symm⟩

theorem SameParties.mem_companion (h : SameParties program ixs ixs') (hix : ix ∈ ixs)
    (hcalls : Calls Companion.program ix) : ix ∈ ixs' := by
  have hmem : ix ∈ ixs.filter isCompanion := List.mem_filter.2 ⟨hix, isCompanion_iff.2 hcalls⟩
  rw [h.companions] at hmem
  exact (List.mem_filter.1 hmem).1

theorem SameParties.selfContained (h : SameParties program ixs ixs')
    (hself : ∀ ix ∈ ixs, Calls Companion.program ix → SelfContained ix) :
    ∀ ix ∈ ixs', Calls Companion.program ix → SelfContained ix :=
  fun ix hix hcalls => hself ix (h.symm.mem_companion hix hcalls) hcalls

section Parties

variable (hixs : instructions tx = .ok ixs) (hixs' : instructions tx' = .ok ixs')
  (hobj' : ∀ ix ∈ ixs', ix.IsObject) (hsame : SameParties program ixs ixs')

include hixs hixs' hobj' hsame

theorem Fulfills.of_sameParties (h : Fulfills program seed tx) : Fulfills program seed tx' := by
  obtain ⟨ixs₀, htop, ⟨ix, hix, hcalls, hdata⟩, iy, hiy, hcompanion⟩ := h
  obtain rfl : ixs = ixs₀ := Except.ok.inj (hixs.symm.trans (instructions_of_topLevel htop))
  have hix' : ix ∈ ixs' := (hsame.calls ix hcalls).1 hix
  exact ⟨ixs', topLevel_of_instructions hixs' hix' (hobj' ix hix'), ⟨ix, hix', hcalls, hdata⟩,
    iy, hsame.mem_companion hiy hcompanion, hcompanion⟩

variable (hobj : ∀ ix ∈ ixs, ix.IsObject)

include hobj

/-- Bystanders do not make a transaction a fulfilment, nor keep it from being one. -/
theorem isFulfillment_of_sameParties (seed : Seed) :
    isFulfillment tx seed program = isFulfillment tx' seed program := by
  by_cases h : Fulfills program seed tx
  · have h' := h.of_sameParties hixs hixs' hobj' hsame
    rw [isFulfillment_of_fulfills hixs hobj h, isFulfillment_of_fulfills hixs' hobj' h']
  · have h' : ¬ Fulfills program seed tx' :=
      fun h' => h (h'.of_sameParties hixs' hixs hobj hsame.symm)
    rw [isFulfillment_of_not_fulfills hixs hobj h, isFulfillment_of_not_fulfills hixs' hobj' h']

/-- Nor do they influence the search for the key, if the companions mean themselves. -/
theorem search_of_sameParties (hself : ∀ ix ∈ ixs, Calls Companion.program ix → SelfContained ix)
    (seed : Seed) : search tx seed = search tx' seed := by
  have hfiltered : ∀ {l : List Json}, (∀ ix ∈ l, ix.IsObject) →
      (∀ ix ∈ l, Calls Companion.program ix → SelfContained ix) →
      searchFrom seed 0 l = searchFrom seed 0 (l.filter isCompanion) :=
    fun hl hs => searchFrom_filter 0 0 hl fun ix hix hc => hs ix hix (isCompanion_iff.1 hc)
  simp only [search, hixs, hixs']
  rw [hfiltered hobj hself, hfiltered hobj' (hsame.selfContained hself), hsame.companions]

end Parties

end Fulfillment

namespace Client

open Plan Fulfillment

/-- Bystanders have no influence: two transactions with the same companions in the same order and the same calls
of the program, in any order, are recognised alike, give the same key or the same error, and verify the same
signatures or fail with the same error. No record of a companion may mean its instruction by position. -/
theorem decided_alike {S : Service} {τ : Type} {tx tx' : Json} {ixs ixs' : List Json}
    (hixs : instructions tx = .ok ixs) (hixs' : instructions tx' = .ok ixs')
    (hobj : ∀ ix ∈ ixs, ix.IsObject) (hobj' : ∀ ix ∈ ixs', ix.IsObject)
    (hself : ∀ ix ∈ ixs, Calls Companion.program ix → SelfContained ix) {env : Env}
    (hsame : SameParties env.program ixs ixs') (form : SeedForm) :
    (recognize env tx form : Plan S τ Bool) = recognize env tx' form ∧
    (extractKey tx form : Plan S τ Bytes) = extractKey tx' form ∧
    ∀ bs, (verifyFulfillment tx form bs : Plan S τ Unit) = verifyFulfillment tx' form bs := by
  have hfulfils := isFulfillment_of_sameParties hixs hixs' hobj' hsame hobj
  have hsearch := search_of_sameParties hixs hixs' hobj' hsame hobj hself
  have hkey : ∀ seed, Fulfillment.extractKey tx seed = Fulfillment.extractKey tx' seed := by
    intro seed
    simp only [Fulfillment.extractKey, hsearch]
  have hcheck : ∀ seed bs, check tx seed bs = check tx' seed bs := by
    intro seed bs
    simp only [check, hkey]
  refine ⟨?_, ?_, fun bs => ?_⟩
  · simp only [recognize, hfulfils]
  · simp only [extractKey, hsearch, hkey]
  · simp only [verifyFulfillment, hsearch, hcheck]

end Client

/-! ### An instance -/

namespace Sample

open Fulfillment

/-- The sample's two instructions the other way round, among others: one in parsed form, and one without a
program. -/
def crowd : List Json :=
  [.obj [("programId", .str "Vote111111111111111111111111111111111111111"), ("parsed", .obj [])],
    instruction env.program.text (Payload.fulfillLayout seed signature),
    .obj [("programId", .null), ("data", .arr [])],
    instruction Companion.program companionData]

theorem isObject_of_mem_crowd : ∀ ix ∈ crowd, ix.IsObject := by
  intro ix hix
  simp only [crowd, List.mem_cons, List.not_mem_nil, or_false] at hix
  rcases hix with rfl | rfl | rfl | rfl <;> exact ⟨_, rfl⟩

/-- The program of the sample is not the one that checks signatures. -/
theorem isCompanion_fulfilment :
    isCompanion (instruction env.program.text (Payload.fulfillLayout seed signature)) = false := by
  have hname : (env.program.text == Companion.program) = false := by decide +kernel
  exact hname

theorem sameParties_crowd : SameParties env.program (accompanied companionData) crowd where
  companions := by
    have hcompanion : isCompanion (instruction Companion.program companionData) = true :=
      isCompanion_iff.2 rfl
    have hvote : isCompanion (.obj [("programId", .str "Vote111111111111111111111111111111111111111"),
        ("parsed", .obj [])]) = false := by decide +kernel
    have hnull : isCompanion (.obj [("programId", .null), ("data", .arr [])]) = false := rfl
    simp only [accompanied, crowd, List.filter_cons, List.filter_nil, hcompanion, hvote, hnull,
      isCompanion_fulfilment, if_true, Bool.false_eq_true, if_false]
  calls := by
    intro ix hcalls
    have hvote : env.program.text ≠ "Vote111111111111111111111111111111111111111" := by decide +kernel
    simp only [accompanied, crowd, List.mem_cons, List.not_mem_nil, or_false]
    constructor
    · rintro (rfl | rfl)
      · exact .inr (.inr (.inr rfl))
      · exact .inr (.inl rfl)
    · rintro (rfl | rfl | rfl | rfl)
      · exact absurd (Json.str.inj (Except.ok.inj hcalls)).symm hvote
      · exact .inr rfl
      · cases hcalls
      · exact .inl rfl

theorem selfContained_accompanied :
    ∀ ix ∈ accompanied companionData, Calls Companion.program ix → SelfContained ix := by
  intro ix hix hcalls
  simp only [accompanied, List.mem_cons, List.not_mem_nil, or_false] at hix
  rcases hix with rfl | rfl
  · intro data count hdata hcount i hi
    obtain rfl : data = companionData := hdata.unique (carries_encode rfl)
    obtain rfl : count = 1 := hcount.eq_of_first rfl
    obtain rfl : i = 0 := by omega
    rw [companionData, Companion.recordAt_single key signature (by decide) (by decide)]
    exact ⟨rfl, rfl, rfl⟩
  · rw [← isCompanion_iff, isCompanion_fulfilment] at hcalls
    cases hcalls

end Sample

namespace Client

open Plan Fulfillment Ledger

/-- The sample's signature is verified in the crowd too, where the companion comes last. -/
theorem decided_alike_sample :
    Fulfillment.instructions (Sample.holding Sample.crowd) = .ok Sample.crowd ∧
    SameParties Sample.env.program (Sample.accompanied Sample.companionData) Sample.crowd ∧
    ((verifyFulfillment (Sample.holding Sample.crowd) (.address Sample.seed) Sample.signature.bytes).run
      Simulated.model (0 : Rat) .empty).result = .ok () := by
  have halike := decided_alike (S := service) (τ := Rat)
    (Sample.instructions_holding Sample.companionData)
    (show Fulfillment.instructions (Sample.holding Sample.crowd) = .ok Sample.crowd from rfl)
    (Sample.isObject_of_mem_accompanied _) Sample.isObject_of_mem_crowd Sample.selfContained_accompanied
    Sample.sameParties_crowd (.address Sample.seed)
  refine ⟨rfl, Sample.sameParties_crowd, ?_⟩
  rw [← halike.2.2, (reaches_verifyFulfillment Sample.resolve_eq (reaches_run _ _ _ _)).2,
    check_eq_ok_iff]
  exact ⟨Sample.signature, rfl, Sample.key, Sample.honest.extractKey ⟨_, _, rfl, rfl, rfl⟩ (by decide),
    Sample.verify_signature⟩

end Client

end VrfClient
