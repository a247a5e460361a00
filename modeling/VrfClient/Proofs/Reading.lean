import VrfClient.Client
import VrfClient.Ledger.Simulated
import VrfClient.Proofs.Search

/-!
What companion data is read as. The layout is stated from the side of the writer: bytes stand in the data
(`Bytes.StandsAt`), a record is seven numbers of two bytes each (`Record.HeldAt`), and a record points to
an entry whose parts stand where it says (`Record.PointsTo`). A reading takes one step for each record in
turn (`Contributes`), up to the first one that is local and points outside (`Stray`); so what is read
stands in the data, and nothing is looked for behind its end. -/

namespace VrfClient

namespace Bytes

variable {data part : Bytes} {start : Nat}

/-! ### Bytes in their place -/

/-- These bytes stand in the data from this position on. -/
def StandsAt (data : Bytes) (start : Nat) (part : Bytes) : Prop :=
  ∃ before after, data = before ++ part ++ after ∧ before.length = start

theorem StandsAt.inside (h : data.StandsAt start part) : start + part.length ≤ data.length := by
  obtain ⟨before, after, rfl, rfl⟩ := h
  simp only [List.length_append]
  omega

/-- Bytes that stand at a position are what a slice from there gives. -/
theorem StandsAt.slice_eq (h : data.StandsAt start part) : data.slice start part.length = part := by
  obtain ⟨before, after, rfl, rfl⟩ := h
  exact slice_append before part after

theorem length_slice {len : Nat} (h : start + len ≤ data.length) : (data.slice start len).length = len := by
  rw [slice, List.length_take, List.length_drop]
  omega

theorem standsAt_slice {len : Nat} (h : start + len ≤ data.length) :
    data.StandsAt start (data.slice start len) := by
  refine ⟨data.take start, data.drop (start + len), ?_, List.length_take_of_le (by omega)⟩
  rw [slice, List.append_assoc, ← List.drop_drop, List.take_append_drop, List.take_append_drop]

/-- A slice is cut into two slices. -/
theorem slice_add (data : Bytes) (start m n : Nat) :
    data.slice start (m + n) = data.slice start m ++ data.slice (start + m) n := by
  rw [slice, slice, slice, List.take_add, List.drop_drop]

/-- Slices of two bytes, one behind the other, are one slice. -/
theorem flatMap_slice_pair (data : Bytes) (start : Nat) : ∀ n : Nat,
    ((List.range n).flatMap fun k => data.slice (start + 2 * k) 2) = data.slice start (2 * n)
  | 0 => by simp [slice]
  | n + 1 => by
    rw [List.range_succ, List.flatMap_append, flatMap_slice_pair data start n, List.flatMap_singleton,
      ← slice_add, Nat.mul_succ]

/-- Two bytes that are there are the numeral of the number that they stand for. -/
theorem ofNatLE_slice_pair (h : start + 2 ≤ data.length) :
    ofNatLE 2 (toNatLE (data.slice start 2)) = data.slice start 2 := by
  have hpair := ofNatLE_toNatLE (data.slice start 2)
  rwa [length_slice h] at hpair

theorem toNatLE_slice_pair_lt (data : Bytes) (start : Nat) : toNatLE (data.slice start 2) < 65536 := by
  have hlen : (data.slice start 2).length ≤ 2 := List.length_take_le ..
  calc toNatLE (data.slice start 2) < 256 ^ (data.slice start 2).length := toNatLE_lt _
    _ ≤ 256 ^ 2 := Nat.pow_le_pow_right (by decide) hlen
    _ = 65536 := by decide

end Bytes

namespace Companion

variable {data : Bytes} {own i n count : Nat} {e : Entry} {r : Record}

/-! ### Records in their place -/

namespace Record

/-- The seven numbers of a record in the order of the layout. -/
def numbers (r : Record) : List Nat :=
  [r.signatureOffset, r.signatureIndex, r.keyOffset, r.keyIndex, r.messageOffset, r.messageSize, r.messageIndex]

/-- The record is number `i` of the data: its numbers fit two bytes each, and stand there one after the
other, least significant byte first. -/
structure HeldAt (data : Bytes) (i : Nat) (r : Record) : Prop where
  small : ∀ n ∈ r.numbers, n < 65536
  stands : data.StandsAt (headerLength + recordLength * i) (r.numbers.flatMap (Bytes.ofNatLE 2))

/-- The parts of the entry stand in the data where the record says, and have the lengths that they must have. -/
structure PointsTo (data : Bytes) (r : Record) (e : Entry) : Prop where
  key : data.StandsAt r.keyOffset e.key
  signature : data.StandsAt r.signatureOffset e.signature
  message : data.StandsAt r.messageOffset e.message
  key_length : e.key.length = keyLength
  signature_length : e.signature.length = signatureLength
  message_length : e.message.length = r.messageSize

/-- There is one entry at most that a record points to, and there is one exactly if the record is inside. -/
theorem pointsTo_iff : r.PointsTo data e ↔ e = r.entry data ∧ r.isInside data.length = true := by
  constructor
  · intro h
    have hkey := h.key.slice_eq
    have hsignature := h.signature.slice_eq
    have hmessage := h.message.slice_eq
    rw [h.key_length] at hkey
    rw [h.signature_length] at hsignature
    rw [h.message_length] at hmessage
    refine ⟨?_, isInside_iff.2 ⟨?_, ?_, ?_⟩⟩
    · rw [entry, hkey, hsignature, hmessage]
    · exact h.key_length ▸ h.key.inside
    · exact h.signature_length ▸ h.signature.inside
    · exact h.message_length ▸ h.message.inside
  · rintro ⟨rfl, hinside⟩
    obtain ⟨hkey, hsignature, hmessage⟩ := isInside_iff.1 hinside
    exact {
      key := Bytes.standsAt_slice hkey
      signature := Bytes.standsAt_slice hsignature
      message := Bytes.standsAt_slice hmessage
      key_length := Bytes.length_slice hkey
      signature_length := Bytes.length_slice hsignature
      message_length := Bytes.length_slice hmessage }

end Record

theorem numbers_recordAt (data : Bytes) (i : Nat) : (recordAt data i).numbers =
    (List.range 7).map fun k => Bytes.toNatLE (data.slice (headerLength + recordLength * i + 2 * k) 2) := rfl

/-- A counted record is held by the data. -/
theorem Counts.heldAt_recordAt (h : Counts data count) (hi : i < count) : (recordAt data i).HeldAt data i where
  small := by
    intro n hn
    rw [numbers_recordAt] at hn
    obtain ⟨k, -, rfl⟩ := List.mem_map.1 hn
    exact Bytes.toNatLE_slice_pair_lt _ _
  stands := by
    have hheld := h.held
    have hend : headerLength + recordLength * i + 2 * 7 ≤ data.length := by
      simp only [headerLength, recordLength] at hheld ⊢
      omega
    -- each number is the numeral of two bytes, and the fourteen bytes of a record are these pairs in a row
    have hpair : ∀ k ∈ List.range 7, Bytes.ofNatLE 2 (Bytes.toNatLE
        (data.slice (headerLength + recordLength * i + 2 * k) 2)) =
          data.slice (headerLength + recordLength * i + 2 * k) 2 := by
      intro k hk
      rw [List.mem_range] at hk
      exact Bytes.ofNatLE_slice_pair (by omega)
    rw [numbers_recordAt, List.flatMap_map, List.flatMap_congr hpair, Bytes.flatMap_slice_pair]
    exact Bytes.standsAt_slice hend

/-! ### One record -/

/-- The record lies in its own instruction, but one of its ranges ends behind the end of the data. -/
structure Stray (data : Bytes) (own i : Nat) : Prop where
  signature_own : Own own (recordAt data i).signatureIndex
  key_own : Own own (recordAt data i).keyIndex
  message_own : Own own (recordAt data i).messageIndex
  outside : data.length < (recordAt data i).keyOffset + keyLength ∨
    data.length < (recordAt data i).signatureOffset + signatureLength ∨
    data.length < (recordAt data i).messageOffset + (recordAt data i).messageSize

theorem stray_iff : Stray data own i ↔
    (recordAt data i).isLocal own = true ∧ ¬ (recordAt data i).isInside data.length = true := by
  rw [Record.isLocal_iff, Record.isInside_iff]
  constructor
  · rintro ⟨hsignature, hkey, hmessage, houtside⟩
    exact ⟨⟨hsignature, hkey, hmessage⟩, by omega⟩
  · rintro ⟨⟨hsignature, hkey, hmessage⟩, houtside⟩
    exact ⟨hsignature, hkey, hmessage, by omega⟩

/-- What record `i` contributes to a reading: the entry that it points to if it is local, and otherwise the fact
that it was passed over. -/
inductive Contributes (data : Bytes) (own i : Nat) : Step → Prop
  | entry {e : Entry} : (recordAt data i).isLocal own = true → (recordAt data i).PointsTo data e →
      Contributes data own i (.entry e)
  | elsewhere : (recordAt data i).isLocal own = false → Contributes data own i (.elsewhere i)

/-- A reading goes on behind a record that does not go astray. -/
theorem readRecords_cons (h : ¬ Stray data own i) (is : List Nat) : ∃ step, Contributes data own i step ∧
    readRecords data own (i :: is) = (readRecords data own is).after step := by
  rw [stray_iff, not_and_not_right] at h
  cases hlocal : (recordAt data i).isLocal own with
  | true =>
    have hinside := h hlocal
    refine ⟨_, .entry hlocal (Record.pointsTo_iff.2 ⟨rfl, hinside⟩), ?_⟩
    simp only [readRecords, hlocal, hinside, if_true]
  | false =>
    refine ⟨_, .elsewhere hlocal, ?_⟩
    simp only [readRecords, hlocal, Bool.false_eq_true, if_false]

/-- It ends at a record that does. -/
theorem readRecords_of_stray (h : Stray data own i) (is : List Nat) :
    readRecords data own (i :: is) = .failed (.outside i) := by
  obtain ⟨hlocal, hinside⟩ := stray_iff.1 h
  simp only [readRecords, hlocal, if_true, if_neg hinside]

/-! ### Many records -/

/-- Records that do not go astray are read one after the other. By induction on the list of their numbers. -/
theorem readRecords_append (rest : List Nat) : ∀ {is : List Nat}, (∀ i ∈ is, ¬ Stray data own i) →
    ∃ steps, List.Forall₂ (Contributes data own) is steps ∧
      readRecords data own (is ++ rest) =
        ⟨steps ++ (readRecords data own rest).steps, (readRecords data own rest).fault⟩
  | [], _ => ⟨[], .nil, rfl⟩
  | i :: is, h => by
    obtain ⟨hi, his⟩ := List.forall_mem_cons.1 h
    obtain ⟨steps, hsteps, hrest⟩ := readRecords_append rest his
    obtain ⟨step, hstep, hread⟩ := readRecords_cons hi (is ++ rest)
    refine ⟨step :: steps, .cons hstep hsteps, ?_⟩
    rw [List.cons_append, hread, hrest]
    rfl

theorem exists_range_eq {m n : Nat} (h : m < n) : ∃ rest, List.range n = List.range m ++ m :: rest := by
  obtain ⟨k, rfl⟩ := Nat.exists_eq_add_of_lt h
  exact ⟨_, by rw [Nat.add_assoc, List.range_add, List.range_succ_eq_map, List.map_cons, Nat.add_zero]⟩

/-- The entries of a reading are those of the local records, in order. -/
theorem forall₂_entries {is : List Nat} {steps : List Step}
    (h : List.Forall₂ (Contributes data own) is steps) (fault : Option Fault) :
    List.Forall₂ (fun i e => (recordAt data i).PointsTo data e)
      (is.filter fun i => (recordAt data i).isLocal own) (Reading.mk steps fault).entries := by
  induction h with
  | nil => exact .nil
  | cons hstep _ ih =>
    cases hstep with
    | entry hlocal hpoints =>
      rw [List.filter_cons, if_pos hlocal]
      exact .cons hpoints ih
    | elsewhere hother =>
      rw [List.filter_cons_of_neg (by simp [hother])]
      exact ih

/-- The records passed over are the others, in order. -/
theorem elsewhere_eq_filter {is : List Nat} {steps : List Step}
    (h : List.Forall₂ (Contributes data own) is steps) (fault : Option Fault) :
    (Reading.mk steps fault).elsewhere = is.filter fun i => !(recordAt data i).isLocal own := by
  induction h with
  | nil => rfl
  | cons hstep _ ih =>
    cases hstep with
    | entry hlocal hpoints =>
      rw [List.filter_cons_of_neg (by simp [hlocal]), ← ih]
      rfl
    | elsewhere hother =>
      rw [List.filter_cons_of_pos (by simp [hother]), ← ih]
      rfl

/-! ### Whole readings -/

/-- The first `n` records were read, and ended so. -/
structure ReadsFirst (data : Bytes) (own n : Nat) (fault : Option Fault) (reading : Reading) : Prop where
  /-- One step was taken for each of them, in order. -/
  steps : List.Forall₂ (Contributes data own) (List.range n) reading.steps
  /-- So the entries are those that the local ones among them point to. -/
  entries : List.Forall₂ (fun i e => (recordAt data i).PointsTo data e)
    ((List.range n).filter fun i => (recordAt data i).isLocal own) reading.entries
  /-- All others were passed over. -/
  elsewhere : reading.elsewhere = (List.range n).filter fun i => !(recordAt data i).isLocal own
  fault : reading.fault = fault

/-- Where none of the records in front goes astray, they are all read. -/
theorem readsFirst_append (rest : List Nat) (h : ∀ i < n, ¬ Stray data own i)
    (hrest : (readRecords data own rest).steps = []) :
    ReadsFirst data own n (readRecords data own rest).fault (readRecords data own (List.range n ++ rest)) := by
  obtain ⟨steps, hsteps, hread⟩ := readRecords_append rest fun i hi => h i (List.mem_range.1 hi)
  rw [hread, hrest, List.append_nil]
  exact ⟨hsteps, forall₂_entries hsteps _, elsewhere_eq_filter hsteps _, rfl⟩

/-- Data that is refused as a whole: it has no header, counts no records, or does not hold those that it
counts. -/
def Malformed (data : Bytes) : Prop :=
  data.length < headerLength ∨ data[0]? = some 0 ∨
    ∃ count, data[0]? = some count ∧ data.length < headerLength + recordLength * count.toNat

theorem Malformed.not_counts (h : Malformed data) (count : Nat) : ¬ Counts data count := by
  rintro ⟨⟨c, hc, rfl⟩, hpos, hheld⟩
  rcases h with hshort | hzero | ⟨c', hc', htruncated⟩
  · omega
  · obtain rfl := Option.some.inj (hc.symm.trans hzero)
    exact absurd hpos (by decide)
  · obtain rfl := Option.some.inj (hc.symm.trans hc')
    omega

theorem exists_counts_of_not_malformed (h : ¬ Malformed data) : ∃ count, Counts data count := by
  simp only [Malformed, not_or, not_exists, not_and, Nat.not_lt] at h
  obtain ⟨hlong, hzero, hheld⟩ := h
  obtain ⟨c, hc⟩ : ∃ c, data[0]? = some c :=
    ⟨_, List.getElem?_eq_getElem (Nat.lt_of_lt_of_le (by decide) hlong)⟩
  refine ⟨c.toNat, ⟨c, hc, rfl⟩, Nat.pos_of_ne_zero fun h0 => ?_, hheld c hc⟩
  obtain rfl : c = 0 := UInt8.toNat_inj.1 h0
  exact hzero hc

end Companion

namespace Fulfillment

open Companion

/-- What a search comes to that goes through a whole reading: it has passed over all that the reading
passes over, and fails if the reading does. -/
def exhausted (reading : Reading) : Search where
  elsewhere := reading.elsewhere
  result := match reading.fault with
    | some fault => .error (.evidence fault)
    | none => .ok none

/-- A search for a seed that no entry has goes through the whole reading. -/
theorem searchSteps_eq_exhausted {seed : Seed} {fault : Option Companion.Fault} : ∀ {steps : List Step},
    (∀ e ∈ (Reading.mk steps fault).entries, e.message ≠ seed.bytes) →
      searchSteps seed fault steps = exhausted ⟨steps, fault⟩
  | [], _ => rfl
  | .elsewhere i :: steps, h => by
    have hrest : searchSteps seed fault steps = exhausted ⟨steps, fault⟩ := searchSteps_eq_exhausted h
    simp only [searchSteps, hrest]
    rfl
  | .entry e :: steps, h => by
    obtain ⟨he, hrest⟩ := List.forall_mem_cons.1 h
    rw [searchSteps, if_neg he]
    exact searchSteps_eq_exhausted hrest

end Fulfillment

namespace Client

open Plan Companion

variable {S : Service} {τ σ : Type}

/-- What is told of a record that was passed over. -/
def elsewhereNote (i : Nat) : Note :=
  .log .debug .verify s!"Ed25519 entry {i} references another instruction, ignored"

theorem notes_reportElsewhere [Clock τ] (m : Model S τ σ) (t : τ) (s : σ) : ∀ is : List Nat,
    ((reportElsewhere is).run m t s).notes = is.map elsewhereNote
  | [] => rfl
  | i :: is => congrArg (elsewhereNote i :: ·) (notes_reportElsewhere m t s is)

/-- Companion data is read by its layout. Malformed data is refused before anything is read from it. All
other data holds the records that it counts; they are read in order, one step for each, to the end if none
goes astray, and otherwise up to the first one that does, which is the fault. A search that finds nothing in
the entries fails with that fault, and each record that was passed over is told. -/
theorem companion_read_by_layout [Clock τ] (data : Bytes) (own : Nat) (m : Model S τ σ) (t : τ) (s : σ) :
    (Malformed data → ∃ fault, read data own = .failed fault) ∧
    (¬ Malformed data → ∃ count, Counts data count ∧
      (∀ i < count, (recordAt data i).HeldAt data i) ∧
      ((∀ i < count, ¬ Stray data own i) → ReadsFirst data own count none (read data own)) ∧
      ∀ i < count, Stray data own i → (∀ j < i, ¬ Stray data own j) →
        ReadsFirst data own i (some (.outside i)) (read data own)) ∧
    (∀ seed : Seed, (∀ e ∈ (read data own).entries, e.message ≠ seed.bytes) →
      Fulfillment.searchSteps seed (read data own).fault (read data own).steps =
        Fulfillment.exhausted (read data own)) ∧
    ((reportElsewhere (read data own).elsewhere).run m t s).notes =
      (read data own).elsewhere.map elsewhereNote := by
  refine ⟨fun h => ?_, fun h => ?_, fun seed => Fulfillment.searchSteps_eq_exhausted,
    notes_reportElsewhere m t s _⟩
  · obtain ⟨fault, hfault⟩ := exists_read_eq_failed h.not_counts
    exact ⟨fault, hfault own⟩
  · obtain ⟨count, hcount⟩ := exists_counts_of_not_malformed h
    refine ⟨count, hcount, fun i hi => hcount.heldAt_recordAt hi, fun hnone => ?_,
      fun i hi hstray hfirst => ?_⟩
    · have hread := readsFirst_append [] hnone rfl
      rwa [List.append_nil, ← hcount.read_eq] at hread
    · -- what stands behind record `i` has no part in the reading, since it ends there
      obtain ⟨rest, hrange⟩ := exists_range_eq hi
      have hend := readRecords_of_stray hstray rest
      have hread := readsFirst_append (i :: rest) hfirst (by rw [hend]; rfl)
      rwa [← hrange, ← hcount.read_eq, hend] at hread

end Client

/-! ### An instance -/

namespace Sample

open Companion

/-- Three records: one that is local and reaches to the very end of the data, one of another instruction
that points far outside, and one that is local and ends one byte too late. -/
def threeRecords : List Record :=
  [⟨2, thisInstruction, 34, thisInstruction, 0, 66, thisInstruction⟩,
    ⟨0xffff, 5, 0xffff, 5, 0xffff, 0xffff, 5⟩, ⟨3, 7, 0, 7, 0, 0, 7⟩]

/-- Data with these records, in 66 bytes. -/
def strayData : Bytes :=
  [3, 0] ++ (threeRecords.flatMap fun r => r.numbers.flatMap (Bytes.ofNatLE 2)) ++ List.replicate 22 0

theorem not_malformed_strayData : ¬ Malformed strayData := by
  rintro (hshort | hzero | ⟨count, hcount, htruncated⟩)
  · exact absurd hshort (by decide +kernel)
  · exact absurd hzero (by decide +kernel)
  · obtain rfl : 3 = count := Option.some.inj hcount
    exact absurd htruncated (by decide +kernel)

theorem stray_strayData : Stray strayData 7 2 := by
  rw [stray_iff]
  decide +kernel

theorem not_stray_strayData : ∀ i < 2, ¬ Stray strayData 7 i := by
  simp only [stray_iff]
  decide +kernel

end Sample

namespace Client

open Plan Companion Ledger

/-- Of the three records the first gives an entry, the second is passed over, and the third ends the reading and
with it a search for the zero seed. Two bytes that count one record are refused. -/
theorem companion_read_by_layout_sample :
    (∃ fault, read [1, 0] 7 = .failed fault) ∧
    ReadsFirst Sample.strayData 7 2 (some (.outside 2)) (read Sample.strayData 7) ∧
    (Fulfillment.searchSteps (Octets.zero 32) (read Sample.strayData 7).fault
      (read Sample.strayData 7).steps).result = .error (.evidence (.outside 2)) ∧
    ((reportElsewhere (read Sample.strayData 7).elsewhere).run Simulated.model (0 : Rat) .empty).notes =
      [elsewhereNote 1] := by
  have hmalformed : Malformed [1, 0] := .inr (.inr ⟨1, rfl, by decide⟩)
  obtain ⟨hrefused, -, -⟩ := companion_read_by_layout [1, 0] 7 Simulated.model (0 : Rat) .empty
  obtain ⟨-, hread, hsearch, hnotes⟩ :=
    companion_read_by_layout Sample.strayData 7 Simulated.model (0 : Rat) .empty
  obtain ⟨count, hcount, -, -, hstray⟩ := hread Sample.not_malformed_strayData
  obtain ⟨c, hc, rfl⟩ := hcount.first
  obtain rfl : 3 = c := Option.some.inj hc
  have hreads := hstray 2 (by decide) Sample.stray_strayData Sample.not_stray_strayData
  have helsewhere : ((List.range 2).filter fun i => !(recordAt Sample.strayData i).isLocal 7) = [1] := by
    decide +kernel
  have hother : ∀ e ∈ (read Sample.strayData 7).entries, e.message ≠ (Octets.zero 32).bytes := by
    decide +kernel
  refine ⟨hrefused hmalformed, hreads, ?_, ?_⟩
  · rw [hsearch (Octets.zero 32) hother, Fulfillment.exhausted, hreads.fault]
  · rw [hnotes, hreads.elsewhere, helsewhere]
    rfl

end Client

end VrfClient
