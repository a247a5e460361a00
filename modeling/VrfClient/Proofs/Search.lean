import VrfClient.Proofs.Companion
import VrfClient.Proofs.Document

/-!
The search for a key. It is lazy: record by record and companion by companion it goes on while there is
nothing for the seed, and ends with the first record that checks the seed, or with the first thing that is
malformed. So its result is the first verdict in a list of them (`firstVerdict`), of the records for
companion data and of the instructions for a transaction, and what it finds is said by the first verdict
that is not "nothing here": `result_search_eq_ok_some_iff` for data, `result_searchFrom_eq_ok_some_iff` for
instructions. -/

namespace VrfClient

/-! ### The first verdict -/

/-- The first of some verdicts that is not "nothing here". -/
def firstVerdict {ε κ : Type} : List (Except ε (Option κ)) → Except ε (Option κ)
  | [] => .ok none
  | .ok none :: vs => firstVerdict vs
  | v :: _ => v

section FirstVerdict

variable {ε κ : Type}

theorem firstVerdict_eq_ok_none_iff : ∀ {vs : List (Except ε (Option κ))},
    firstVerdict vs = .ok none ↔ ∀ v ∈ vs, v = .ok none
  | [] => by simp [firstVerdict]
  | .ok none :: vs => by simp [firstVerdict, firstVerdict_eq_ok_none_iff]
  | .ok (some k) :: vs => by simp [firstVerdict]
  | .error e :: vs => by simp [firstVerdict]

/-- Something is found exactly if there is nothing before it. -/
theorem firstVerdict_eq_ok_some_iff {k : κ} : ∀ {vs : List (Except ε (Option κ))},
    firstVerdict vs = .ok (some k) ↔
      ∃ p : Nat, vs[p]? = some (.ok (some k)) ∧ ∀ q < p, vs[q]? = some (.ok none)
  | [] => by simp [firstVerdict]
  | .ok none :: vs => by
    rw [firstVerdict, firstVerdict_eq_ok_some_iff]
    constructor
    · rintro ⟨p, hfound, hbefore⟩
      refine ⟨p + 1, hfound, ?_⟩
      rintro (_ | q) hq
      · rfl
      · exact hbefore q (Nat.lt_of_succ_lt_succ hq)
    · rintro ⟨_ | p, hfound, hbefore⟩
      · cases hfound
      · exact ⟨p, hfound, fun q hq => hbefore (q + 1) (Nat.succ_lt_succ hq)⟩
  | .ok (some k') :: vs => by
    constructor
    · rintro ⟨⟩
      exact ⟨0, rfl, fun q hq => absurd hq (Nat.not_lt_zero q)⟩
    · rintro ⟨_ | p, hfound, hbefore⟩
      · exact Option.some.inj hfound
      · cases hbefore 0 p.succ_pos
  | .error e :: vs => by
    constructor
    · rintro ⟨⟩
    · rintro ⟨_ | p, hfound, hbefore⟩
      · cases hfound
      · cases hbefore 0 p.succ_pos

end FirstVerdict

theorem getElem?_map_range {β : Type} {f : Nat → β} {n i : Nat} {v : β} :
    ((List.range n).map f)[i]? = some v ↔ i < n ∧ f i = v := by
  simp [List.getElem?_eq_some_iff]

/-! ### Records -/

namespace Companion

/-- The data counts so many records, at least one, and holds them all. -/
structure Counts (data : Bytes) (count : Nat) : Prop where
  first : ∃ c : UInt8, data[0]? = some c ∧ c.toNat = count
  pos : 0 < count
  held : headerLength + recordLength * count ≤ data.length

/-- Record `i` has nothing to do with a message: it refers to another instruction, or it checks another
message. -/
def Unrelated (data : Bytes) (own i : Nat) (message : Bytes) : Prop :=
  (recordAt data i).isLocal own = false ∨
    (recordAt data i).isInside data.length = true ∧ ((recordAt data i).entry data).message ≠ message

/-- The first record of companion data that has to do with the message checks it, under this key. -/
def ChecksFirst (data : Bytes) (own : Nat) (key message : Bytes) : Prop :=
  ∃ i, Checks data own i key message ∧ ∀ j < i, Unrelated data own j message

/-- No record of companion data has to do with the message. -/
def ChecksNone (data : Bytes) (own : Nat) (message : Bytes) : Prop :=
  ∃ count, Counts data count ∧ ∀ i < count, Unrelated data own i message

/-- What one record says in a search for the key of a message. -/
def verdict (data : Bytes) (own : Nat) (message : Bytes) (i : Nat) : Except Error (Option Bytes) :=
  if (recordAt data i).isLocal own then
    if (recordAt data i).isInside data.length then
      if ((recordAt data i).entry data).message = message then
        .ok (some ((recordAt data i).entry data).key)
      else .ok none
    else .error (.evidence (.outside i))
  else .ok none

variable {data : Bytes} {own i : Nat} {message key : Bytes}

theorem Checks.exists_counts (h : Checks data own i key message) : ∃ count, Counts data count := by
  obtain ⟨c, hc, hi, hheld⟩ := h.counted
  exact ⟨c.toNat, ⟨c, hc, rfl⟩, Nat.zero_lt_of_lt hi, hheld⟩

theorem verdict_eq_ok_none_iff : verdict data own message i = .ok none ↔
    Unrelated data own i message := by
  unfold verdict Unrelated
  split
  · split
    · split <;> simp_all
    · simp_all
  · simp_all

/-- A counted record gives a key exactly if it checks the message under the key. -/
theorem checks_iff {count : Nat} (hcount : Counts data count) :
    Checks data own i key message ↔ i < count ∧ verdict data own message i = .ok (some key) := by
  obtain ⟨⟨c, hc, rfl⟩, hpos, hheld⟩ := hcount
  unfold verdict
  constructor
  · intro h
    obtain ⟨c', hc', hi, -⟩ := h.counted
    obtain rfl : c = c' := Option.some.inj (hc.symm.trans hc')
    have hlocal : (recordAt data i).isLocal own = true :=
      Record.isLocal_iff.2 ⟨h.signature_own, h.key_own, h.message_own⟩
    have hinside : (recordAt data i).isInside data.length = true :=
      Record.isInside_iff.2 ⟨h.key_inside, h.signature_inside, h.message_inside⟩
    have hmessage : ((recordAt data i).entry data).message = message := h.message_eq
    rw [if_pos hlocal, if_pos hinside, if_pos hmessage]
    exact ⟨hi, congrArg (Except.ok ∘ some) h.key_eq⟩
  · rintro ⟨hi, h⟩
    split at h
    · rename_i hlocal
      split at h
      · rename_i hinside
        split at h
        · rename_i hmessage
          rw [Record.isLocal_iff] at hlocal
          rw [Record.isInside_iff] at hinside
          exact ⟨⟨c, hc, hi, hheld⟩, hlocal.1, hlocal.2.1, hlocal.2.2, hinside.2.1, hinside.1,
            hinside.2.2, Option.some.inj (Except.ok.inj h), hmessage⟩
        · cases h
      · cases h
    · cases h

theorem Counts.read_eq {count : Nat} (h : Counts data count) (own : Nat) :
    read data own = readRecords data own (List.range count) := by
  obtain ⟨⟨c, hc, rfl⟩, hpos, hheld⟩ := h
  have hne : c ≠ 0 := by
    rintro rfl
    exact absurd hpos (by decide)
  exact read_eq_readRecords own hc hne hheld

/-- Data that does not hold the records it counts, or counts none, is not read at all. -/
theorem exists_read_eq_failed (h : ∀ count, ¬ Counts data count) :
    ∃ fault, ∀ own, read data own = .failed fault := by
  unfold read
  split
  · rename_i c second rest
    split
    · exact ⟨_, fun _ => rfl⟩
    · rename_i hne
      split
      · exact ⟨_, fun _ => rfl⟩
      · rename_i hheld
        have hpos : 0 < c.toNat := Nat.pos_of_ne_zero fun h0 => hne (UInt8.toNat_inj.1 h0)
        exact absurd ⟨⟨c, rfl, rfl⟩, hpos, Nat.le_of_not_lt hheld⟩ (h c.toNat)
  · exact ⟨_, fun _ => rfl⟩

end Companion

namespace Fulfillment

open Companion

variable {seed : Seed} {data : Bytes} {own : Nat} {key : Bytes}

/-! ### Searches -/

/-- A search in records goes by their verdicts. -/
theorem result_searchSteps : ∀ is : List Nat,
    (searchSteps seed (readRecords data own is).fault (readRecords data own is).steps).result =
      firstVerdict (is.map (verdict data own seed.bytes))
  | [] => rfl
  | i :: is => by
    have hrest := result_searchSteps is
    rw [List.map_cons, readRecords, verdict]
    by_cases hlocal : (recordAt data i).isLocal own = true
    · by_cases hinside : (recordAt data i).isInside data.length = true
      · by_cases hmessage : ((recordAt data i).entry data).message = seed.bytes
        · simp only [hlocal, hinside, hmessage, if_true, Reading.after, searchSteps]
          rfl
        · simp only [hlocal, hinside, hmessage, if_true, if_false, Reading.after, searchSteps]
          exact hrest
      · simp only [hlocal, hinside, if_true]
        rfl
    · simp only [hlocal]
      exact hrest

/-- A search in companion data that holds the records it counts goes by their verdicts. -/
theorem result_search_of_counts {count : Nat} (h : Counts data count) :
    (searchSteps seed (read data own).fault (read data own).steps).result =
      firstVerdict ((List.range count).map (verdict data own seed.bytes)) := by
  rw [h.read_eq]
  exact result_searchSteps _

theorem exists_result_search_eq_error (seed : Seed) (own : Nat) (h : ∀ count, ¬ Counts data count) :
    ∃ e, (searchSteps seed (read data own).fault (read data own).steps).result = .error e := by
  obtain ⟨fault, hfault⟩ := exists_read_eq_failed h
  rw [hfault]
  exact ⟨_, rfl⟩

theorem result_search_eq_ok_some_iff :
    (searchSteps seed (read data own).fault (read data own).steps).result = .ok (some key) ↔
      ChecksFirst data own key seed.bytes := by
  by_cases hread : ∃ count, Counts data count
  · obtain ⟨count, hcount⟩ := hread
    rw [result_search_of_counts hcount, firstVerdict_eq_ok_some_iff]
    simp only [getElem?_map_range, ChecksFirst, checks_iff hcount, ← verdict_eq_ok_none_iff]
    constructor
    · rintro ⟨i, hfound, hbefore⟩
      exact ⟨i, hfound, fun j hj => (hbefore j hj).2⟩
    · rintro ⟨i, hfound, hbefore⟩
      exact ⟨i, hfound, fun j hj => ⟨hj.trans hfound.1, hbefore j hj⟩⟩
  · obtain ⟨e, he⟩ := exists_result_search_eq_error seed own (not_exists.1 hread)
    rw [he]
    constructor
    · rintro ⟨⟩
    · rintro ⟨i, hchecks, -⟩
      exact absurd hchecks.exists_counts hread

theorem result_search_eq_ok_none_iff :
    (searchSteps seed (read data own).fault (read data own).steps).result = .ok none ↔
      ChecksNone data own seed.bytes := by
  constructor
  · intro h
    by_cases hread : ∃ count, Counts data count
    · obtain ⟨count, hcount⟩ := hread
      rw [result_search_of_counts hcount, firstVerdict_eq_ok_none_iff] at h
      refine ⟨count, hcount, fun i hi => ?_⟩
      exact verdict_eq_ok_none_iff.1 (h _ (List.mem_map_of_mem (List.mem_range.2 hi)))
    · obtain ⟨e, he⟩ := exists_result_search_eq_error seed own (not_exists.1 hread)
      rw [he] at h
      cases h
  · rintro ⟨count, hcount, hnone⟩
    rw [result_search_of_counts hcount, firstVerdict_eq_ok_none_iff]
    intro v hv
    obtain ⟨i, hi, rfl⟩ := List.mem_map.1 hv
    exact verdict_eq_ok_none_iff.2 (hnone i (List.mem_range.1 hi))

/-- One instruction gives a key exactly if it is a companion whose first record for the seed is under this
key. -/
theorem result_searchInstruction_eq_ok_some_iff {position : Nat} {ix : Json} :
    (searchInstruction seed position ix).result = .ok (some key) ↔
      Calls Companion.program ix ∧ ∃ data, Carries data ix ∧ ChecksFirst data position key seed.bytes := by
  simp only [← calls_eq_true_iff, ← instructionData_eq_some_iff]
  unfold searchInstruction
  cases calls Companion.program ix with
  | error m => simp [Search.ended]
  | ok called =>
    cases called with
    | false => simp [Search.ended]
    | true =>
      cases instructionData ix with
      | error m => simp [Search.ended]
      | ok found =>
        cases found with
        | none => simp [Search.ended]
        | some data => simp [result_search_eq_ok_some_iff]

/-- An object gives nothing exactly if, where it is a companion, no record of it is for the seed. -/
theorem result_searchInstruction_eq_ok_none_iff {position : Nat} {ix : Json} (hobj : ix.IsObject) :
    (searchInstruction seed position ix).result = .ok none ↔
      (Calls Companion.program ix → ∃ data, Carries data ix ∧ ChecksNone data position seed.bytes) := by
  have hsingle : ∀ iy ∈ [ix], iy.IsObject := by simpa using hobj
  obtain ⟨called, hcalled⟩ := exists_calls_eq_ok hsingle Companion.program ix (by simp)
  simp only [← calls_eq_true_iff, ← instructionData_eq_some_iff, hcalled, searchInstruction]
  cases called with
  | false => simp [Search.ended]
  | true =>
    cases instructionData ix with
    | error m => simp [Search.ended]
    | ok found =>
      cases found with
      | none => simp [Search.ended]
      | some data => simp [result_search_eq_ok_none_iff]

/-- A search in a list of instructions goes by their verdicts; without one there is no evidence. -/
theorem result_searchFrom : ∀ (position : Nat) (ixs : List Json),
    (searchFrom seed position ixs).result =
      (firstVerdict ((ixs.zipIdx position).map fun p => (searchInstruction seed p.2 p.1).result)).bind
        fun found => found.elim (.error (.evidence .absent)) (.ok ∘ some)
  | _, [] => rfl
  | position, ix :: ixs => by
    have hrest := result_searchFrom (position + 1) ixs
    rw [List.zipIdx_cons, List.map_cons, searchFrom, Search.orGoOn]
    dsimp only
    cases hfirst : (searchInstruction seed position ix).result with
    | error e => exact hfirst
    | ok found =>
      cases found with
      | none => exact hrest
      | some key => exact hfirst

/-- A search in a list of instructions finds a key in one of them, with nothing in those before it. -/
theorem result_searchFrom_eq_ok_some_iff {position : Nat} {ixs : List Json} :
    (searchFrom seed position ixs).result = .ok (some key) ↔ ∃ p ix, ixs[p]? = some ix ∧
      (searchInstruction seed (position + p) ix).result = .ok (some key) ∧
      ∀ q < p, ∀ iy, ixs[q]? = some iy →
        (searchInstruction seed (position + q) iy).result = .ok none := by
  have hverdicts : (searchFrom seed position ixs).result = .ok (some key) ↔
      firstVerdict ((ixs.zipIdx position).map fun p => (searchInstruction seed p.2 p.1).result) =
        .ok (some key) := by
    rw [result_searchFrom]
    cases firstVerdict ((ixs.zipIdx position).map fun p => (searchInstruction seed p.2 p.1).result) with
    | error e => simp [Except.bind]
    | ok found => cases found <;> simp [Except.bind]
  rw [hverdicts, firstVerdict_eq_ok_some_iff]
  simp only [List.getElem?_map, List.getElem?_zipIdx, Option.map_map, Option.map_eq_some_iff,
    Function.comp_apply]
  constructor
  · rintro ⟨p, ⟨ix, hix, hfound⟩, hbefore⟩
    refine ⟨p, ix, hix, hfound, fun q hq iy hiy => ?_⟩
    obtain ⟨iz, hiz, hnone⟩ := hbefore q hq
    obtain rfl : iy = iz := Option.some.inj (hiy.symm.trans hiz)
    exact hnone
  · rintro ⟨p, ix, hix, hfound, hbefore⟩
    refine ⟨p, ⟨ix, hix, hfound⟩, fun q hq => ?_⟩
    have hlt : q < ixs.length := hq.trans (List.getElem?_eq_some_iff.1 hix).1
    exact ⟨ixs[q], List.getElem?_eq_getElem hlt, hbefore q hq _ (List.getElem?_eq_getElem hlt)⟩

end Fulfillment

end VrfClient
