import VrfClient.Proofs.Outcomes

/-!
Which transaction is found. On a ledger at rest, whose listed transactions are null or well shaped, every one
of them either qualifies or is passed over (`judge_eq_ok_true_iff`, `judge_of_not_qualifies`). So looking for
a fulfilment goes one of three ways, `FindRun`: nothing is listed, nothing that is listed qualifies, or the
newest that qualifies is given, and nothing older is asked for. Which way it goes is read off the list alone
(`FindRun.finds`), since at most one entry is the newest that qualifies (`IsNewest.unique`). -/

namespace VrfClient

namespace Fulfillment

/-- The transaction is there, it succeeded, and it fulfils the seed. -/
structure Qualifies (program : Address) (seed : Seed) (tx : Json) : Prop where
  present : tx.isAbsent = false
  succeeded : Succeeded tx
  fulfills : Fulfills program seed tx

section Judging

variable {program : Address} {seed : Seed} {tx : Json} (h : tx = .null ∨ WellShaped tx)

include h

/-- A transaction ends the scan exactly if it qualifies. -/
theorem judge_eq_ok_true_iff : judge program seed tx = .ok true ↔ Qualifies program seed tx := by
  constructor
  · intro hjudge
    obtain ⟨hsucceeded, hfulfills⟩ := succeeded_and_fulfills_of_judge hjudge
    obtain ⟨status, hstatus, hnull, -⟩ := id hsucceeded
    exact ⟨Json.isAbsent_of_member hstatus hnull, hsucceeded, hfulfills⟩
  · rintro ⟨hpresent, hsucceeded, hfulfills⟩
    rcases h with rfl | h
    · cases hpresent
    · obtain ⟨ixs, hixs, hobj⟩ := h.exists_instructions
      exact (judge_of_succeeded hsucceeded).trans (isFulfillment_of_fulfills hixs hobj hfulfills)

/-- Every other transaction is passed over. -/
theorem judge_of_not_qualifies (hnot : ¬ Qualifies program seed tx) :
    judge program seed tx = .ok false := by
  obtain ⟨ended, hended⟩ := exists_judge_eq_ok program seed h
  cases ended with
  | false => exact hended
  | true => exact absurd ((judge_eq_ok_true_iff h).1 hended) hnot

end Judging

end Fulfillment

/-- In a list nothing has a property, or there is a first that has it. -/
theorem forall_not_or_exists_first {α : Type} (P : α → Prop) (l : List α) : (∀ a ∈ l, ¬ P a) ∨
    ∃ newer a older, l = newer ++ a :: older ∧ (∀ b ∈ newer, ¬ P b) ∧ P a := by
  classical
  cases hfirst : l.find? (fun a => decide (P a)) with
  | none => exact .inl (by simpa using hfirst)
  | some a =>
    obtain ⟨ha, newer, older, rfl, hnewer⟩ := List.find?_eq_some_iff_append.1 hfirst
    exact .inr ⟨newer, a, older, rfl, by simpa using hnewer, by simpa using ha⟩

namespace Client

open Plan Fulfillment

variable {τ σ : Type} {env : Env} {form : SeedForm} {seed : Seed} {address : Address}
  {view : (c : Ledger.Call) → c.Reply}

/-! ### What can happen -/

/-- The transaction that the ledger holds under this name qualifies. -/
def Found (view : (c : Ledger.Call) → c.Reply) (env : Env) (seed : Seed) (name : String) : Prop :=
  Qualifies env.program seed (view (.transaction name))

/-- The ways in which looking for a fulfilment can go on a ledger at rest: the questions, and the result. -/
inductive FindRun (view : (c : Ledger.Call) → c.Reply) (env : Env) (seed : Seed) (address : Address) :
    List Ledger.Call → Except Error (String × Json) → Prop
  | nothingListed : view (.signatures address) = [] →
      FindRun view env seed address [.signatures address] (.error (.noTransactions seed address))
  | noneQualifies : view (.signatures address) ≠ [] →
      (∀ n ∈ view (.signatures address), ¬ Found view env seed n) →
      FindRun view env seed address
        (.signatures address :: (view (.signatures address)).map .transaction)
        (.error (.noFulfillment seed (view (.signatures address)).length))
  | found {newer older : List String} {name : String} :
      view (.signatures address) = newer ++ name :: older →
      (∀ n ∈ newer, ¬ Found view env seed n) → Found view env seed name →
      FindRun view env seed address (.signatures address :: (newer ++ [name]).map .transaction)
        (.ok (name, view (.transaction name)))

/-- Every run of looking for a fulfilment is one of these. -/
theorem reaches_findFulfillment_of_shown (ha : env.randomnessAccount? seed = some address)
    (hshape : ∀ n ∈ view (.signatures address),
      view (.transaction n) = .null ∨ WellShaped (view (.transaction n)))
    {x : List (Exchange Ledger.service)} {r : Except Error (String × Json)} (hx : Shown view x)
    (h : Reaches (τ := τ) (findFulfillment env (.address seed)) x r) :
    FindRun view env seed address (x.map Exchange.call) r := by
  rcases reaches_findFulfillment ha h with ⟨e, rfl, -⟩ | ⟨listed, y, rfl, hnext⟩
  · cases (shown_cons.1 hx).1
  obtain ⟨hanswer, hy⟩ := shown_cons.1 hx
  obtain rfl : listed = view (.signatures address) := Except.ok.inj hanswer
  rcases hnext with ⟨hnil, rfl, rfl⟩ | ⟨hne, hscan⟩
  · exact .nothingListed hnil
  have hpassed : ∀ n ∈ view (.signatures address), ¬ Found view env seed n →
      judge env.program seed (view (.transaction n)) = .ok false :=
    fun n hn hnot => judge_of_not_qualifies (hshape n hn) hnot
  rcases forall_not_or_exists_first (Found view env seed) (view (.signatures address)) with
    hnone | ⟨newer, name, older, hlisted, hnewer, hfound⟩
  · obtain ⟨hcalls, rfl⟩ := scan_of_none (fun n hn => hpassed n hn (hnone n hn)) hy hscan
    rw [List.map_cons, hcalls]
    exact .noneQualifies hne hnone
  · have hmem : ∀ n ∈ newer ++ [name], n ∈ view (.signatures address) := by
      intro n hn
      rw [hlisted, List.append_cons]
      exact List.mem_append_left older hn
    rw [hlisted] at hscan
    have hends := (judge_eq_ok_true_iff (hshape name (hmem name (by simp)))).2 hfound
    have hbefore := fun n hn => hpassed n (hmem n (List.mem_append_left _ hn)) (hnewer n hn)
    obtain ⟨hcalls, rfl⟩ := scan_of_first hends hbefore hy hscan
    rw [List.map_cons, hcalls]
    exact .found hlisted hnewer hfound

/-! ### The newest that qualifies -/

/-- The newest entry of a list that qualifies has this name, and these stand before it. -/
structure IsNewest (view : (c : Ledger.Call) → c.Reply) (env : Env) (seed : Seed) (listed newer : List String)
    (name : String) : Prop where
  listed : newer ++ [name] <+: listed
  newer : ∀ n ∈ newer, ¬ Found view env seed n
  found : Found view env seed name

/-- What looking for a fulfilment asks and gives, read off the history of an address at rest. -/
structure FindsNewest (view : (c : Ledger.Call) → c.Reply) (env : Env) (seed : Seed) (address : Address)
    (calls : List Ledger.Call) (result : Except Error (String × Json)) : Prop where
  /-- What is given is the newest transaction that qualifies, as the ledger holds it. -/
  found_iff : ∀ name tx, result = .ok (name, tx) ↔ tx = view (.transaction name) ∧
    ∃ newer, IsNewest view env seed (view (.signatures address)) newer name
  noTransactions_iff : ∀ s a, result = .error (.noTransactions s a) ↔
    (s = seed ∧ a = address) ∧ view (.signatures address) = []
  noFulfillment_iff : ∀ s count, result = .error (.noFulfillment s count) ↔
    (s = seed ∧ count = (view (.signatures address)).length) ∧ view (.signatures address) ≠ [] ∧
      ∀ n ∈ view (.signatures address), ¬ Found view env seed n
  /-- Nothing behind the newest that qualifies is asked for. -/
  calls_of_newest : ∀ newer name, IsNewest view env seed (view (.signatures address)) newer name →
    calls = .signatures address :: (newer ++ [name]).map .transaction
  /-- If none qualifies, all of them are asked for. -/
  calls_of_none : (∀ n ∈ view (.signatures address), ¬ Found view env seed n) →
    calls = .signatures address :: (view (.signatures address)).map .transaction

section Unique

variable {listed newer newer' : List String} {name name' : String}

/-- Nothing that qualifies stands before the newest that does. -/
theorem IsNewest.prefix_of (h : IsNewest view env seed listed newer name)
    (h' : IsNewest view env seed listed newer' name') (hle : newer ++ [name] <+: newer' ++ [name']) :
    newer ++ [name] = newer' ++ [name'] := by
  rcases List.prefix_concat_iff.1 hle with heq | hle
  · exact heq
  · exact absurd h.found (h'.newer name (hle.subset (by simp)))

theorem IsNewest.unique (h : IsNewest view env seed listed newer name)
    (h' : IsNewest view env seed listed newer' name') : newer = newer' ∧ name = name' := by
  have heq : newer ++ [name] = newer' ++ [name'] := by
    rcases List.prefix_or_prefix_of_prefix h.listed h'.listed with hle | hle
    · exact h.prefix_of h' hle
    · exact (h'.prefix_of h hle).symm
  exact List.append_singleton_inj.1 heq

theorem IsNewest.mem (h : IsNewest view env seed listed newer name) : name ∈ listed :=
  h.listed.subset (by simp)

end Unique

/-- Each of the three ways is told apart by the list. -/
theorem FindRun.finds {calls : List Ledger.Call} {result : Except Error (String × Json)}
    (h : FindRun view env seed address calls result) :
    FindsNewest view env seed address calls result := by
  cases h with
  | nothingListed hnil =>
    have hnone : ∀ newer name, ¬ IsNewest view env seed (view (.signatures address)) newer name :=
      fun _ _ hnewest => by simpa [hnil] using hnewest.mem
    exact {
      found_iff := by simp [hnone]
      noTransactions_iff := by simp [hnil, eq_comm]
      noFulfillment_iff := by simp [hnil]
      calls_of_newest := fun newer name hnewest => absurd hnewest (hnone newer name)
      calls_of_none := by simp [hnil] }
  | noneQualifies hne hall =>
    have hnone : ∀ newer name, ¬ IsNewest view env seed (view (.signatures address)) newer name :=
      fun _ name hnewest => hall name hnewest.mem hnewest.found
    exact {
      found_iff := by simp [hnone]
      noTransactions_iff := by simp [hne]
      noFulfillment_iff := by
        intro s count
        constructor
        · intro h
          cases h
          exact ⟨⟨rfl, rfl⟩, hne, hall⟩
        · rintro ⟨⟨rfl, rfl⟩, -⟩
          rfl
      calls_of_newest := fun newer name hnewest => absurd hnewest (hnone newer name)
      calls_of_none := fun _ => rfl }
  | @found newer older name hlisted hnewer hfound =>
    have hnewest : IsNewest view env seed (view (.signatures address)) newer name :=
      ⟨⟨older, by simp [hlisted]⟩, hnewer, hfound⟩
    have hsome : ¬ ∀ n ∈ view (.signatures address), ¬ Found view env seed n :=
      fun hall => hall name hnewest.mem hfound
    exact {
      found_iff := by
        intro name' tx
        constructor
        · intro h
          cases h
          exact ⟨rfl, newer, hnewest⟩
        · rintro ⟨rfl, newer', hnewest'⟩
          obtain ⟨-, rfl⟩ := hnewest.unique hnewest'
          rfl
      noTransactions_iff := by simp [hlisted]
      noFulfillment_iff := by
        intro s count
        simp only [reduceCtorEq, false_iff]
        exact fun h => hsome h.2.2
      calls_of_newest := by
        intro newer' name' hnewest'
        obtain ⟨rfl, rfl⟩ := hnewest.unique hnewest'
        rfl
      calls_of_none := fun hall => absurd hall hsome }

/-- On a ledger at rest, whose listed transactions are null or well shaped, looking for a fulfilment gives the
newest transaction that qualifies and asks for nothing behind it; it says that there are no transactions
exactly if none is listed, and that there is no fulfilment exactly if some are and none qualifies. -/
theorem newest_qualifying_found [Clock τ] (hform : form.resolve = .ok seed)
    (ha : env.randomnessAccount? seed = some address)
    (hshape : ∀ n ∈ view (.signatures address),
      view (.transaction n) = .null ∨ WellShaped (view (.transaction n)))
    (m : Model Ledger.service τ σ) (t : τ) (s : σ)
    (hx : Shown view ((findFulfillment env form).transcript m t s)) :
    FindsNewest view env seed address ((findFulfillment env form).run m t s).calls
      ((findFulfillment env form).run m t s).result := by
  have hrun := reaches_findFulfillment_address hform (reaches_run m (findFulfillment env form) t s)
  rw [calls_run]
  exact (reaches_findFulfillment_of_shown ha hshape hx hrun).finds

end Client

/-! ### An instance -/

namespace Sample

open Client Fulfillment

theorem shaped : ∀ n ∈ view (.signatures address),
    view (.transaction n) = .null ∨ WellShaped (view (.transaction n)) := by
  intro n hn
  simp only [view, List.mem_cons, List.not_mem_nil, or_false] at hn
  rcases hn with rfl | rfl | rfl
  · exact .inl rfl
  · exact .inr wellShaped_transaction
  · exact .inl rfl

theorem isNewest : IsNewest view env seed (view (.signatures address)) ["newer"] "fulfilment" where
  listed := ⟨["older"], rfl⟩
  newer := by
    intro n hn
    obtain rfl := List.mem_singleton.1 hn
    exact fun hfound => nomatch hfound.present
  found := ⟨rfl, succeeded, fulfills_of_isFulfillment (honest.isFulfillment topLevel)⟩

end Sample

namespace Client

open Plan Fulfillment

/-- The sample's fulfilment is found behind a transaction that is not returned, and the one behind it is not
asked for. -/
theorem newest_qualifying_found_sample :
    (∀ n ∈ Sample.view (.signatures Sample.address),
      Sample.view (.transaction n) = .null ∨ WellShaped (Sample.view (.transaction n))) ∧
    ((findFulfillment Sample.env (.address Sample.seed)).run (atRest Sample.view) (0 : Rat) ()).calls =
      [.signatures Sample.address, .transaction "newer", .transaction "fulfilment"] ∧
    ((findFulfillment Sample.env (.address Sample.seed)).run (atRest Sample.view) (0 : Rat) ()).result =
      .ok ("fulfilment", Sample.transaction) := by
  have hfinds := newest_qualifying_found Sample.resolve_eq Sample.randomnessAccount_eq Sample.shaped
    (atRest Sample.view) (0 : Rat) () (shown_atRest _ _ _ _)
  refine ⟨Sample.shaped, hfinds.calls_of_newest _ _ Sample.isNewest, ?_⟩
  exact (hfinds.found_iff _ _).2 ⟨rfl, _, Sample.isNewest⟩

end Client

end VrfClient
