import VrfClient.Proofs.Document
import VrfClient.Proofs.Lookup

/-!
The scan over a history. Each step asks for one transaction, and `judge` says what the document that comes
back does to the scan: it ends with this transaction, it ends with an error, or it goes on
(`reaches_scan_cons`). So what the scan gives is a fulfilment from the list (`exists_of_scan`). On a ledger
at rest it is the first one (`scan_of_first`), or there is none (`scan_of_none`). -/

namespace VrfClient

namespace Fulfillment

/-- Whether a document ends the scan: true if it is the fulfilment, false if it is passed over. -/
def judge (program : Address) (seed : Seed) (tx : Json) : Except Json.Misuse Bool := do
  if tx.isAbsent then return false
  if (← tx.member "meta").isNull then return false
  if ← isFailed tx then return false
  isFulfillment tx seed program

/-- A document that ends the scan succeeded and fulfils the seed. -/
theorem succeeded_and_fulfills_of_judge {program : Address} {seed : Seed} {tx : Json}
    (h : judge program seed tx = .ok true) : Succeeded tx ∧ Fulfills program seed tx := by
  unfold judge at h
  split at h
  · cases h
  · obtain ⟨status, -, h⟩ := bind_eq_ok.1 h
    split at h
    · cases h
    · obtain ⟨failed, hfailed, h⟩ := bind_eq_ok.1 h
      cases failed with
      | true => cases h
      | false => exact ⟨isFailed_eq_false_iff.1 hfailed, fulfills_of_isFulfillment h⟩

/-- A document that succeeded is judged by its instructions. -/
theorem judge_of_succeeded {program : Address} {seed : Seed} {tx : Json} (h : Succeeded tx) :
    judge program seed tx = isFulfillment tx seed program := by
  have hfailed := isFailed_eq_false_iff.2 h
  obtain ⟨status, hs, hn, -⟩ := h
  have hn' : status.isNull = false := by
    rw [Bool.eq_false_iff]
    exact fun h0 => hn (Json.isNull_iff.1 h0)
  simp only [judge, Json.isAbsent_of_member hs hn, hs, hn', hfailed, bind, Except.bind,
    Bool.false_eq_true, if_false]

/-- A document that a scan passes over: the transaction was not returned, has no status or failed, or
it is one of the expected shape that does not fulfil the seed. -/
inductive PassedOver (program : Address) (seed : Seed) (tx : Json) : Prop
  | notReturned : tx.isAbsent = true → PassedOver program seed tx
  | noStatus : tx.member "meta" = .ok .null → PassedOver program seed tx
  | failed (status fault : Json) : tx.member "meta" = .ok status →
      status.member "err" = .ok fault → fault ≠ .null → PassedOver program seed tx
  | other : WellShaped tx → ¬ Fulfills program seed tx → PassedOver program seed tx

theorem judge_of_passedOver {program : Address} {seed : Seed} {tx : Json}
    (h : PassedOver program seed tx) : judge program seed tx = .ok false := by
  cases ha : tx.isAbsent with
  | true =>
    rw [judge, ha]
    rfl
  | false =>
    cases h with
    | notReturned h => rw [ha] at h; cases h
    | noStatus hs =>
      rw [judge, ha, hs]
      rfl
    | failed status fault hs he hn =>
      have hfailed : isFailed tx = .ok true := by
        have hnull : fault.isNull = false := by
          rw [Bool.eq_false_iff]
          exact fun h0 => hn (Json.isNull_iff.1 h0)
        obtain ⟨members, rfl⟩ := Json.isObject_of_member he
        simp only [isFailed, ha, hs, he, hnull, bind, Except.bind]
        rfl
      obtain ⟨members, rfl⟩ := Json.isObject_of_member he
      simp only [judge, ha, hs, hfailed, bind, Except.bind]
      rfl
    | other hshape hnot =>
      obtain ⟨ixs, hixs, hobj⟩ := hshape.exists_instructions
      obtain ⟨status, hs⟩ := hshape.isObject.exists_member "meta"
      rcases hshape.status status hs with rfl | hstatus
      · rw [judge, ha, hs]
        rfl
      · obtain ⟨fault, he⟩ := hstatus.exists_member "err"
        obtain ⟨members, rfl⟩ := hstatus
        simp only [judge, isFailed, ha, hs, he, bind, Except.bind,
          isFulfillment_of_not_fulfills hixs hobj hnot]
        cases fault.isNull <;> rfl

end Fulfillment

namespace Client

open Plan Fulfillment

variable {τ : Type} {env : Env} {seed : Seed}

/-! An inspection asks nothing. -/

@[simp] theorem reaches_inspect_ok_bind {α β : Type} {a : α} {f : α → Plan Ledger.service τ β}
    {x : List (Exchange Ledger.service)} {r : Except Error β} :
    Reaches (inspect (.ok a) >>= f) x r ↔ Reaches (f a) x r := Iff.rfl

@[simp] theorem reaches_inspect_error_bind {α β : Type} {e : Json.Misuse}
    {f : α → Plan Ledger.service τ β} {x : List (Exchange Ledger.service)} {r : Except Error β} :
    Reaches (inspect (.error e) >>= f) x r ↔ x = [] ∧ r = .error (.misuse e) := reaches_done

/-- A step of the scan asks for one transaction; what comes back ends the scan or is passed over. -/
theorem reaches_scan_cons {address : Address} {listed : Nat} {signature : String}
    {older : List String} {x : List (Exchange Ledger.service)} {r : Except Error (String × Json)}
    (h : Reaches (τ := τ) (scan env seed address listed (signature :: older)) x r) :
    (∃ e, x = [⟨.transaction signature, .error e⟩] ∧ r = .error e) ∨
      ∃ tx y, x = ⟨.transaction signature, .ok tx⟩ :: y ∧
        match judge env.program seed tx with
        | .error e => y = [] ∧ r = .error (.misuse e)
        | .ok true => y = [] ∧ r = .ok (signature, tx)
        | .ok false => Reaches (τ := τ) (scan env seed address listed older) y r := by
  rcases h.of_bind with ⟨e, he, rfl⟩ | ⟨tx, x₁, y, h₁, hnext, rfl⟩
  · exact .inl ⟨e, reaches_call.1 he, rfl⟩
  obtain rfl := reaches_call.1 h₁
  refine .inr ⟨tx, y, rfl, ?_⟩
  cases ha : tx.isAbsent with
  | true => simpa [judge, ha] using hnext
  | false =>
    cases hs : tx.member "meta" with
    | error e => simpa [judge, ha, hs] using hnext
    | ok status =>
      cases hn : status.isNull with
      | true => simpa [judge, ha, hs, hn] using hnext
      | false =>
        cases hf : isFailed tx with
        | error e => simpa [judge, ha, hs, hn, hf] using hnext
        | ok failed =>
          cases failed with
          | true => simpa [judge, ha, hs, hn, hf] using hnext
          | false =>
            cases hi : isFulfillment tx seed env.program with
            | error e => simpa [judge, ha, hs, hn, hf, hi] using hnext
            | ok found => cases found <;> simpa [judge, ha, hs, hn, hf, hi] using hnext

/-- What a scan gives was listed, and is a fulfilment as the ledger returned it. -/
theorem exists_of_scan {address : Address} {listed : Nat} {found : String × Json} :
    ∀ {names : List String} {x : List (Exchange Ledger.service)},
      Reaches (τ := τ) (scan env seed address listed names) x (.ok found) →
      found.1 ∈ names ∧ ⟨.transaction found.1, .ok found.2⟩ ∈ x ∧ Succeeded found.2 ∧
        Fulfills env.program seed found.2
  | [], x, h => by
    cases (reaches_fail.1 h).2
  | name :: older, x, h => by
    rcases reaches_scan_cons h with ⟨e, -, he⟩ | ⟨tx, y, rfl, hnext⟩
    · cases he
    cases hj : judge env.program seed tx with
    | error e =>
      simp only [hj] at hnext
      cases hnext.2
    | ok ended =>
      cases ended with
      | true =>
        simp only [hj] at hnext
        cases hnext.2
        exact ⟨by simp, by simp, succeeded_and_fulfills_of_judge hj⟩
      | false =>
        simp only [hj] at hnext
        obtain ⟨hmem, hasked, hrest⟩ := exists_of_scan hnext
        exact ⟨List.mem_cons_of_mem _ hmem, List.mem_cons_of_mem _ hasked, hrest⟩

section AtRest

variable {view : (c : Ledger.Call) → c.Reply} {address : Address} {listed : Nat} {name : String}

/-- On a ledger at rest a step of the scan asks for the transaction that the ledger holds. -/
theorem reaches_scan_cons_of_shown {older : List String} {ended : Bool}
    (hjudge : judge env.program seed (view (.transaction name)) = .ok ended)
    {x : List (Exchange Ledger.service)} {r : Except Error (String × Json)} (hx : Shown view x)
    (h : Reaches (τ := τ) (scan env seed address listed (name :: older)) x r) :
    ∃ y, x = ⟨.transaction name, .ok (view (.transaction name))⟩ :: y ∧ Shown view y ∧
      match ended with
      | true => y = [] ∧ r = .ok (name, view (.transaction name))
      | false => Reaches (τ := τ) (scan env seed address listed older) y r := by
  rcases reaches_scan_cons h with ⟨e, rfl, -⟩ | ⟨tx, y, rfl, hnext⟩
  · cases (shown_cons.1 hx).1
  · obtain rfl : tx = view (.transaction name) := Except.ok.inj (shown_cons.1 hx).1
    simp only [hjudge] at hnext
    cases ended with
    | true => exact ⟨y, rfl, (shown_cons.1 hx).2, hnext⟩
    | false => exact ⟨y, rfl, (shown_cons.1 hx).2, hnext⟩

/-- A scan that meets only documents to pass over before a fulfilment gives this fulfilment, and asks for
nothing behind it. -/
theorem scan_of_first {older : List String}
    (hfound : judge env.program seed (view (.transaction name)) = .ok true) :
    ∀ {newer : List String} {x : List (Exchange Ledger.service)} {r : Except Error (String × Json)},
      (∀ n ∈ newer, judge env.program seed (view (.transaction n)) = .ok false) → Shown view x →
      Reaches (τ := τ) (scan env seed address listed (newer ++ name :: older)) x r →
      x.map Exchange.call = (newer ++ [name]).map Ledger.Call.transaction ∧
        r = .ok (name, view (.transaction name))
  | [], x, r, _, hx, h => by
    obtain ⟨y, rfl, -, rfl, rfl⟩ := reaches_scan_cons_of_shown hfound hx h
    exact ⟨rfl, rfl⟩
  | n :: newer, x, r, hnewer, hx, h => by
    obtain ⟨y, rfl, hy, hnext⟩ := reaches_scan_cons_of_shown (hnewer n (by simp)) hx h
    obtain ⟨hcalls, hr⟩ := scan_of_first hfound (fun m hm => hnewer m (List.mem_cons_of_mem _ hm))
      hy hnext
    exact ⟨congrArg (Ledger.Call.transaction n :: ·) hcalls, hr⟩

/-- A scan that meets nothing but documents to pass over asks for all of them, and says that there is no
fulfilment. -/
theorem scan_of_none :
    ∀ {names : List String} {x : List (Exchange Ledger.service)} {r : Except Error (String × Json)},
      (∀ n ∈ names, judge env.program seed (view (.transaction n)) = .ok false) → Shown view x →
      Reaches (τ := τ) (scan env seed address listed names) x r →
      x.map Exchange.call = names.map Ledger.Call.transaction ∧ r = .error (.noFulfillment seed listed)
  | [], x, r, _, _, h => by
    obtain ⟨rfl, rfl⟩ := reaches_fail.1 h
    exact ⟨rfl, rfl⟩
  | n :: names, x, r, hnames, hx, h => by
    obtain ⟨y, rfl, hy, hnext⟩ := reaches_scan_cons_of_shown (hnames n (by simp)) hx h
    obtain ⟨hcalls, hr⟩ := scan_of_none (fun m hm => hnames m (List.mem_cons_of_mem _ hm)) hy hnext
    exact ⟨congrArg (Ledger.Call.transaction n :: ·) hcalls, hr⟩

end AtRest

/-- Whatever form the seed has, it is looked for by its address. -/
theorem reaches_findFulfillment_address {form : SeedForm} (hform : form.resolve = .ok seed)
    {x : List (Exchange Ledger.service)} {r : Except Error (String × Json)}
    (h : Reaches (τ := τ) (findFulfillment env form) x r) :
    Reaches (τ := τ) (findFulfillment env (.address seed)) x r :=
  (reaches_resolve_bind rfl).2 ((reaches_resolve_bind hform).1 h)

/-- Looking for a fulfilment asks for the history of the address of the seed, and scans it. -/
theorem reaches_findFulfillment {address : Address} (ha : env.randomnessAccount? seed = some address)
    {x : List (Exchange Ledger.service)} {r : Except Error (String × Json)}
    (h : Reaches (τ := τ) (findFulfillment env (.address seed)) x r) :
    (∃ e, x = [⟨.signatures address, .error e⟩] ∧ r = .error e) ∨
      ∃ listed y, x = ⟨.signatures address, .ok listed⟩ :: y ∧
        ((listed = [] ∧ y = [] ∧ r = .error (.noTransactions seed address)) ∨
          listed ≠ [] ∧ Reaches (τ := τ) (scan env seed address listed.length listed) y r) := by
  have hasked := (reaches_randomnessAddress_bind ha).1 ((reaches_resolve_bind rfl).1 h)
  rcases hasked.of_bind with ⟨e, he, rfl⟩ | ⟨listed, x₁, y, h₁, hnext, rfl⟩
  · exact .inl ⟨e, reaches_call.1 he, rfl⟩
  · obtain rfl := reaches_call.1 h₁
    refine .inr ⟨listed, y, rfl, ?_⟩
    cases listed with
    | nil =>
      obtain ⟨rfl, rfl⟩ := reaches_fail.1 hnext
      exact .inl ⟨rfl, rfl, rfl⟩
    | cons name older => exact .inr ⟨List.cons_ne_nil name older, hnext⟩

/-- On a ledger at rest, what is found is the first that is not passed over. -/
theorem findFulfillment_eq_ok {address : Address} {view : (c : Ledger.Call) → c.Reply}
    {newer older : List String} {name : String} (ha : env.randomnessAccount? seed = some address)
    (hfound : judge env.program seed (view (.transaction name)) = .ok true)
    (hnewer : ∀ n ∈ newer, judge env.program seed (view (.transaction n)) = .ok false)
    (hlisted : view (.signatures address) = newer ++ name :: older)
    {x : List (Exchange Ledger.service)} {r : Except Error (String × Json)} (hx : Shown view x)
    (h : Reaches (τ := τ) (findFulfillment env (.address seed)) x r) :
    r = .ok (name, view (.transaction name)) := by
  rcases reaches_findFulfillment ha h with ⟨e, rfl, -⟩ | ⟨listed, y, rfl, hnext⟩
  · cases (shown_cons.1 hx).1
  obtain ⟨hanswer, hy⟩ := shown_cons.1 hx
  obtain rfl : listed = newer ++ name :: older := (Except.ok.inj hanswer).trans hlisted
  rcases hnext with ⟨hnil, -, -⟩ | ⟨-, hscan⟩
  · simp at hnil
  · exact (scan_of_first hfound hnewer hy hscan).2

theorem reaches_findFulfillment_of_none (ha : env.randomnessAccount? seed = none)
    {x : List (Exchange Ledger.service)} {r : Except Error (String × Json)}
    (h : Reaches (τ := τ) (findFulfillment env (.address seed)) x r) :
    x = [] ∧ r = .error (.noViableBump env.program) :=
  (reaches_randomnessAddress_bind_none ha).1 ((reaches_resolve_bind rfl).1 h)

/-- What is found was listed in the history of the address, and is a fulfilment. -/
theorem exists_of_findFulfillment {x : List (Exchange Ledger.service)} {found : String × Json}
    (h : Reaches (τ := τ) (findFulfillment env (.address seed)) x (.ok found)) :
    ∃ address listed, env.randomnessAccount? seed = some address ∧
      ⟨.signatures address, .ok listed⟩ ∈ x ∧ found.1 ∈ listed ∧
      ⟨.transaction found.1, .ok found.2⟩ ∈ x ∧ Succeeded found.2 ∧
        Fulfills env.program seed found.2 := by
  cases ha : env.randomnessAccount? seed with
  | none => cases (reaches_findFulfillment_of_none ha h).2
  | some address =>
    rcases reaches_findFulfillment ha h with ⟨e, -, he⟩ | ⟨listed, y, rfl, ⟨-, -, he⟩ | ⟨-, hscan⟩⟩
    · cases he
    · cases he
    · obtain ⟨hname, hasked, hgood⟩ := exists_of_scan hscan
      exact ⟨address, listed, rfl, by simp, hname, List.mem_cons_of_mem _ hasked, hgood⟩

end Client

end VrfClient
