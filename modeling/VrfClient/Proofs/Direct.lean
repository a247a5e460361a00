import VrfClient.Proofs.Requesting

/-!
Plans that end with the first failure. A plan is direct when, whatever it asks, a failure for an answer is
its result, and nothing is asked or told after it: no question is asked again, and no failure is made up
for. Being direct is closed under sequence, so one line for each operation of the client shows that all of
them are; the kind of question that they ask is carried along, and only a request submits. -/

namespace VrfClient

namespace Plan

variable {S : Service} {τ α β : Type} {asks : S.Call → Prop}

/-- The plan asks questions of this kind only, and the first failure to answer one is its result. -/
inductive Direct (asks : S.Call → Prop) : Plan S τ α → Prop
  | done (r : Except Error α) : Direct asks (.done r)
  | ask {c : S.Call} {k : Except Error (S.Reply c) → Plan S τ α} : asks c →
      (∀ e, k (.error e) = .done (.error e)) → (∀ a, Direct asks (k (.ok a))) → Direct asks (.ask c k)
  | tell {n : Note} {p : Plan S τ α} : Direct asks p → Direct asks (.tell n p)
  | now {k : τ → Plan S τ α} : (∀ t, Direct asks (k t)) → Direct asks (.now k)
  | sleep {d : τ} {p : Plan S τ α} : Direct asks p → Direct asks (.sleep d p)

namespace Direct

theorem bind {p : Plan S τ α} {f : α → Plan S τ β} (hp : Direct asks p)
    (hf : ∀ a, Direct asks (f a)) : Direct asks (p >>= f) := by
  induction hp with
  | done r =>
    cases r with
    | ok a => exact hf a
    | error e => exact .done _
  | ask hc hfail _ ih =>
    refine .ask hc (fun e => ?_) ih
    rw [hfail e]
    rfl
  | tell _ ih => exact .tell ih
  | now _ ih => exact .now ih
  | sleep _ ih => exact .sleep ih

/-- What is allowed to ask less is allowed to ask more. -/
theorem mono {more : S.Call → Prop} {p : Plan S τ α} (hp : Direct asks p)
    (h : ∀ c, asks c → more c) : Direct more p := by
  induction hp with
  | done r => exact .done r
  | ask hc hfail _ ih => exact .ask (h _ hc) hfail ih
  | tell _ ih => exact .tell ih
  | now _ ih => exact .now ih
  | sleep _ ih => exact .sleep ih

/-- However it is answered, a direct plan asks questions of its kind. -/
theorem asks_of_mem {p : Plan S τ α} (hp : Direct asks p) {x : List (Exchange S)}
    {r : Except Error α} (h : Reaches p x r) : ∀ e ∈ x, asks e.call := by
  induction h with
  | done r => exact List.forall_mem_nil _
  | @ask c k a x r h ih =>
    cases hp with
    | ask hc hfail hk =>
      refine List.forall_mem_cons.2 ⟨hc, ?_⟩
      cases a with
      | ok a => exact ih (hk a)
      | error e => exact ih (hfail e ▸ .done _)
  | tell h ih =>
    cases hp with
    | tell hp => exact ih hp
  | now h ih =>
    cases hp with
    | now hk => exact ih (hk _)
  | sleep h ih =>
    cases hp with
    | sleep hp => exact ih hp

end Direct

theorem direct_require (e : Error) (a : Option α) : Direct (τ := τ) asks (require e a) := by
  cases a <;> exact .done _

theorem direct_call {c : S.Call} (hc : asks c) : Direct (τ := τ) asks (call c) :=
  .ask hc (fun _ => rfl) fun _ => .done _

theorem direct_log {level : Level} {channel : Channel} {text : String} :
    Direct (τ := τ) asks (log level channel text) := .tell (.done _)

theorem direct_clock : Direct (τ := τ) asks clock := .now fun _ => .done _

theorem direct_wait (d : τ) : Direct asks (wait d) := .sleep (.done _)

end Plan

namespace Client

open Plan

variable {τ : Type} {env : Env} {form : SeedForm}

/-! ### The operations -/

/-- A question that submits nothing. -/
def IsQuery : Ledger.service.Call → Prop
  | .send _ => False
  | _ => True

/-- A question for the account of a seed. -/
def AsksAccount (env : Env) (seed : Seed) (c : Ledger.service.Call) : Prop :=
  ∃ a, env.randomnessAccount? seed = some a ∧ c = .accountData a

theorem AsksAccount.isQuery {seed : Seed} {c : Ledger.service.Call} (h : AsksAccount env seed c) :
    IsQuery c := by
  obtain ⟨a, -, rfl⟩ := h
  trivial

theorem direct_accountData (a : Address) : Direct (τ := τ) IsQuery (Ledger.accountData a) :=
  direct_call trivial

theorem direct_latestBlockhash : Direct (τ := τ) IsQuery Ledger.latestBlockhash :=
  direct_call trivial

theorem direct_signatures (a : Address) : Direct (τ := τ) IsQuery (Ledger.signatures a) :=
  direct_call trivial

theorem direct_transaction (name : String) : Direct (τ := τ) IsQuery (Ledger.transaction name) :=
  direct_call trivial

theorem direct_configAddress : Direct (τ := τ) IsQuery (configAddress env) :=
  (direct_require _ _).bind fun _ => direct_log.bind fun _ => .done _

theorem direct_configData : Direct (τ := τ) IsQuery (configData env) :=
  direct_configAddress.bind fun _ => (direct_accountData _).bind fun _ => direct_require _ _

theorem direct_networkConfig : Direct (τ := τ) IsQuery (networkConfig env) :=
  direct_configData.bind fun _ => .done _

theorem direct_lookup (seed : Seed) : Direct (τ := τ) (AsksAccount env seed) (lookup env seed) := by
  unfold lookup randomnessAddress
  cases ha : env.randomnessAccount? seed with
  | none => exact .done _
  | some a =>
    refine (direct_call ⟨a, ha, rfl⟩).bind fun found => ?_
    cases found with
    | none => exact .done _
    | some data => exact .bind (.done _) fun _ => .done _

theorem direct_get : Direct (τ := τ) IsQuery (get env form) :=
  .bind (.done _) fun _ => ((direct_lookup _).mono fun _ h => h.isQuery).bind fun _ =>
    direct_require _ _

theorem direct_requestInstruction (payer treasury : Address) :
    Direct (τ := τ) IsQuery (requestInstruction env form payer treasury) :=
  .bind (.done _) fun _ => (direct_require _ _).bind fun _ =>
    direct_configAddress.bind fun _ => .done _

theorem direct_build (signer : Signer) : Direct (τ := τ) IsQuery (build env signer form) :=
  (direct_require _ _).bind fun _ =>
    (direct_configData.bind fun _ => .done _).bind fun _ =>
      (direct_requestInstruction _ _).bind fun _ =>
        direct_latestBlockhash.bind fun _ => (direct_require _ _).bind fun _ => .done _

/-- A request is the one operation that may ask anything. -/
theorem direct_request (signer : Signer) :
    Direct (τ := τ) (fun _ => True) (request env signer form) := by
  refine .bind (.done _) fun seed => ((direct_lookup seed).mono fun _ _ => trivial).bind fun found => ?_
  cases found.2 with
  | some r => exact direct_log.bind fun _ => .done _
  | none =>
    exact ((direct_build signer).mono fun _ _ => trivial).bind fun tx => direct_log.bind fun _ =>
      (direct_call trivial).bind fun _ => direct_log.bind fun _ => .done _

theorem direct_poll (seed : Seed) : Direct (τ := τ) (AsksAccount env seed) (poll env seed) := by
  refine (direct_lookup seed).bind fun found => ?_
  cases found.2 with
  | none => exact direct_log.bind fun _ => .done _
  | some r =>
    dsimp only
    split
    · exact .done _
    · exact direct_log.bind fun _ => .done _

theorem direct_pollUntil [Clock τ] (seed : Seed) (timeout interval deadline : τ) (count : Nat) :
    Direct (AsksAccount env seed) (pollUntil env seed timeout interval deadline count) := by
  induction count with
  | zero => exact .done _
  | succ count ih =>
    refine (direct_poll seed).bind fun found => ?_
    cases found with
    | some r => exact .done _
    | none =>
      refine direct_clock.bind fun now => ?_
      split
      · exact .done _
      · exact (direct_wait _).bind fun _ => ih

/-- Waiting for a seed asks for its account, and for nothing else. -/
theorem direct_waitFor_seed [Clock τ] {seed : Seed} (hform : form.resolve = .ok seed)
    (timeout interval : τ) : Direct (AsksAccount env seed) (waitFor env form timeout interval) := by
  rw [waitFor, resolve, hform]
  exact direct_clock.bind fun _ => direct_pollUntil _ _ _ _ _

theorem direct_waitFor [Clock τ] (timeout interval : τ) :
    Direct IsQuery (waitFor env form timeout interval) :=
  .bind (.done _) fun seed => direct_clock.bind fun _ =>
    (direct_pollUntil seed _ _ _ _).mono fun _ h => h.isQuery

theorem direct_scan (seed : Seed) (address : Address) (listed : Nat) (names : List String) :
    Direct (τ := τ) IsQuery (scan env seed address listed names) := by
  induction names with
  | nil => exact .done _
  | cons name older ih =>
    have hpassed : ∀ text, Direct (τ := τ) IsQuery (log .warning .verify text >>= fun _ =>
        scan env seed address listed older) := fun _ => direct_log.bind fun _ => ih
    refine (direct_transaction name).bind fun tx => ?_
    split
    · exact hpassed _
    refine .bind (.done _) fun status => ?_
    split
    · exact hpassed _
    refine .bind (.done _) fun failed => ?_
    split
    · exact hpassed _
    refine .bind (.done _) fun found => ?_
    split
    · exact direct_log.bind fun _ => .done _
    · exact direct_log.bind fun _ => ih

theorem direct_findFulfillment : Direct (τ := τ) IsQuery (findFulfillment env form) := by
  refine .bind (.done _) fun seed => (direct_require _ _).bind fun address =>
    (direct_signatures address).bind fun listed => ?_
  split
  · exact .done _
  · exact direct_scan _ _ _ _

theorem direct_reportElsewhere (is : List Nat) : Direct (τ := τ) IsQuery (reportElsewhere is) := by
  induction is with
  | nil => exact .done _
  | cons i is ih => exact direct_log.bind fun _ => ih

theorem direct_verifyFulfillment (tx : Json) (signature : Bytes) :
    Direct (τ := τ) IsQuery (verifyFulfillment tx form signature) := by
  refine .bind (.done _) fun seed => ?_
  split
  · exact (direct_reportElsewhere _).bind fun _ => .done _
  · exact .done _

theorem direct_verify (randomness : Randomness) :
    Direct (τ := τ) IsQuery (verify env form randomness) := by
  refine .bind (.done _) fun seed => ?_
  cases randomness.randomness with
  | none => exact .done _
  | some signature =>
    exact direct_findFulfillment.bind fun found =>
      (direct_verifyFulfillment _ _).bind fun _ => direct_log

/-! ### What is submitted -/

/-- A plan that asks queries only submits nothing. -/
theorem submissions_eq_nil_of_direct {α : Type} {p : Ledger.Action τ α} (hp : Direct IsQuery p)
    {x : List (Exchange Ledger.service)} {r : Except Error α} (h : Reaches p x r) :
    submissions x = [] := by
  have hasks := hp.asks_of_mem h
  clear h
  induction x with
  | nil => rfl
  | cons e x ih =>
    obtain ⟨hquery, hrest⟩ := List.forall_mem_cons.1 hasks
    obtain ⟨c, a⟩ := e
    cases c with
    | send tx => exact hquery.elim
    | _ => exact ih hrest

end Client

end VrfClient
