import VrfClient.Fulfillment
import VrfClient.Proofs.Base58
import VrfClient.Proofs.Fields
import VrfClient.Proofs.Payload

/-!
Transactions as documents. `TopLevel`, `Succeeded`, `Calls` and `Carries` say in terms of the members of a
document what the loose inspection of a transaction finds, and `Fulfills` what makes it the fulfilment of a
request. Inspection is sound for every document (`fulfills_of_isFulfillment`); on a document of the shape
that a node returns, `WellShaped`, it never fails and finds a fulfilment exactly where there is one. -/

namespace VrfClient

theorem exists_of_anyM_eq_true {ε α : Type} {f : α → Except ε Bool} :
    ∀ {l : List α}, l.anyM f = .ok true → ∃ a ∈ l, f a = .ok true
  | [], h => by cases h
  | a :: l, h => by
    rw [List.anyM_cons, bind_eq_ok] at h
    obtain ⟨b, hb, h⟩ := h
    cases b with
    | true => exact ⟨a, by simp, hb⟩
    | false =>
      obtain ⟨c, hc, hfc⟩ := exists_of_anyM_eq_true h
      exact ⟨c, List.mem_cons_of_mem _ hc, hfc⟩

/-- A search whose tests never fail does not fail, and finds what is there. -/
theorem exists_anyM_eq_ok {ε α : Type} {f : α → Except ε Bool} :
    ∀ {l : List α}, (∀ a ∈ l, ∃ b, f a = .ok b) →
      ∃ b, l.anyM f = .ok b ∧ ∀ a ∈ l, f a = .ok true → b = true
  | [], _ => ⟨false, rfl, by simp⟩
  | a :: l, h => by
    obtain ⟨b, hb⟩ := h a (by simp)
    cases b with
    | true => exact ⟨true, by rw [List.anyM_cons, hb]; rfl, fun _ _ _ => rfl⟩
    | false =>
      obtain ⟨c, hc, hall⟩ := exists_anyM_eq_ok fun a ha => h a (List.mem_cons_of_mem _ ha)
      refine ⟨c, by rw [List.anyM_cons, hb]; exact hc, fun d hd hfd => ?_⟩
      rcases List.mem_cons.1 hd with rfl | hd
      · rw [hb] at hfd
        cases hfd
      · exact hall d hd hfd

namespace Json

def IsObject (j : Json) : Prop := ∃ members, j = .obj members

theorem IsObject.exists_member {j : Json} (h : j.IsObject) (name : String) :
    ∃ v, j.member name = .ok v := by
  obtain ⟨members, rfl⟩ := h
  exact ⟨_, rfl⟩

theorem isObject_of_member {j v : Json} {name : String} (h : j.member name = .ok v) :
    j.IsObject := by
  cases j with
  | obj members => exact ⟨members, rfl⟩
  | _ => cases h

/-- A document with a member that is not null does not count as absent. -/
theorem isAbsent_of_member {j v : Json} {name : String} (h : j.member name = .ok v)
    (hv : v ≠ .null) : j.isAbsent = false := by
  obtain ⟨members, rfl⟩ := isObject_of_member h
  cases members with
  | nil =>
    cases h
    exact absurd rfl hv
  | cons m ms => rfl

theorem orElse_of_member {j v : Json} {name : String} (h : j.member name = .ok v) (hv : v ≠ .null)
    (fallback : Json) : j.orElse fallback = j := by
  rw [orElse, isAbsent_of_member h hv]
  rfl

theorem orElse_eq (j fallback : Json) :
    (j.isAbsent = true ∧ j.orElse fallback = fallback) ∨ j.orElse fallback = j := by
  cases h : j.isAbsent with
  | true => exact .inl ⟨rfl, by simp [orElse, h]⟩
  | false => exact .inr (by simp [orElse, h])

/-- Only an array has objects among its items. -/
theorem eq_arr_of_items {j x : Json} {xs : List Json} (h : j.items = .ok xs) (hx : x ∈ xs)
    (hobj : x.IsObject) : j = .arr xs := by
  obtain ⟨ms, rfl⟩ := hobj
  cases j with
  | arr ys =>
    cases h
    rfl
  | str s =>
    cases h
    simp at hx
  | obj members =>
    cases h
    simp at hx
  | _ => cases h

theorem isText_iff {j : Json} {text : String} : j.isText text = true ↔ j = .str text := by
  cases j with
  | str s => simp [isText]
  | _ => simp [isText]

theorem isNull_iff {j : Json} : j.isNull = true ↔ j = .null := by
  cases j with
  | null => simp [isNull]
  | _ => simp [isNull]

end Json

namespace Fulfillment

/-! ### What a transaction says -/

/-- The top-level instructions of a transaction. -/
def TopLevel (tx : Json) (ixs : List Json) : Prop :=
  ∃ envelope message, tx.member "transaction" = .ok envelope ∧
    envelope.member "message" = .ok message ∧ message.member "instructions" = .ok (.arr ixs)

/-- The transaction has a status, and the error of the status is null or missing. -/
def Succeeded (tx : Json) : Prop :=
  ∃ status, tx.member "meta" = .ok status ∧ status ≠ .null ∧ status.member "err" = .ok .null

/-- The instruction is a call of the program with this text. -/
def Calls (program : String) (ix : Json) : Prop := ix.member "programId" = .ok (.str program)

/-- The instruction carries this payload, as base 58 text that blanks may follow. -/
def Carries (payload : Bytes) (ix : Json) : Prop :=
  ∃ text, ix.member "data" = .ok (.str text) ∧
    Base58.decode? (String.ofList (Text.trimEnd text.toList)) = some payload

/-- Among its top-level instructions the transaction has a fulfilment of the seed by the program, and a
companion. -/
def Fulfills (program : Address) (seed : Seed) (tx : Json) : Prop :=
  ∃ ixs, TopLevel tx ixs ∧
    (∃ ix ∈ ixs, Calls program.text ix ∧ ∃ signature, Carries (Payload.fulfillLayout seed signature) ix) ∧
    ∃ ix ∈ ixs, Calls Companion.program ix

/-! ### What inspection finds -/

theorem instructions_of_topLevel {tx : Json} {ixs : List Json} (h : TopLevel tx ixs) :
    instructions tx = .ok ixs := by
  obtain ⟨envelope, message, htx, henv, hmsg⟩ := h
  have hm : message ≠ .null := by
    rintro rfl
    cases hmsg
  have hitems : ((Json.arr ixs).orElse (.arr [])).items = .ok ixs := by
    cases ixs <;> rfl
  simp only [instructions, htx, henv, hmsg, bind, Except.bind, Json.orElse_of_member henv hm,
    Json.orElse_of_member hmsg (by simp), hitems]

/-- Where inspection finds an object among the instructions, they are the array that the document
holds: a default in place of a member has no instructions, and the items of a text or of an object are
no objects. -/
theorem topLevel_of_instructions {tx ix : Json} {ixs : List Json} (h : instructions tx = .ok ixs)
    (hix : ix ∈ ixs) (hobj : ix.IsObject) : TopLevel tx ixs := by
  simp only [instructions, bind_eq_ok] at h
  obtain ⟨envelope, htx, message, henv, list, hmsg, hitems⟩ := h
  obtain ⟨-, hl⟩ | hl := list.orElse_eq (.arr [])
  · rw [hl] at hitems
    cases hitems
    cases hix
  rw [hl] at hitems
  obtain rfl := Json.eq_arr_of_items hitems hix hobj
  obtain ⟨-, hm⟩ | hm := message.orElse_eq (.obj [])
  · rw [hm] at hmsg
    cases hmsg
  rw [hm] at hmsg
  obtain ⟨-, he⟩ | he := envelope.orElse_eq (.obj [])
  · rw [he] at henv
    cases henv
    cases hmsg
  rw [he] at henv
  exact ⟨envelope, message, htx, henv, hmsg⟩

theorem calls_eq_true_iff {program : String} {ix : Json} :
    calls program ix = .ok true ↔ Calls program ix := by
  simp only [calls, bind_eq_ok, Calls]
  constructor
  · rintro ⟨v, hv, h⟩
    cases h' : v.isText program with
    | true => rw [hv, Json.isText_iff.1 h']
    | false =>
      rw [h'] at h
      cases h
  · intro h
    exact ⟨_, h, by rw [Json.isText_iff.2 rfl]; rfl⟩

theorem instructionData_eq_some_iff {ix : Json} {payload : Bytes} :
    instructionData ix = .ok (some payload) ↔ Carries payload ix := by
  simp only [instructionData, bind_eq_ok, Carries]
  constructor
  · rintro ⟨v, hv, h⟩
    cases v with
    | str text => exact ⟨text, hv, Except.ok.inj h⟩
    | _ => cases h
  · rintro ⟨text, hv, h⟩
    exact ⟨_, hv, congrArg Except.ok h⟩

theorem fulfills_eq_true_iff {seed : Seed} {program : String} {ix : Json} :
    fulfills seed program ix = .ok true ↔
      Calls program ix ∧ ∃ signature, Carries (Payload.fulfillLayout seed signature) ix := by
  simp only [fulfills, bind_eq_ok]
  constructor
  · rintro ⟨called, hcalled, h⟩
    cases called with
    | false => cases h
    | true =>
      obtain ⟨data, hdata, h⟩ := bind_eq_ok.1 h
      cases data with
      | none => cases h
      | some data =>
        cases hd : Payload.decodeFulfill data with
        | error e =>
          simp only [hd] at h
          cases h
        | ok found =>
          obtain ⟨found, signature⟩ := found
          simp only [hd] at h
          obtain rfl : found = seed := by simpa [pure, Except.pure] using h
          rw [Payload.decodeFulfill_eq_ok_iff] at hd
          subst hd
          exact ⟨calls_eq_true_iff.1 hcalled, signature, instructionData_eq_some_iff.1 hdata⟩
  · rintro ⟨hcalled, signature, hdata⟩
    refine ⟨true, calls_eq_true_iff.2 hcalled, bind_eq_ok.2 ⟨_, instructionData_eq_some_iff.2 hdata, ?_⟩⟩
    simp only [Payload.decodeFulfill_eq_ok_iff.2 rfl, decide_true]
    rfl

/-- What inspection takes for a fulfilment is one. -/
theorem fulfills_of_isFulfillment {tx : Json} {seed : Seed} {program : Address}
    (h : isFulfillment tx seed program = .ok true) : Fulfills program seed tx := by
  simp only [isFulfillment, bind_eq_ok] at h
  obtain ⟨ixs, hixs, fulfilled, hf, accompanied, ha, h⟩ := h
  obtain ⟨rfl, rfl⟩ : fulfilled = true ∧ accompanied = true := by
    simpa [pure, Except.pure] using h
  obtain ⟨ix, hix, hfix⟩ := exists_of_anyM_eq_true hf
  obtain ⟨iy, hiy, hciy⟩ := exists_of_anyM_eq_true ha
  rw [fulfills_eq_true_iff] at hfix
  rw [calls_eq_true_iff] at hciy
  exact ⟨ixs, topLevel_of_instructions hixs hix (Json.isObject_of_member hfix.1), ⟨ix, hix, hfix⟩,
    iy, hiy, hciy⟩

theorem isFailed_eq_false_iff {tx : Json} : isFailed tx = .ok false ↔ Succeeded tx := by
  constructor
  · intro h
    unfold isFailed at h
    split at h
    · cases h
    · obtain ⟨status, hs, h⟩ := bind_eq_ok.1 h
      split at h
      · cases h
      · rename_i hn
        obtain ⟨e, he, h⟩ := bind_eq_ok.1 h
        have hnull : e.isNull = true := by simpa [pure, Except.pure] using h
        rw [Json.isNull_iff] at hnull
        subst hnull
        exact ⟨status, hs, fun h0 => hn (Json.isNull_iff.2 h0), he⟩
  · rintro ⟨status, hs, hn, he⟩
    have hn' : status.isNull = false := by
      rw [Bool.eq_false_iff]
      exact fun h0 => hn (Json.isNull_iff.1 h0)
    rw [isFailed, Json.isAbsent_of_member hs hn, hs]
    simp only [Bool.false_eq_true, if_false, bind, Except.bind, hn', he]
    rfl

/-! ### Documents of the shape that a node returns -/

/-- An object whose status is missing, null or an object, and whose instructions, unless something on
the way to them is missing or null, are an array of objects. -/
structure WellShaped (tx : Json) : Prop where
  isObject : tx.IsObject
  status : ∀ v, tx.member "meta" = .ok v → v = .null ∨ v.IsObject
  instructions : ∀ envelope, tx.member "transaction" = .ok envelope → envelope = .null ∨
    ∃ message, envelope.member "message" = .ok message ∧ (message = .null ∨
      ∃ list, message.member "instructions" = .ok list ∧ (list = .null ∨
        ∃ ixs, list = .arr ixs ∧ ∀ ix ∈ ixs, ix.IsObject))

theorem WellShaped.exists_instructions {tx : Json} (h : WellShaped tx) :
    ∃ ixs, Fulfillment.instructions tx = .ok ixs ∧ ∀ ix ∈ ixs, ix.IsObject := by
  obtain ⟨envelope, htx⟩ := h.isObject.exists_member "transaction"
  rcases h.instructions envelope htx with rfl | ⟨message, henv, rfl | ⟨list, hmsg, rfl | ⟨ixs, rfl, hixs⟩⟩⟩
  · exact ⟨[], by simp only [Fulfillment.instructions, htx]; rfl, by simp⟩
  · refine ⟨[], ?_, by simp⟩
    simp only [Fulfillment.instructions, htx, bind, Except.bind]
    obtain ⟨-, he⟩ | he := envelope.orElse_eq (.obj [])
    · rw [he]
      rfl
    · rw [he, henv]
      rfl
  · have hm : message ≠ .null := by
      rintro rfl
      cases hmsg
    refine ⟨[], ?_, by simp⟩
    simp only [Fulfillment.instructions, htx, bind, Except.bind, Json.orElse_of_member henv hm, henv]
    obtain ⟨-, hm'⟩ | hm' := message.orElse_eq (.obj [])
    · rw [hm']
      rfl
    · rw [hm', hmsg]
      rfl
  · exact ⟨ixs, instructions_of_topLevel ⟨envelope, message, htx, henv, hmsg⟩, hixs⟩

section Objects

variable {tx : Json} {ixs : List Json} (hixs : instructions tx = .ok ixs)
  (hobj : ∀ ix ∈ ixs, ix.IsObject)

include hobj

theorem exists_calls_eq_ok (program : String) : ∀ ix ∈ ixs, ∃ b, calls program ix = .ok b := by
  intro ix hix
  obtain ⟨v, hv⟩ := (hobj ix hix).exists_member "programId"
  exact ⟨_, by rw [calls, hv]; rfl⟩

theorem exists_instructionData_eq_ok : ∀ ix ∈ ixs, ∃ d, instructionData ix = .ok d := by
  intro ix hix
  obtain ⟨v, hv⟩ := (hobj ix hix).exists_member "data"
  simp only [instructionData, hv, bind, Except.bind]
  cases v <;> exact ⟨_, rfl⟩

theorem exists_fulfills_eq_ok (seed : Seed) (program : String) :
    ∀ ix ∈ ixs, ∃ b, fulfills seed program ix = .ok b := by
  intro ix hix
  obtain ⟨called, hcalled⟩ := exists_calls_eq_ok hobj program ix hix
  obtain ⟨data, hdata⟩ := exists_instructionData_eq_ok hobj ix hix
  simp only [fulfills, hcalled, hdata, bind, Except.bind]
  cases called with
  | false => exact ⟨_, rfl⟩
  | true =>
    cases data with
    | none => exact ⟨_, rfl⟩
    | some data =>
      cases h : Payload.decodeFulfill data with
      | error e => exact ⟨false, by simp [h, pure, Except.pure]⟩
      | ok found => exact ⟨decide (found.1 = seed), by simp [h, pure, Except.pure]⟩

include hixs

/-- Over objects inspection does not fail, and finds a fulfilment where there is one. -/
theorem isFulfillment_of_fulfills {seed : Seed} {program : Address} (h : Fulfills program seed tx) :
    isFulfillment tx seed program = .ok true := by
  obtain ⟨ixs', htop, ⟨ix, hix, hfix⟩, iy, hiy, hciy⟩ := h
  obtain rfl : ixs = ixs' := Except.ok.inj (hixs.symm.trans (instructions_of_topLevel htop))
  obtain ⟨b, hb, hbt⟩ := exists_anyM_eq_ok (exists_fulfills_eq_ok hobj seed program.text)
  obtain ⟨c, hc, hct⟩ := exists_anyM_eq_ok (exists_calls_eq_ok hobj Companion.program)
  obtain rfl := hbt ix hix (fulfills_eq_true_iff.2 hfix)
  obtain rfl := hct iy hiy (calls_eq_true_iff.2 hciy)
  simp only [isFulfillment, hixs, hb, hc, bind, Except.bind]
  rfl

theorem isFulfillment_of_not_fulfills {seed : Seed} {program : Address}
    (h : ¬ Fulfills program seed tx) : isFulfillment tx seed program = .ok false := by
  obtain ⟨b, hb, -⟩ := exists_anyM_eq_ok (exists_fulfills_eq_ok hobj seed program.text)
  obtain ⟨c, hc, -⟩ := exists_anyM_eq_ok (exists_calls_eq_ok hobj Companion.program)
  have hd : isFulfillment tx seed program = .ok (b && c) := by
    simp only [isFulfillment, hixs, hb, hc, bind, Except.bind]
    rfl
  cases hbc : (b && c) with
  | true => exact absurd (fulfills_of_isFulfillment (hd.trans (by rw [hbc]))) h
  | false => rw [hd, hbc]

end Objects

end Fulfillment

end VrfClient
