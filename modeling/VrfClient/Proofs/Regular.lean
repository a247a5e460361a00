import VrfClient.Proofs.Document
import VrfClient.Proofs.Lasting

/-!
Regular ledgers. A ledger is regular from some moment on when its questions fail only in transport and
every transaction that it returns is null or well shaped; accounts, histories and everything else may hold
anything. Regularity is a property of the answers, so a run against a regular ledger has a transcript of
regular answers. The ledger in memory is regular as long as its faults and its transactions are, since no
question changes either. -/

namespace VrfClient.Ledger

open Plan Fulfillment

variable {τ σ α : Type}

/-- An answer that a regular ledger may give: a failure of the transport, a transaction that is null or
well shaped, or anything to another question. -/
inductive RegularAnswer : Exchange service → Prop
  | failed (c : Call) (fault : TransportFault) : RegularAnswer ⟨c, .error (.transport fault)⟩
  | accountData (a : Address) (found : Option Bytes) : RegularAnswer ⟨.accountData a, .ok found⟩
  | latestBlockhash (blockhash : Octets 32) : RegularAnswer ⟨.latestBlockhash, .ok blockhash⟩
  | sent (tx : Bytes) (signature : String) : RegularAnswer ⟨.send tx, .ok signature⟩
  | signatures (a : Address) (names : List String) : RegularAnswer ⟨.signatures a, .ok names⟩
  | transaction (name : String) (tx : Json) : tx = .null ∨ WellShaped tx →
      RegularAnswer ⟨.transaction name, .ok tx⟩

/-- Every answer is regular from this moment on. -/
def Regular [Clock τ] (m : Model service τ σ) (t : τ) (s : σ) : Prop :=
  ∀ t' s' c, Later m t s t' s' → RegularAnswer ⟨c, (m.answer c t' s').1⟩

/-- A regular answer that is an error is one of the transport. -/
theorem RegularAnswer.eq_transport {c : Call} {e : Error}
    (h : RegularAnswer ⟨c, .error e⟩) : ∃ fault, e = .transport fault := by
  generalize hx : (⟨c, .error e⟩ : Exchange service) = x at h
  cases h with
  | failed c' fault =>
    cases hx
    exact ⟨fault, rfl⟩
  | _ => cases hx

theorem RegularAnswer.shaped {name : String} {tx : Json}
    (h : RegularAnswer ⟨.transaction name, .ok tx⟩) : tx = .null ∨ WellShaped tx := by
  cases h with
  | transaction name tx h => exact h

section Regular

variable [Clock τ] {m : Model service τ σ} {t : τ} {s : σ}

/-- The answers of a run against a regular ledger are regular. -/
theorem Regular.transcript (h : Regular m t s) (p : Ledger.Action τ α) :
    ∀ e ∈ p.transcript m t s, RegularAnswer e := by
  intro e he
  obtain ⟨t', s', hl, hanswer, -⟩ := exists_later_of_mem_transcript he
  obtain ⟨c, answer⟩ := e
  obtain rfl : answer = (m.answer c t' s').1 := hanswer
  exact h t' s' c hl

end Regular

/-! ### The ledger in memory -/

namespace Simulated

/-- Faults are failures of the transport, and transactions are null or well shaped. -/
structure Sound (s : State τ) : Prop where
  faults : ∀ p ∈ s.faults, ∃ fault, p.2.error = .transport fault
  transactions : ∀ p ∈ s.transactions, p.2 = .null ∨ WellShaped p.2

theorem Sound.of_eq {s s' : State τ} (h : Sound s) (hf : s'.faults = s.faults)
    (ht : s'.transactions = s.transactions) : Sound s' :=
  ⟨by rw [hf]; exact h.faults, by rw [ht]; exact h.transactions⟩

/-- Edits change accounts only. -/
theorem Sound.edits {es : List (Edit τ)} : ∀ {s : State τ}, Sound s →
    Sound (es.foldl (fun s e => s.setAccount e.address e.data) s) := by
  induction es with
  | nil => exact id
  | cons e es ih => exact fun h => ih (h.of_eq rfl rfl)

theorem mem_of_get? {κ ν : Type} [DecidableEq κ] {pairs : List (κ × ν)} {k : κ} {v : ν}
    (h : get? pairs k = some v) : (k, v) ∈ pairs := by
  obtain ⟨⟨k', v'⟩, hp, rfl⟩ := Option.map_eq_some_iff.1 h
  obtain rfl : k' = k := by simpa using List.find?_some hp
  exact List.mem_of_find?_eq_some hp

section Clocked

variable [Clock τ] {s s' : State τ} {t t' : τ}

theorem Sound.advance (h : Sound s) (t : τ) : Sound (s.advance t) :=
  Sound.edits (h.of_eq rfl rfl)

/-- No question changes the faults or the transactions. -/
theorem Sound.answer (h : Sound s) (c : Call) (t : τ) : Sound (model.answer c t s).2 := by
  have hcounted : Sound (counted s) := h.of_eq rfl rfl
  simp only [model]
  split
  · exact h.of_eq rfl rfl
  · cases c with
    | accountData a => exact hcounted.advance t
    | _ => exact h.of_eq rfl rfl

theorem Sound.later (hl : Later model t s t' s') : Sound s → Sound s' := by
  induction hl with
  | refl t s => exact id
  | asked c _ ih => exact fun h => ih (h.answer c _)
  | waited d _ ih => exact ih

/-- Sound contents give regular answers. -/
theorem Sound.regularAnswer (h : Sound s) (c : Call) (t : τ) :
    RegularAnswer ⟨c, (model.answer c t s).1⟩ := by
  simp only [model]
  split
  · rename_i e he
    obtain ⟨f, hf, hstrikes⟩ := Option.bind_eq_some_iff.1 he
    obtain rfl : f.error = e := by
      split at hstrikes
      · exact Option.some.inj hstrikes
      · cases hstrikes
    obtain ⟨fault, hfault⟩ := h.faults _ (mem_of_get? hf)
    rw [hfault]
    exact .failed c fault
  · cases c with
    | accountData a => exact .accountData a _
    | latestBlockhash => exact .latestBlockhash _
    | send tx => exact .sent tx _
    | signatures a => exact .signatures a _
    | transaction name =>
      refine .transaction name _ ?_
      simp only [State.answer]
      cases hfound : get? s.transactions name with
      | none => exact .inl rfl
      | some tx => exact h.transactions _ (mem_of_get? hfound)

/-- A ledger in memory with sound contents is regular. -/
theorem regular_of_sound (h : Sound s) (t : τ) : Regular model t s :=
  fun t' _ c hl => (h.later hl).regularAnswer c t'

end Clocked

end Simulated

end VrfClient.Ledger
