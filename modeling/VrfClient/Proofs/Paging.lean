import Mathlib.Data.Fintype.Card
import VrfClient.Node.Simulated
import VrfClient.Proofs.Base58
import VrfClient.Proofs.Polling

/-!
Paged histories. While a history is read page by page it may grow, at its newest end. The cursor of a page
is the last signature of the page before, so what is older than the cursor is what it was when the first
page was asked for (`older_cursor`), and page `k` is the `k`-th piece of the list as it stood then.
`Pages` lists the ways in which reading can go on from a page. A list that is returned is complete, and a
failure to answer a page leaves no list at all (`Pages.complete`, `Pages.failure`). -/

namespace VrfClient

/-- Distinct byte strings of one length are no more than there are numbers of that many digits. -/
theorem Octets.length_le_of_nodup {n : Nat} {os : List (Octets n)} (h : os.Nodup) :
    os.length ≤ 256 ^ n := by
  have hlt : ∀ o : Octets n, Bytes.toNatLE o.bytes < 256 ^ n := fun o => by
    simpa only [o.length_bytes] using Bytes.toNatLE_lt o.bytes
  have hread : ∀ o : Octets n, Bytes.ofNatLE n (Bytes.toNatLE o.bytes) = o.bytes := fun o => by
    simpa only [o.length_bytes] using Bytes.ofNatLE_toNatLE o.bytes
  have hinj : Function.Injective fun o : Octets n => (⟨_, hlt o⟩ : Fin (256 ^ n)) := by
    intro a b hab
    have hvalue : Bytes.toNatLE a.bytes = Bytes.toNatLE b.bytes := congrArg Fin.val hab
    exact Octets.bytes_inj.1 (by rw [← hread a, hvalue, hread b])
  simpa using (h.map hinj).length_le_card

namespace Node

open Plan Simulated

variable {τ σ : Type}

/-! ### Growing histories -/

/-- The states that requests for pages of an address lead to; what arrives meanwhile is up to the node. -/
inductive Paged (m : Model service τ σ) (address : Address) (t : τ) : σ → σ → Prop
  | refl (s : σ) : Paged m address t s s
  | asked {s s' : σ} (before : Option Signature) (limit : Nat) (commitment : String) :
      Paged m address t (m.answer (.signaturesFor address before limit commitment) t s).2 s' →
      Paged m address t s s'

/-- As long as pages are asked for, the node holds distinct signatures for the address, and more of them
only at the newest end; it answers a page, no longer than the longest, from what it holds, or fails to
answer. -/
structure Growing (m : Model service τ σ) (address : Address) (history : σ → List Signature) (t : τ)
    (s : σ) : Prop where
  nodup : ∀ s', Paged m address t s s' → (history s').Nodup
  grows : ∀ s' before limit commitment, Paged m address t s s' →
    history s' <:+ history (m.answer (.signaturesFor address before limit commitment) t s').2
  page : ∀ s' before limit commitment, Paged m address t s s' → limit ≤ pageLimit →
    (m.answer (.signaturesFor address before limit commitment) t s').1 =
        .ok ((older (history s') before).take limit) ∨
      ∃ f, (m.answer (.signaturesFor address before limit commitment) t s').1 = .error (.node f)

theorem Growing.asked {m : Model service τ σ} {address : Address} {history : σ → List Signature}
    {t : τ} {s : σ} (h : Growing m address history t s) (before : Option Signature) (limit : Nat)
    (commitment : String) : Growing m address history t
      (m.answer (.signaturesFor address before limit commitment) t s).2 where
  nodup _ hs := h.nodup _ (.asked before limit commitment hs)
  grows _ before' limit' commitment' hs :=
    h.grows _ before' limit' commitment' (.asked before limit commitment hs)
  page _ before' limit' commitment' hs :=
    h.page _ before' limit' commitment' (.asked before limit commitment hs)

theorem Simulated.answer_history (c : Call) (t : τ) (s : State) :
    (model.answer c t s).2.history = s.history ∧ (model.answer c t s).2.pageSize = s.pageSize := by
  simp only [model]
  split <;> exact ⟨rfl, rfl⟩

theorem Simulated.history_of_paged {address : Address} {t : τ} {s s' : State}
    (h : Paged model address t s s') : s'.history = s.history ∧ s'.pageSize = s.pageSize := by
  induction h with
  | refl s => exact ⟨rfl, rfl⟩
  | @asked s s' before limit commitment _ ih =>
    obtain ⟨hhistory, hsize⟩ := answer_history (.signaturesFor address before limit commitment) t s
    exact ⟨ih.1.trans hhistory, ih.2.trans hsize⟩

/-- The node in memory is one whose history grows, by nothing, if it gives full pages. -/
theorem Simulated.growing {s : State} (hnodup : s.history.Nodup) (hsize : pageLimit ≤ s.pageSize)
    (address : Address) (t : τ) : Growing model address State.history t s where
  nodup s' hs := (history_of_paged hs).1 ▸ hnodup
  grows s' _ _ _ _ := (answer_history _ t s').1 ▸ List.suffix_refl _
  page s' before limit commitment hs hlimit := by
    simp only [model]
    split
    · exact .inr ⟨_, rfl⟩
    · have hmin : min limit s'.pageSize = limit := by
        rw [(history_of_paged hs).2]
        exact min_eq_left (hlimit.trans hsize)
      exact .inl (by rw [State.answer, hmin])

/-- What is older than a signature that occurs once is what follows it. -/
theorem older_append {newer rest : List Signature} {a : Signature} (h : (newer ++ a :: rest).Nodup) :
    older (newer ++ a :: rest) (some a) = rest := by
  have hnewer : ∀ b ∈ newer, b ≠ a := by
    rintro b hb rfl
    exact List.disjoint_of_nodup_append h hb List.mem_cons_self
  rw [older, List.dropWhile_append_of_pos (by simpa using hnewer),
    List.dropWhile_cons_of_neg (by simp), List.drop_one, List.tail_cons]

/-- The signature that page `k` of a list has to precede; the first page has none. -/
def cursor (listed : List Signature) : Nat → Option Signature
  | 0 => none
  | k + 1 => listed[pageLimit * (k + 1) - 1]?

/-- However much has arrived since, older than the cursor is the rest of the list. -/
theorem older_cursor {listed held : List Signature} (hgrown : listed <:+ held) (hnodup : held.Nodup)
    {k : Nat} (hk : pageLimit * (k + 1) ≤ listed.length) :
    older held (cursor listed (k + 1)) = listed.drop (pageLimit * (k + 1)) := by
  obtain ⟨arrived, rfl⟩ := hgrown
  have hpos : 0 < pageLimit * (k + 1) := Nat.mul_pos (by decide) k.succ_pos
  generalize hcount : pageLimit * (k + 1) = count at hk hpos
  have hlast : count - 1 < listed.length := by omega
  have hsplit : arrived ++ listed = (arrived ++ listed.take (count - 1)) ++
      listed[count - 1] :: listed.drop count := by
    have hdrop := List.drop_eq_getElem_cons hlast
    rw [Nat.sub_add_cancel hpos] at hdrop
    rw [List.append_assoc, ← hdrop, List.take_append_drop]
  rw [cursor, hcount, List.getElem?_eq_getElem hlast]
  rw [hsplit] at hnodup ⊢
  exact older_append hnodup

/-- A full page ends with the cursor of the next one. -/
theorem getLast?_page {listed : List Signature} {k : Nat}
    (hfull : pageLimit ≤ (listed.drop (pageLimit * k)).length) :
    ((listed.drop (pageLimit * k)).take pageLimit).getLast? = cursor listed (k + 1) := by
  have hpos : 0 < pageLimit := by decide
  rw [List.getLast?_eq_getElem?, List.length_take_of_le hfull, List.getElem?_take_of_lt (by omega),
    List.getElem?_drop, cursor, Nat.mul_succ, Nat.add_sub_assoc hpos]

/-! ### The pages of a list -/

/-- The request for page `k` of a list. -/
def pageRequest (commitment : String) (address : Address) (listed : List Signature) (k : Nat) : Call :=
  .signaturesFor address (cursor listed k) pageLimit commitment

/-- What the client reports where a page is not answered. -/
def reported (address : Address) (f : NodeFault) : Error :=
  if f.isTransport then .transport (.failed s!"getSignaturesForAddress {address.text}" f) else .node f

/-- The ways in which reading a list from page `k` on can go. -/
inductive Pages (commitment : String) (address : Address) (listed : List Signature) :
    Nat → List (Exchange service) → Except Error (List Signature) → Prop
  | failed (k : Nat) (f : NodeFault) : Pages commitment address listed k
      [⟨pageRequest commitment address listed k, .error (.node f)⟩] (.error (reported address f))
  | last (k : Nat) : (listed.drop (pageLimit * k)).length < pageLimit →
      Pages commitment address listed k
        [⟨pageRequest commitment address listed k, .ok (listed.drop (pageLimit * k))⟩]
        (.ok (listed.drop (pageLimit * k)))
  | next (k : Nat) {x : List (Exchange service)} {r : Except Error (List Signature)} :
      pageLimit ≤ (listed.drop (pageLimit * k)).length →
      Pages commitment address listed (k + 1) x r → Pages commitment address listed k
        (⟨pageRequest commitment address listed k, .ok ((listed.drop (pageLimit * k)).take pageLimit)⟩
          :: x)
        (r.map ((listed.drop (pageLimit * k)).take pageLimit ++ ·))

/-! ### Reading page by page -/

variable [Clock τ] {m : Model service τ σ} {t : τ} {s : σ} {commitment : String} {address : Address}
  {listed : List Signature}

section Sequels

variable {α β : Type} (p : Action τ α) {f : α → Action τ β}

/-- A sequel that asks nothing leaves the exchanges of a plan as they are. -/
theorem transcript_bind_of_quiet (hf : ∀ a t s, (f a).transcript m t s = []) :
    (p >>= f).transcript m t s = p.transcript m t s := by
  have hx : (p >>= f).transcript m t s = _ := transcript_handle m p _ t s
  rw [hx]
  cases (p.run m t s).result with
  | ok a => rw [hf a, List.append_nil]
  | error e => exact List.append_nil _

/-- A sequel that never fails changes the value of a plan. -/
theorem result_bind_of_value {g : α → β} (hf : ∀ a t s, ((f a).run m t s).result = .ok (g a)) :
    ((p >>= f).run m t s).result = (p.run m t s).result.map g := by
  rw [result_bind]
  cases (p.run m t s).result with
  | ok a => exact hf a _ _
  | error e => rfl

end Sequels

section Requests

variable {α : Type} {name : String} {c : Call} {f : c.Reply → Action τ α}

/-- A request that is answered is followed by the rest of the plan. -/
theorem ask_bind_of_answered {a : c.Reply} (h : (m.answer c t s).1 = .ok a) :
    (ask name c >>= f).transcript m t s = ⟨c, .ok a⟩ :: (f a).transcript m t (m.answer c t s).2 ∧
      ((ask name c >>= f).run m t s).result = ((f a).run m t (m.answer c t s).2).result := by
  simp only [ask, Bind.bind, Plan.bind, handle, transcript, run, Run.after, h]
  exact ⟨trivial, trivial⟩

/-- A request that is not answered ends the plan. -/
theorem ask_bind_of_failed {fault : NodeFault} (h : (m.answer c t s).1 = .error (.node fault)) :
    (ask name c >>= f).transcript m t s = [⟨c, .error (.node fault)⟩] ∧
      ((ask name c >>= f).run m t s).result = .error
        (if fault.isTransport then .transport (.failed name fault) else .node fault) := by
  simp only [ask, Bind.bind, Plan.bind, handle, transcript, run, Run.after, h]
  exact ⟨trivial, trivial⟩

end Requests

variable {history : σ → List Signature}

/-- From page `k` on, reading goes on in one of the ways in `Pages`, as long as the budget of pages
reaches the end of the list. -/
theorem pages_collect (budget : Nat) :
    ∀ (k : Nat) (s : σ), Growing m address history t s → listed <:+ history s →
      older (history s) (cursor listed k) = listed.drop (pageLimit * k) →
      pageLimit * k ≤ listed.length → listed.length < pageLimit * (k + budget) →
      Pages commitment address listed k
        ((collect commitment address budget (cursor listed k)).transcript m t s)
        ((collect commitment address budget (cursor listed k)).run m t s).result := by
  -- Page by page the cursor moves on and the budget shrinks; arrivals are newer than the cursor.
  induction budget with
  | zero =>
    intro k s h hgrown holder hk hbudget
    rw [Nat.add_zero] at hbudget
    omega
  | succ budget ih =>
    intro k s h hgrown holder hk hbudget
    rw [collect]
    rcases h.page s (cursor listed k) pageLimit commitment (.refl s) le_rfl with hpage | ⟨f, hfault⟩
    · rw [holder] at hpage
      obtain ⟨hx, hr⟩ := ask_bind_of_answered hpage
      rw [hx, hr]
      set c : Call := .signaturesFor address (cursor listed k) pageLimit commitment
      set rest := listed.drop (pageLimit * k) with hrest
      by_cases hshort : rest.length < pageLimit
      · rw [List.take_of_length_le hshort.le, if_pos hshort]
        exact .last k hshort
      · have hfull : pageLimit ≤ rest.length := not_lt.1 hshort
        have hlength : (rest.take pageLimit).length = pageLimit := List.length_take_of_le hfull
        rw [if_neg (by omega), getLast?_page hfull]
        rw [transcript_bind_of_quiet _ fun _ _ _ => rfl, result_bind_of_value _ fun _ _ _ => rfl]
        have hk' : pageLimit * (k + 1) ≤ listed.length := by
          rw [hrest, List.length_drop] at hfull
          rw [Nat.mul_succ]
          omega
        have hnext := h.asked (cursor listed k) pageLimit commitment
        have hgrown' : listed <:+ history (m.answer c t s).2 :=
          hgrown.trans (h.grows s _ _ _ (.refl s))
        refine .next k hfull (ih (k + 1) _ hnext hgrown' ?_ hk' ?_)
        · exact older_cursor hgrown' (hnext.nodup _ (.refl _)) hk'
        · rwa [Nat.add_right_comm, Nat.add_assoc]
    · obtain ⟨hx, hr⟩ := ask_bind_of_failed hfault
      rw [hx, hr]
      exact .failed k f

/-! ### What the pages make -/

variable {k : Nat} {x : List (Exchange service)} {r : Except Error (List Signature)}

/-- If every page is answered, the rest of the list is returned, and the requests are those for the pages
up to the one that holds its end. -/
theorem Pages.complete (h : Pages commitment address listed k x r)
    (hanswered : ∀ e ∈ x, ∀ failure, e.answer ≠ .error failure) :
    r = .ok (listed.drop (pageLimit * k)) ∧
      (pageLimit * k ≤ listed.length → x.map Exchange.call =
        (List.range' k (listed.length / pageLimit + 1 - k)).map
          (pageRequest commitment address listed)) := by
  have hpos : 0 < pageLimit := by decide
  induction h with
  | failed k f => exact absurd rfl (hanswered _ List.mem_cons_self (.node f))
  | last k hshort =>
    refine ⟨rfl, fun hk => ?_⟩
    have hend : listed.length / pageLimit = k := by
      refine Nat.div_eq_of_lt_le ?_ ?_
      · rwa [Nat.mul_comm]
      · rw [List.length_drop] at hshort
        rw [Nat.mul_comm, Nat.mul_succ]
        omega
    rw [hend, Nat.add_sub_cancel_left]
    rfl
  | next k hfull _ ih =>
    obtain ⟨rfl, hcalls⟩ := ih fun e he => hanswered e (List.mem_cons_of_mem _ he)
    refine ⟨?_, fun hk => ?_⟩
    · rw [Except.map, Nat.mul_succ, ← List.drop_drop, List.take_append_drop]
    · have hnext : pageLimit * (k + 1) ≤ listed.length := by
        rw [List.length_drop] at hfull
        rw [Nat.mul_succ]
        omega
      have hlast : k + 1 ≤ listed.length / pageLimit := by
        rwa [Nat.le_div_iff_mul_le hpos, Nat.mul_comm]
      have hcount : listed.length / pageLimit + 1 - k = listed.length / pageLimit + 1 - (k + 1) + 1 := by
        omega
      rw [hcount, List.range'_succ, List.map_cons, List.map_cons, hcalls hnext]

/-- A page that is not answered is what is reported, whatever was collected before. -/
theorem Pages.failure (h : Pages commitment address listed k x r) {e : Exchange service} (he : e ∈ x)
    {failure : Error} (hfailed : e.answer = .error failure) :
    ∃ f, failure = .node f ∧ r = .error (reported address f) := by
  induction h with
  | failed k f =>
    obtain rfl := List.mem_singleton.1 he
    cases hfailed
    exact ⟨f, rfl, rfl⟩
  | last k _ =>
    obtain rfl := List.mem_singleton.1 he
    cases hfailed
  | next k _ _ ih =>
    rcases List.mem_cons.1 he with rfl | he
    · cases hfailed
    · obtain ⟨f, rfl, rfl⟩ := ih he
      exact ⟨f, rfl, rfl⟩

/-- The budget of pages reaches the end of every list of distinct signatures. -/
theorem length_lt_pageBudget (h : listed.Nodup) : listed.length < pageLimit * pageBudget := by
  have hsignatures : 256 ^ 64 = pageBudget := by decide +kernel
  have hpos : 0 < pageBudget := hsignatures ▸ Nat.pow_pos (by decide)
  have hlimit : 1 < pageLimit := by decide
  calc listed.length ≤ 256 ^ 64 := Octets.length_le_of_nodup h
    _ = pageBudget := hsignatures
    _ < pageLimit * pageBudget := (Nat.lt_mul_iff_one_lt_left hpos).2 hlimit

/-- Reading a history is reading its pages, and showing what they make as texts. -/
theorem exists_pages_of_signatures (h : Growing m address history t s) (commitment : String) :
    ∃ r, Pages commitment address (history s) 0 ((signatures commitment address).transcript m t s) r ∧
      ((signatures commitment address).run m t s).result = r.map (List.map Signature.text) := by
  have hbudget := length_lt_pageBudget (h.nodup s (.refl s))
  unfold signatures
  generalize pageBudget = budget at hbudget
  rw [transcript_bind_of_quiet _ fun _ _ _ => rfl, result_bind_of_value _ fun _ _ _ => rfl]
  exact ⟨_, pages_collect budget 0 s h (List.suffix_refl _) rfl (Nat.zero_le _)
    (by rwa [Nat.zero_add]), rfl⟩

/-- The text of a signature is asked for under that signature. -/
theorem calls_transaction (m : Model service τ σ) (t : τ) (s : σ) (signature : Signature) :
    ((transaction commitment signature.text).run m t s).calls =
      [.transaction signature "jsonParsed" commitment 0] := by
  rw [calls_run, transaction, Signature.ofText_text]
  -- What is done with the reply asks nothing.
  refine congrArg (List.map Exchange.call) (transcript_bind_of_quiet (ask _ _) ?_)
  rintro (_ | text) t s <;> rfl

/-- While a history grows at its newest end, reading it gives the list as it stood at the first request,
in one request for every full page and one for the last, or, if a request is not answered, what the client
reports of that failure; and every text that is given finds its transaction. -/
theorem history_as_first_requested (h : Growing m address history t s) (commitment : String) :
    ((∀ e ∈ (signatures commitment address).transcript m t s, ∀ failure, e.answer ≠ .error failure) →
      ((signatures commitment address).run m t s).result = .ok ((history s).map Signature.text) ∧
      ((signatures commitment address).run m t s).calls =
        (List.range ((history s).length / pageLimit + 1)).map
          (pageRequest commitment address (history s))) ∧
    (∀ e ∈ (signatures commitment address).transcript m t s, ∀ failure, e.answer = .error failure →
      ∃ f, failure = .node f ∧
        ((signatures commitment address).run m t s).result = .error (reported address f)) ∧
    ∀ signature ∈ history s, ∀ (σ' : Type) (m' : Model service τ σ') (t' : τ) (s' : σ'),
      ((transaction commitment signature.text).run m' t' s').calls =
        [.transaction signature "jsonParsed" commitment 0] := by
  obtain ⟨r, hpages, hresult⟩ := exists_pages_of_signatures h commitment
  refine ⟨fun hanswered => ?_, fun e he failure hfailed => ?_, fun signature _ σ' m' t' s' =>
    calls_transaction m' t' s' signature⟩
  · obtain ⟨rfl, hcalls⟩ := hpages.complete hanswered
    refine ⟨hresult, ?_⟩
    rw [calls_run, hcalls (Nat.zero_le _), List.range_eq_range']
    rfl
  · obtain ⟨f, hf, rfl⟩ := hpages.failure he hfailed
    exact ⟨f, hf, hresult⟩

/-! ### A failure that is not one of transport -/

/-- A node that crashes on every request for a page. -/
def crashing : Simulated.State :=
  ⟨[], [], Octets.zero 32, [], pageLimit, [(.signaturesFor, ⟨⟨.crash, "down"⟩, none⟩)], []⟩

/-- A crash of the node is passed on as it is; it is not reported as a failure of transport. -/
theorem crash_is_not_transport :
    Growing (τ := Rat) Simulated.model Sample.address Simulated.State.history 0 crashing ∧
    (∃ e ∈ (signatures defaultCommitment Sample.address).transcript Simulated.model (0 : Rat) crashing,
      e.answer = .error (.node ⟨.crash, "down"⟩)) ∧
    ∀ fault, ((signatures defaultCommitment Sample.address).run Simulated.model (0 : Rat)
      crashing).result ≠ .error (.transport fault) := by
  obtain ⟨budget, hbudget⟩ : ∃ budget, pageBudget = budget + 1 :=
    ⟨pageBudget - 1, (Nat.sub_add_cancel (by decide +kernel)).symm⟩
  have hx : (signatures defaultCommitment Sample.address).transcript Simulated.model (0 : Rat) crashing =
      [⟨pageRequest defaultCommitment Sample.address [] 0, .error (.node ⟨.crash, "down"⟩)⟩] := by
    rw [signatures, hbudget]
    rfl
  have hr : ((signatures defaultCommitment Sample.address).run Simulated.model (0 : Rat)
      crashing).result = .error (.node ⟨.crash, "down"⟩) := by
    rw [signatures, hbudget]
    rfl
  refine ⟨Simulated.growing (s := crashing) List.nodup_nil (Nat.le_refl _) Sample.address 0,
    ⟨_, hx ▸ List.mem_singleton_self _, rfl⟩, fun fault => ?_⟩
  rw [hr]
  exact nofun

end Node

/-! ### A busy node -/

namespace Sample

open Node Simulated

/-- The signature with the bytes of a number. -/
def numbered (n : Nat) : Signature := ⟨Bytes.ofNatLE 64 n, Bytes.length_ofNatLE 64 n⟩

/-- So many signatures, newest first. -/
def arrived (n : Nat) : List Signature := ((List.range n).map numbered).reverse

theorem nodup_arrived {n : Nat} (hn : n ≤ 256 ^ 64) : (arrived n).Nodup := by
  refine List.nodup_reverse.2 (List.Nodup.map_on (fun a ha b hb hab => ?_) List.nodup_range)
  have hvalue : ∀ i ∈ List.range n, Bytes.toNatLE (numbered i).bytes = i := by
    intro i hi
    have hlt : i < 256 ^ 64 := (List.mem_range.1 hi).trans_le hn
    rw [numbered, Bytes.toNatLE_ofNatLE, Nat.mod_eq_of_lt hlt]
  rw [← hvalue a ha, hab, hvalue b hb]

theorem arrived_suffix {n n' : Nat} (h : n ≤ n') : arrived n <:+ arrived n' := by
  obtain ⟨k, rfl⟩ := Nat.exists_eq_add_of_le h
  rw [arrived, arrived, List.reverse_suffix, List.range_add, List.map_append]
  exact List.prefix_append _ _

/-- A node on which one more transaction arrives with every request, until there are two thousand. -/
def busyNode : Model Node.service Rat Nat where
  answer c _ n := (match c with
    | .accountInfo .. => .ok none
    | .latestBlockhash _ => .ok (Octets.zero 32)
    | .sendRaw .. => .ok (Octets.zero 64)
    | .signaturesFor _ before limit _ => .ok ((older (arrived n) before).take limit)
    | .transaction .. => .ok none, min (n + 1) 2000)

theorem le_of_paged {address : Address} {t : Rat} {n n' : Nat} (h : Paged busyNode address t n n') :
    n ≤ 2000 → n' ≤ 2000 := by
  induction h with
  | refl n => exact id
  | asked _ _ _ _ ih => exact fun _ => ih (Nat.min_le_right _ _)

theorem growing_busyNode {n : Nat} (hn : n ≤ 2000) (address : Address) (t : Rat) :
    Growing busyNode address arrived t n where
  nodup n' hs := nodup_arrived ((le_of_paged hs hn).trans (by decide +kernel))
  grows n' _ _ _ hs := arrived_suffix (Nat.le_min.2 ⟨n'.le_succ, le_of_paged hs hn⟩)
  page n' before limit commitment _ _ := .inl rfl

end Sample

namespace Node

/-- With a thousand signatures at the first request, and two more by the time it is done, the client reads
two pages, the second of them empty, and gives the thousand. -/
theorem history_as_first_requested_sample :
    Growing Sample.busyNode Sample.address Sample.arrived 0 1000 ∧
    ((signatures defaultCommitment Sample.address).run Sample.busyNode 0 1000).result =
      .ok ((Sample.arrived 1000).map Signature.text) ∧
    ((signatures defaultCommitment Sample.address).run Sample.busyNode 0 1000).calls.length = 2 := by
  have hgrowing := Sample.growing_busyNode (n := 1000) (by decide) Sample.address 0
  obtain ⟨hcomplete, -, -⟩ := history_as_first_requested hgrowing defaultCommitment
  have hanswered : ∀ e ∈ (signatures defaultCommitment Sample.address).transcript Sample.busyNode 0 1000,
      ∀ failure, e.answer ≠ .error failure := by
    intro e he failure hfailed
    obtain ⟨t', n', -, hanswer, -⟩ := Plan.exists_later_of_mem_transcript he
    rw [hanswer] at hfailed
    cases hcall : e.call <;> rw [hcall] at hfailed <;> cases hfailed
  obtain ⟨hresult, hcalls⟩ := hcomplete hanswered
  refine ⟨hgrowing, hresult, ?_⟩
  rw [hcalls, List.length_map, List.length_range, Sample.arrived]
  simp [pageLimit]

end Node

end VrfClient
