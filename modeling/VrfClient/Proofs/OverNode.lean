import Mathlib.Data.List.Forall2
import VrfClient.Node.Basic
import VrfClient.Proofs.Agreement
import VrfClient.Proofs.Session

/-!
Over a node. A node and a commitment level stand for a ledger: a question to it is answered by what the requests
to the node come to (`asLedger`). An operation that is carried out over the node does what it does over this
ledger (`overNode_through`): it has the same result, leaves clock and node where the other does, and tells and
sleeps the same, but for the log of the transport; its requests are those that the questions take, in their
order. So whatever holds over every ledger holds over every node. The user is told the same
(`OverNode.printed_eq`, `OverNode.complaints_eq`), and an operation hands the node one transaction at most
(`handed_operation`). -/

namespace VrfClient

/-! ### What a run does by itself -/

/-- A log record of the transport. -/
def Note.isTransport : Note → Bool
  | .log _ .transport _ => true
  | _ => false

/-- What is told or slept, except for the log of the transport. -/
def Event.own? {S : Service} {τ : Type} : Event S τ → Option (Note ⊕ τ)
  | .asked _ => none
  | .told n => if n.isTransport then none else some (.inl n)
  | .slept d => some (.inr d)

namespace Run

variable {S : Service} {τ σ α : Type}

/-- What the run tells and sleeps, in order, except for the log of the transport. -/
def own (r : Run S τ σ α) : List (Note ⊕ τ) := r.events.filterMap Event.own?

theorem own_behind (events : List (Event S τ)) (r : Run S τ σ α) :
    (r.behind events).own = events.filterMap Event.own? ++ r.own := List.filterMap_append

theorem own_after (e : Event S τ) (r : Run S τ σ α) : (r.after e).own = e.own?.toList ++ r.own := by
  rw [own, after, List.filterMap_cons]
  cases e.own? <;> rfl

/-- What does not regard the log of the transport can be read off it. -/
theorem filterMap_notes (r : Run S τ σ α) {β : Type} {f : Note → Option β}
    (hf : ∀ n, n.isTransport = true → f n = none) :
    r.notes.filterMap f = r.own.filterMap fun e => e.elim f fun _ => none := by
  rw [notes, own, List.filterMap_filterMap, List.filterMap_filterMap]
  congr 1
  funext e
  cases e with
  | asked c => rfl
  | slept d => rfl
  | told n =>
    by_cases hn : n.isTransport = true
    · simp [Event.own?, hn, hf n hn]
    · simp [Event.own?, hn]

/-- A run that does not sleep and tells only the log of the transport does nothing by itself. -/
theorem own_eq_nil {r : Run S τ σ α} (hsleeps : r.sleeps = []) (hnotes : ∀ n ∈ r.notes, n.isTransport = true) :
    r.own = [] := by
  rw [own, List.filterMap_eq_nil_iff]
  intro e he
  cases e with
  | asked c => rfl
  | told n => exact if_pos (hnotes n (List.mem_filterMap.2 ⟨_, he, rfl⟩))
  | slept d =>
    have hslept : d ∈ r.sleeps := List.mem_filterMap.2 ⟨_, he, rfl⟩
    simp [hsleeps] at hslept

end Run

namespace Node

open Plan

variable {τ σ α : Type} {commitment : String} {address : Address}

/-! ### One question -/

/-- The requests that a question to the ledger takes: the history of an address comes in pages, and a text that is
no signature is not asked for. -/
inductive Takes (commitment : String) : Ledger.Call → List Call → Prop
  | accountData (a : Address) : Takes commitment (.accountData a) [.accountInfo a commitment]
  | latestBlockhash : Takes commitment .latestBlockhash [.latestBlockhash commitment]
  | send (tx : Bytes) : Takes commitment (.send tx) [.sendRaw tx false commitment]
  | signatures {a : Address} {cs : List Call} :
      (∀ c ∈ cs, ∃ before, c = .signaturesFor a before pageLimit commitment) →
      Takes commitment (.signatures a) cs
  | transaction {text : String} {s : Signature} : Signature.ofText text = .ok s →
      Takes commitment (.transaction text) [.transaction s "jsonParsed" commitment 0]
  | noSignature {text : String} {fault : Signature.TextFault} : Signature.ofText text = .error fault →
      Takes commitment (.transaction text) []

theorem prompt_ask {asks : Call → Prop} {told : Note → Prop} (name : String) {c : Call} (hc : asks c) :
    Prompt (S := service) (τ := τ) asks told (ask name c) := .ask hc fun _ => .done _

theorem prompt_collect {told : Note → Prop} (budget : Nat) (before : Option Signature) :
    Prompt (S := service) (τ := τ) (fun c => ∃ before, c = .signaturesFor address before pageLimit commitment)
      told (collect commitment address budget before) := by
  induction budget generalizing before with
  | zero => exact .done _
  | succ budget ih =>
    refine (prompt_ask _ ⟨before, rfl⟩).bind fun page => ?_
    split
    · exact .done _
    · exact (ih _).bind fun _ => .done _

theorem prompt_signatures : Prompt (S := service) (τ := τ)
    (fun c => ∃ before, c = .signaturesFor address before pageLimit commitment) (·.isTransport = true)
    (signatures commitment address) :=
  (prompt_collect _ _).bind fun _ => .bind (.tell rfl (.done _)) fun _ => .done _

/-- No answer takes time, and what is told on the way to it is the log of the transport. -/
theorem prompt_answer (c : Ledger.Call) :
    Prompt (S := service) (τ := τ) (fun _ => True) (·.isTransport = true) (answer commitment c) := by
  cases c with
  | accountData a => exact prompt_ask _ trivial
  | latestBlockhash => exact prompt_ask _ trivial
  | send tx => exact (prompt_ask _ trivial).bind fun _ => .done _
  | signatures a => exact prompt_signatures.mono fun _ _ => trivial
  | transaction text =>
    refine .bind (.done _) fun s => (prompt_ask _ trivial).bind fun reply => ?_
    cases reply <;> exact .done _

section Answer

variable [Clock τ] {m : Model service τ σ} {t : τ} {s : σ}

/-- An answer takes the requests of its question. -/
theorem takes_answer (c : Ledger.Call) : Takes commitment c ((answer commitment c).run m t s).calls := by
  cases c with
  | accountData a => exact .accountData a
  | latestBlockhash => exact .latestBlockhash
  | send tx =>
    have hcalls : ((send commitment tx).run m t s).calls = [.sendRaw tx false commitment] :=
      calls_bind_done fun _ => ⟨_, rfl⟩
    rw [answer, hcalls]
    exact .send tx
  | signatures a => exact .signatures (Prompt.asks_of_mem_calls prompt_signatures)
  | transaction text =>
    cases hs : Signature.ofText text with
    | error fault =>
      have hcalls : ((transaction commitment text).run m t s).calls = [] := by
        rw [transaction, hs]
        rfl
      rw [answer, hcalls]
      exact .noSignature hs
    | ok signature =>
      have hcalls : ((transaction commitment text).run m t s).calls =
          [.transaction signature "jsonParsed" commitment 0] := by
        rw [transaction, hs]
        refine calls_bind_done (p := ask s!"getTransaction {text}"
          (.transaction signature "jsonParsed" commitment 0)) fun reply => ?_
        cases reply <;> exact ⟨_, rfl⟩
      rw [answer, hcalls]
      exact .transaction hs

theorem own_answer (c : Ledger.Call) : ((answer commitment c).run m t s).own = [] :=
  Run.own_eq_nil (Prompt.sleeps_run (prompt_answer c)) (Prompt.told_of_mem_notes (prompt_answer c))

end Answer

/-! ### Whole operations -/

/-- The ledger that a node stands for, at a commitment level. -/
def asLedger [Clock τ] (commitment : String) (m : Model service τ σ) : Model Ledger.service τ σ where
  answer c t s :=
    let r := (answer commitment c).run m t s
    (r.result, r.state)

/-- A run over a node does what a run over a ledger does. -/
structure OverNode (commitment : String) (node : Run service τ σ α) (ledger : Run Ledger.service τ σ α) :
    Prop where
  result_eq : node.result = ledger.result
  clock_eq : node.clock = ledger.clock
  state_eq : node.state = ledger.state
  /-- It tells and sleeps the same, in the same order. -/
  own_eq : node.own = ledger.own
  /-- Its requests are those that the questions take, one question after the other. -/
  calls : ∃ parts, List.Forall₂ (Takes commitment) ledger.calls parts ∧ node.calls = parts.flatten

/-- A plan that is carried out over a node does what it does over the ledger that the node stands for: an operation
of the client, or the program as a whole (`CommandLine.invoke`). -/
theorem overNode_through [Clock τ] (commitment : String) (m : Model service τ σ) (p : Ledger.Action τ α) (t : τ)
    (s : σ) :
    OverNode commitment ((through commitment p).run m t s) (p.run (asLedger commitment m) t s) := by
  induction p generalizing t s with
  | done r => exact ⟨rfl, rfl, rfl, rfl, [], .nil, rfl⟩
  | ask c k ih =>
    have hclock : ((answer commitment c).run m t s).clock = t := Prompt.clock_run (prompt_answer c)
    have hrest := ih ((answer commitment c).run m t s).result t ((answer commitment c).run m t s).state
    have htakes : Takes commitment c ((answer commitment c).run m t s).calls := takes_answer c
    obtain ⟨parts, hparts, hcalls⟩ := hrest.calls
    have hrun := run_handle m (answer commitment c) (fun r => through commitment (k r)) t s
    rw [hclock] at hrun
    rw [through, hrun]
    refine ⟨hrest.result_eq, hrest.clock_eq, hrest.state_eq, ?_, _, .cons htakes hparts, ?_⟩
    · rw [Run.own_behind]
      exact congrArg₂ (· ++ ·) (own_answer c) hrest.own_eq
    · rw [List.flatten_cons, ← hcalls]
      exact List.filterMap_append
  | tell n p ih =>
    have hrest := ih t s
    refine ⟨hrest.result_eq, hrest.clock_eq, hrest.state_eq, ?_, hrest.calls⟩
    rw [through, run, run, Run.own_after, Run.own_after, hrest.own_eq]
    rfl
  | now k ih => exact ih t t s
  | sleep d p ih =>
    have hrest := ih (Clock.add t d) s
    refine ⟨hrest.result_eq, hrest.clock_eq, hrest.state_eq, ?_, hrest.calls⟩
    rw [through, run, run, Run.own_after, Run.own_after, hrest.own_eq]
    rfl

namespace OverNode

variable {node : Run service τ σ α} {ledger : Run Ledger.service τ σ α}

theorem printed_eq (h : OverNode commitment node ledger) : node.printed = ledger.printed := by
  have hline : ∀ n : Note, n.isTransport = true → n.line? = none := by
    intro n hn
    cases n <;> first | rfl | cases hn
  rw [Run.printed, Run.printed, node.filterMap_notes hline, ledger.filterMap_notes hline, h.own_eq]

theorem complaints_eq (h : OverNode commitment node ledger) : node.complaints = ledger.complaints := by
  have hcomplaint : ∀ n : Note, n.isTransport = true → n.complaint? = none := by
    intro n hn
    cases n <;> first | rfl | cases hn
  rw [Run.complaints, Run.complaints, node.filterMap_notes hcomplaint, ledger.filterMap_notes hcomplaint,
    h.own_eq]

end OverNode

/-! ### What the node is handed -/

/-- The transaction that a request hands the node. -/
def Call.handed? : Call → Option Bytes
  | .sendRaw tx _ _ => some tx
  | _ => none

/-- The transactions that a run hands the node, in order. -/
def handed (r : Run service τ σ α) : List Bytes := r.calls.filterMap Call.handed?

/-- The transaction that a question submits. -/
def submitted? : Ledger.Call → Option Bytes
  | .send tx => some tx
  | _ => none

theorem Takes.handed_eq {q : Ledger.Call} {cs : List Call} (h : Takes commitment q cs) :
    cs.filterMap Call.handed? = (submitted? q).toList := by
  cases h with
  | signatures hcs =>
    refine List.filterMap_eq_nil_iff.2 fun c hc => ?_
    obtain ⟨before, rfl⟩ := hcs c hc
    rfl
  | _ => rfl

theorem handed_flatten {qs : List Ledger.Call} {parts : List (List Call)}
    (h : List.Forall₂ (Takes commitment) qs parts) :
    parts.flatten.filterMap Call.handed? = qs.filterMap submitted? := by
  induction h with
  | nil => rfl
  | @cons q cs qs parts hq _ ih =>
    rw [List.flatten_cons, List.filterMap_append, hq.handed_eq, ih, List.filterMap_cons]
    cases submitted? q <;> rfl

/-- The node is handed what is submitted to the ledger that it stands for, in the same order. -/
theorem handed_through [Clock τ] (commitment : String) (m : Model service τ σ) (p : Ledger.Action τ α) (t : τ)
    (s : σ) :
    handed ((through commitment p).run m t s) =
      Client.submissions (p.transcript (asLedger commitment m) t s) := by
  obtain ⟨parts, hparts, hcalls⟩ := (overNode_through commitment m p t s).calls
  rw [handed, hcalls, handed_flatten hparts, calls_run, List.filterMap_map]
  rfl

/-- Over any node, only a request hands over a transaction, and no more than one. -/
theorem handed_operation [Clock τ] (env : Env) (commitment : String) (m : Model service τ σ)
    (o : Client.Operation τ) (t : τ) (s : σ) :
    (handed ((through commitment (o.plan env)).run m t s)).length ≤ 1 ∧
    (handed ((through commitment (o.plan env)).run m t s) ≠ [] →
      ∃ signer form, o = .request signer form) := by
  rw [handed_through]
  have hreaches := reaches_run (asLedger commitment m) (o.plan env) t s
  exact ⟨Client.Operation.length_submissions_le hreaches,
    Client.Operation.exists_request_of_submissions hreaches⟩

end Node

end VrfClient
