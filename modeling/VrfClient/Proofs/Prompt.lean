import VrfClient.Client
import VrfClient.Proofs.Transcript

/-!
Plans that do not wait. A plan is prompt when, whatever it is answered, it never sleeps; the kinds of question
that it asks and of note that it tells are carried along. Being prompt is closed under sequence, so one line for
each operation of the client but the waiting ones shows that they are prompt and tell log records only. The
clock stands still while a prompt plan runs (`Prompt.clock_run`), so its questions are answered one after the
other at one time, each in the state that the one before has left (`Prompt.answers_transcript`). -/

namespace VrfClient

namespace Plan

variable {S : Service} {τ σ α β : Type} {asks : S.Call → Prop} {told : Note → Prop}

/-- Whatever it is answered, the plan asks and tells things of these kinds only, and does not wait. -/
inductive Prompt (asks : S.Call → Prop) (told : Note → Prop) : Plan S τ α → Prop
  | done (r : Except Error α) : Prompt asks told (.done r)
  | ask {c : S.Call} {k : Except Error (S.Reply c) → Plan S τ α} :
      asks c → (∀ a, Prompt asks told (k a)) → Prompt asks told (.ask c k)
  | tell {n : Note} {p : Plan S τ α} : told n → Prompt asks told p → Prompt asks told (.tell n p)
  | now {k : τ → Plan S τ α} : (∀ t, Prompt asks told (k t)) → Prompt asks told (.now k)

theorem prompt_require (e : Error) (a : Option α) : Prompt (τ := τ) asks told (require e a) := by
  cases a <;> exact .done _

theorem prompt_call {c : S.Call} (hc : asks c) : Prompt (τ := τ) asks told (call c) :=
  .ask hc fun _ => .done _

/-- From this state on and at this time, the service gives these answers, one after the other. -/
def Answers (m : Model S τ σ) (t : τ) : σ → List (Exchange S) → Prop
  | _, [] => True
  | s, ⟨c, a⟩ :: x => a = (m.answer c t s).1 ∧ Answers m t (m.answer c t s).2 x

theorem answers_cons {m : Model S τ σ} {t : τ} {s s' : σ} {c : S.Call} {a a' : Except Error (S.Reply c)}
    {x : List (Exchange S)} (h : m.answer c t s = (a', s')) :
    Answers m t s (⟨c, a⟩ :: x) ↔ a = a' ∧ Answers m t s' x := by
  rw [Answers, h]

/-- What was answered first was answered so from the start. -/
theorem Answers.of_append {m : Model S τ σ} {t : τ} {y : List (Exchange S)} : ∀ {x : List (Exchange S)}
    {s : σ}, Answers m t s (x ++ y) → Answers m t s x
  | [], _, _ => trivial
  | _ :: _, _, ⟨h, hx⟩ => ⟨h, hx.of_append⟩

/-- What was answered as a view of the service has it are the answers of the service at rest. -/
theorem answers_atRest {view : (c : S.Call) → S.Reply c} {t : τ} {s : σ} : ∀ {x : List (Exchange S)},
    Shown view x → Answers (atRest view) t s x
  | [], _ => trivial
  | _ :: _, h => ⟨(shown_cons.1 h).1, answers_atRest (shown_cons.1 h).2⟩

namespace Prompt

theorem bind {p : Plan S τ α} {f : α → Plan S τ β} (hp : Prompt asks told p)
    (hf : ∀ a, Prompt asks told (f a)) : Prompt asks told (p >>= f) := by
  induction hp with
  | done r =>
    cases r with
    | ok a => exact hf a
    | error e => exact .done _
  | ask hc _ ih => exact .ask hc ih
  | tell hn _ ih => exact .tell hn ih
  | now _ ih => exact .now ih

/-- What is allowed to ask less is allowed to ask more. -/
theorem mono {more : S.Call → Prop} {p : Plan S τ α} (hp : Prompt asks told p) (h : ∀ c, asks c → more c) :
    Prompt more told p := by
  induction hp with
  | done r => exact .done r
  | ask hc _ ih => exact .ask (h _ hc) ih
  | tell hn _ ih => exact .tell hn ih
  | now _ ih => exact .now ih

variable [Clock τ] {p : Plan S τ α} {m : Model S τ σ} {t : τ} {s : σ}

theorem clock_run (hp : Prompt asks told p) : (p.run m t s).clock = t := by
  induction hp generalizing s with
  | done r => rfl
  | ask _ _ ih => exact ih _
  | tell _ _ ih => exact ih
  | now _ ih => exact ih t

theorem sleeps_run (hp : Prompt asks told p) : (p.run m t s).sleeps = [] := by
  induction hp generalizing s with
  | done r => rfl
  | ask _ _ ih => exact ih _
  | tell _ _ ih => exact ih
  | now _ ih => exact ih t

theorem asks_of_mem_calls (hp : Prompt asks told p) : ∀ c ∈ (p.run m t s).calls, asks c := by
  induction hp generalizing s with
  | done r => exact List.forall_mem_nil _
  | ask hc _ ih => exact List.forall_mem_cons.2 ⟨hc, ih _⟩
  | tell _ _ ih => exact ih
  | now _ ih => exact ih t

theorem told_of_mem_notes (hp : Prompt asks told p) : ∀ n ∈ (p.run m t s).notes, told n := by
  induction hp generalizing s with
  | done r => exact List.forall_mem_nil _
  | ask _ _ ih => exact ih _
  | tell hn _ ih => exact List.forall_mem_cons.2 ⟨hn, ih⟩
  | now _ ih => exact ih t

/-- All questions of a prompt plan are answered at the time at which it is started. -/
theorem answers_transcript (hp : Prompt asks told p) : Answers m t s (p.transcript m t s) := by
  induction hp generalizing s with
  | done r => trivial
  | ask _ _ ih => exact ⟨rfl, ih _⟩
  | tell _ _ ih => exact ih
  | now _ ih => exact ih t

end Prompt

end Plan

namespace Client

open Plan

variable {S : Service} {τ : Type} {env : Env} {form : SeedForm} {asks : S.Call → Prop}

/-! ### The operations -/

/-- A log record. -/
def IsLog (n : Note) : Prop := ∃ level channel text, n = .log level channel text

theorem prompt_log (level : Level) (channel : Channel) (text : String) :
    Prompt (τ := τ) asks IsLog (log level channel text) := .tell ⟨_, _, _, rfl⟩ (.done _)

theorem prompt_configAddress : Prompt (τ := τ) asks IsLog (configAddress env) :=
  (prompt_require _ _).bind fun _ => (prompt_log _ _ _).bind fun _ => .done _

theorem prompt_ledger (c : Ledger.Call) :
    Prompt (S := Ledger.service) (τ := τ) (fun _ => True) IsLog (call c) := prompt_call trivial

theorem prompt_configData : Prompt (τ := τ) (fun _ => True) IsLog (configData env) :=
  prompt_configAddress.bind fun _ => (prompt_ledger _).bind fun _ => prompt_require _ _

theorem prompt_lookup (seed : Seed) : Prompt (τ := τ) (fun _ => True) IsLog (lookup env seed) := by
  refine (prompt_require _ _).bind fun a => (prompt_ledger _).bind fun found => ?_
  cases found with
  | none => exact .done _
  | some data => exact .bind (.done _) fun _ => .done _

theorem prompt_get : Prompt (τ := τ) (fun _ => True) IsLog (get env form) :=
  .bind (.done _) fun _ => (prompt_lookup _).bind fun _ => prompt_require _ _

theorem prompt_requestInstruction (payer treasury : Address) :
    Prompt (τ := τ) asks IsLog (requestInstruction env form payer treasury) :=
  .bind (.done _) fun _ => (prompt_require _ _).bind fun _ => prompt_configAddress.bind fun _ => .done _

theorem prompt_build (signer : Signer) : Prompt (τ := τ) (fun _ => True) IsLog (build env signer form) :=
  (prompt_require _ _).bind fun _ => (prompt_configData.bind fun _ => .done _).bind fun _ =>
    (prompt_requestInstruction _ _).bind fun _ => (prompt_ledger _).bind fun _ =>
      (prompt_require _ _).bind fun _ => .done _

theorem prompt_request (signer : Signer) : Prompt (τ := τ) (fun _ => True) IsLog (request env signer form) := by
  refine .bind (.done _) fun seed => (prompt_lookup seed).bind fun found => ?_
  cases found.2 with
  | some r => exact (prompt_log _ _ _).bind fun _ => .done _
  | none =>
    exact (prompt_build signer).bind fun tx => (prompt_log _ _ _).bind fun _ =>
      (prompt_ledger _).bind fun _ => (prompt_log _ _ _).bind fun _ => .done _

theorem prompt_poll (seed : Seed) : Prompt (τ := τ) (fun _ => True) IsLog (poll env seed) := by
  refine (prompt_lookup seed).bind fun found => ?_
  cases found.2 with
  | none => exact (prompt_log _ _ _).bind fun _ => .done _
  | some r =>
    dsimp only
    split
    · exact .done _
    · exact (prompt_log _ _ _).bind fun _ => .done _

theorem prompt_scan (seed : Seed) (address : Address) (listed : Nat) (names : List String) :
    Prompt (τ := τ) (fun _ => True) IsLog (scan env seed address listed names) := by
  induction names with
  | nil => exact .done _
  | cons name older ih =>
    have hpassed : ∀ level text, Prompt (τ := τ) (fun _ => True) IsLog (log level .verify text >>= fun _ =>
        scan env seed address listed older) := fun _ _ => (prompt_log _ _ _).bind fun _ => ih
    refine (prompt_ledger _).bind fun tx => ?_
    split
    · exact hpassed _ _
    refine .bind (.done _) fun status => ?_
    split
    · exact hpassed _ _
    refine .bind (.done _) fun failed => ?_
    split
    · exact hpassed _ _
    refine .bind (.done _) fun found => ?_
    split
    · exact (prompt_log _ _ _).bind fun _ => .done _
    · exact hpassed _ _

theorem prompt_findFulfillment : Prompt (τ := τ) (fun _ => True) IsLog (findFulfillment env form) := by
  refine .bind (.done _) fun seed => (prompt_require _ _).bind fun address =>
    (prompt_ledger _).bind fun listed => ?_
  split
  · exact .done _
  · exact prompt_scan _ _ _ _

theorem prompt_reportElsewhere (is : List Nat) : Prompt (τ := τ) asks IsLog (reportElsewhere is) := by
  induction is with
  | nil => exact .done _
  | cons i is ih => exact (prompt_log _ _ _).bind fun _ => ih

theorem prompt_verifyFulfillment (tx : Json) (signature : Bytes) :
    Prompt (τ := τ) asks IsLog (verifyFulfillment tx form signature) := by
  refine .bind (.done _) fun seed => ?_
  split
  · exact (prompt_reportElsewhere _).bind fun _ => .done _
  · exact .done _

theorem prompt_verify (randomness : Randomness) :
    Prompt (τ := τ) (fun _ => True) IsLog (verify env form randomness) := by
  refine .bind (.done _) fun seed => ?_
  cases randomness.randomness with
  | none => exact .done _
  | some signature =>
    exact prompt_findFulfillment.bind fun found =>
      (prompt_verifyFulfillment _ _).bind fun _ => prompt_log _ _ _

end Client

end VrfClient
