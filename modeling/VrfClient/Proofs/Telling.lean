import VrfClient.Proofs.Prompt
import VrfClient.Proofs.Sequence

/-!
What plans tell. `Tells` bounds the notes of a plan, whatever it is answered. It is closed under sequence, and
the operations of the client, also those that wait, tell log records only. `mute` takes all notes out of a plan:
nothing that is asked and no result depends on them (`calls_mute`, `result_mute`), so two plans that are the same
when muted ask the same and end in the same way. -/

namespace VrfClient

namespace Plan

variable {S : Service} {τ σ α β : Type} {told : Note → Prop}

/-! ### The notes of a plan -/

/-- Whatever it is answered, the plan tells only notes of this kind. -/
inductive Tells (told : Note → Prop) : Plan S τ α → Prop
  | done (r : Except Error α) : Tells told (.done r)
  | ask {c : S.Call} {k : Except Error (S.Reply c) → Plan S τ α} :
      (∀ a, Tells told (k a)) → Tells told (.ask c k)
  | tell {n : Note} {p : Plan S τ α} : told n → Tells told p → Tells told (.tell n p)
  | now {k : τ → Plan S τ α} : (∀ t, Tells told (k t)) → Tells told (.now k)
  | sleep {d : τ} {p : Plan S τ α} : Tells told p → Tells told (.sleep d p)

namespace Tells

theorem bind {p : Plan S τ α} {f : α → Plan S τ β} (hp : Tells told p) (hf : ∀ a, Tells told (f a)) :
    Tells told (p >>= f) := by
  induction hp with
  | done r =>
    cases r with
    | ok a => exact hf a
    | error e => exact .done _
  | ask _ ih => exact .ask ih
  | tell hn _ ih => exact .tell hn ih
  | now _ ih => exact .now ih
  | sleep _ ih => exact .sleep ih

theorem mono {more : Note → Prop} {p : Plan S τ α} (hp : Tells told p) (h : ∀ n, told n → more n) :
    Tells more p := by
  induction hp with
  | done r => exact .done r
  | ask _ ih => exact .ask ih
  | tell hn _ ih => exact .tell (h _ hn) ih
  | now _ ih => exact .now ih
  | sleep _ ih => exact .sleep ih

/-- The notes of every run are of this kind. -/
theorem of_mem_notes [Clock τ] {p : Plan S τ α} (hp : Tells told p) {m : Model S τ σ} {t : τ} {s : σ} :
    ∀ n ∈ (p.run m t s).notes, told n := by
  induction hp generalizing t s with
  | done r => exact List.forall_mem_nil _
  | ask _ ih => exact ih _
  | tell hn _ ih => exact List.forall_mem_cons.2 ⟨hn, ih⟩
  | now _ ih => exact ih _
  | sleep _ ih => exact ih

end Tells

theorem tells_require (e : Error) (a : Option α) : Tells (S := S) (τ := τ) told (require e a) := by
  cases a <;> exact .done _

theorem Prompt.tells {asks : S.Call → Prop} {p : Plan S τ α} (hp : Prompt asks told p) : Tells told p := by
  induction hp with
  | done r => exact .done r
  | ask _ _ ih => exact .ask ih
  | tell hn _ ih => exact .tell hn ih
  | now _ ih => exact .now ih

/-! ### Muted plans -/

/-- The plan without what it tells. -/
def mute : Plan S τ α → Plan S τ α
  | .done r => .done r
  | .ask c k => .ask c fun a => (k a).mute
  | .tell _ p => p.mute
  | .now k => .now fun t => (k t).mute
  | .sleep d p => .sleep d p.mute

theorem mute_handle (p : Plan S τ α) (f : Except Error α → Plan S τ β) :
    (p.handle f).mute = p.mute.handle fun r => (f r).mute := by
  induction p with
  | done r => rfl
  | ask c k ih => exact congrArg (Plan.ask c) (funext ih)
  | tell n p ih => exact ih
  | now k ih => exact congrArg Plan.now (funext ih)
  | sleep d p ih => exact congrArg (Plan.sleep d) ih

theorem mute_bind (p : Plan S τ α) (f : α → Plan S τ β) :
    (p >>= f).mute = p.mute >>= fun a => (f a).mute := by
  refine (mute_handle p _).trans (congrArg p.mute.handle (funext fun r => ?_))
  cases r <;> rfl

variable [Clock τ] (m : Model S τ σ)

theorem result_mute (p : Plan S τ α) (t : τ) (s : σ) : (p.mute.run m t s).result = (p.run m t s).result := by
  induction p generalizing t s with
  | done r => rfl
  | ask c k ih => exact ih _ t _
  | tell n p ih => exact ih t s
  | now k ih => exact ih t t s
  | sleep d p ih => exact ih _ s

theorem calls_mute (p : Plan S τ α) (t : τ) (s : σ) : (p.mute.run m t s).calls = (p.run m t s).calls := by
  induction p generalizing t s with
  | done r => rfl
  | ask c k ih => exact congrArg (c :: ·) (ih _ t _)
  | tell n p ih => exact ih t s
  | now k ih => exact ih t t s
  | sleep d p ih => exact ih _ s

end Plan

namespace Client

open Plan

variable {τ : Type} {env : Env} {form : SeedForm}

/-! ### Waiting only logs -/

theorem tells_pollUntil [Clock τ] (seed : Seed) (timeout interval deadline : τ) (count : Nat) :
    Tells IsLog (pollUntil env seed timeout interval deadline count) := by
  induction count with
  | zero => exact .done _
  | succ count ih =>
    refine (prompt_poll seed).tells.bind fun found => ?_
    cases found with
    | some r => exact .done _
    | none =>
      refine .bind (.now fun _ => .done _) fun now => ?_
      split
      · exact .done _
      · exact .bind (.sleep (.done _)) fun _ => ih

theorem tells_waitFor [Clock τ] (timeout interval : τ) :
    Tells IsLog (waitFor env form timeout interval) :=
  .bind (.done _) fun seed => .bind (.now fun _ => .done _) fun _ => tells_pollUntil seed _ _ _ _

end Client

end VrfClient
