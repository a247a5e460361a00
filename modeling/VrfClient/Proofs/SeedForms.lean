import VrfClient.Client
import VrfClient.Run
import VrfClient.Proofs.Base58
import VrfClient.Proofs.Lookup

/-!
The forms of a seed. A seed has three forms: its bytes, the address with these bytes, and its base 58 text,
and no other form stands for it (`SeedForm.resolve_eq_ok_iff`). Whatever takes a seed resolves the form
before anything else sees it, so a plan depends on a form through `SeedForm.resolve` alone, and two forms
of one seed cannot be told apart by any run. -/

namespace VrfClient

namespace SeedForm

/-- The forms of a seed. -/
def formsOf (seed : Seed) : List SeedForm :=
  [.bytes seed.bytes, .address seed, .text (Address.text seed)]

variable {t : String} {seed : Seed}

/-- Bytes stand for a seed exactly if they are the bytes of the seed. -/
theorem resolve_bytes_eq_ok_iff {bs : Bytes} : (bytes bs).resolve = .ok seed ↔ bs = seed.bytes := by
  rw [← Octets.ofBytes?_eq_some_iff]
  cases hread : Octets.ofBytes? 32 bs <;> simp [resolve, hread]

/-- A text stands for a seed exactly if it is the text of the seed. -/
theorem resolve_text_eq_ok_iff : (text t).resolve = .ok seed ↔ t = Address.text seed := by
  rw [resolve, ← Address.ofText_eq_ok_iff]
  cases Address.ofText t <;> simp [Except.mapError]

/-- A text that is not the text of a seed is refused as a text. -/
theorem exists_resolve_text_eq_error (h : ∀ seed : Seed, t ≠ Address.text seed) :
    ∃ fault, (text t).resolve = .error (.text fault) := by
  cases hread : Address.ofText t with
  | ok seed => exact absurd (Address.ofText_eq_ok_iff.1 hread) (h seed)
  | error fault => exact ⟨fault, by rw [resolve, hread]; rfl⟩

/-- Exactly the forms of a seed stand for it. -/
theorem resolve_eq_ok_iff {form : SeedForm} : form.resolve = .ok seed ↔ form ∈ formsOf seed := by
  cases form with
  | bytes bs => simp [resolve_bytes_eq_ok_iff, formsOf]
  | address a => simp [resolve, formsOf]
  | text t => simp [resolve_text_eq_ok_iff, formsOf]

end SeedForm

namespace Client

open Plan

/-! ### Runs from forms -/

section Forms

variable {S : Service} {τ : Type} {f g : SeedForm}

theorem resolve_congr (h : f.resolve = g.resolve) : (resolve f : Plan S τ Seed) = resolve g := by
  rw [resolve, h, resolve]

theorem requestInstruction_congr (h : f.resolve = g.resolve) (env : Env) (payer treasury : Address) :
    (requestInstruction env f payer treasury : Plan S τ Instruction) =
      requestInstruction env g payer treasury := by
  rw [requestInstruction, resolve_congr h, requestInstruction]

variable [Clock τ]

/-- No ledger can tell the two plans apart: from every time and state they have the same run. -/
def Alike {α : Type} (p q : Ledger.Action τ α) : Prop :=
  ∀ (σ : Type) (m : Model Ledger.service τ σ) (t : τ) (s : σ), p.run m t s = q.run m t s

theorem Alike.of_eq {α : Type} {p q : Ledger.Action τ α} (h : p = q) : Alike p q :=
  fun _ _ _ _ => h ▸ rfl

/-- Whatever takes a seed does the same for two forms. -/
structure Interchangeable (τ : Type) [Clock τ] (f g : SeedForm) : Prop where
  address : ∀ env, Alike (τ := τ) (address env f) (address env g)
  get : ∀ env, Alike (τ := τ) (get env f) (get env g)
  requestInstruction : ∀ env payer treasury, Alike (τ := τ) (requestInstruction env f payer treasury)
    (requestInstruction env g payer treasury)
  build : ∀ env signer, Alike (τ := τ) (build env signer f) (build env signer g)
  request : ∀ env signer, Alike (τ := τ) (request env signer f) (request env signer g)
  waitFor : ∀ env (timeout interval : τ),
    Alike (waitFor env f timeout interval) (waitFor env g timeout interval)
  recognize : ∀ env tx, Alike (τ := τ) (recognize env tx f) (recognize env tx g)
  findFulfillment : ∀ env, Alike (τ := τ) (findFulfillment env f) (findFulfillment env g)
  extractKey : ∀ tx, Alike (τ := τ) (extractKey tx f) (extractKey tx g)
  verifyFulfillment : ∀ tx signature,
    Alike (τ := τ) (verifyFulfillment tx f signature) (verifyFulfillment tx g signature)
  verify : ∀ env randomness, Alike (τ := τ) (verify env f randomness) (verify env g randomness)

theorem interchangeable_of_resolve_eq (h : f.resolve = g.resolve) :
    Interchangeable τ f g where
  address env := .of_eq (by rw [address, resolve_congr h, address])
  get env := .of_eq (by rw [get, resolve_congr h, get])
  requestInstruction env payer treasury := .of_eq (requestInstruction_congr h env payer treasury)
  build env signer := .of_eq (by simp only [build, requestInstruction_congr h])
  request env signer := .of_eq (by rw [request, resolve_congr h, request])
  waitFor env timeout interval := .of_eq (by rw [waitFor, resolve_congr h, waitFor])
  recognize env tx := .of_eq (by rw [recognize, resolve_congr h, recognize])
  findFulfillment env := .of_eq (by rw [findFulfillment, resolve_congr h, findFulfillment])
  extractKey tx := .of_eq (by rw [extractKey, resolve_congr h, extractKey])
  verifyFulfillment tx signature :=
    .of_eq (by rw [verifyFulfillment, resolve_congr h, verifyFulfillment])
  verify env randomness := .of_eq (by rw [verify, resolve_congr h, verify])

/-- Reading texts is the inverse of showing seeds, and refuses every other text; bytes and addresses stand
for themselves; and the forms of a seed lead to the same runs, whatever is done with the seed. -/
theorem forms_of_seed_interchangeable (seed : Seed) :
    (∀ t, (SeedForm.text t).resolve = .ok seed ↔ t = Address.text seed) ∧
    (∀ t, (∃ b : Seed, t = Address.text b) ∨
      ∃ fault, (SeedForm.text t).resolve = .error (.text fault)) ∧
    (SeedForm.bytes seed.bytes).resolve = .ok seed ∧
    (SeedForm.address seed).resolve = .ok seed ∧
    ∀ f ∈ SeedForm.formsOf seed, ∀ g ∈ SeedForm.formsOf seed, Interchangeable τ f g := by
  refine ⟨fun t => SeedForm.resolve_text_eq_ok_iff, fun t => ?_,
    SeedForm.resolve_bytes_eq_ok_iff.2 rfl, rfl, fun f hf g hg => ?_⟩
  · rw [or_iff_not_imp_left]
    exact fun hother => SeedForm.exists_resolve_text_eq_error fun b hb => hother ⟨b, hb⟩
  · have hf := SeedForm.resolve_eq_ok_iff.2 hf
    have hg := SeedForm.resolve_eq_ok_iff.2 hg
    exact interchangeable_of_resolve_eq (hf.trans hg.symm)

end Forms

end Client

namespace Sample

/-- The number one as a seed. -/
def one : Seed := ⟨List.replicate 31 0 ++ [1], rfl⟩

end Sample

namespace Client

theorem forms_of_seed_interchangeable_sample :
    Address.text Sample.one = "11111111111111111111111111111112" ∧
    (SeedForm.text "11111111111111111111111111111112").resolve = .ok Sample.one ∧
    Interchangeable Rat (.text "11111111111111111111111111111112") (.bytes Sample.one.bytes) := by
  have htext : Address.text Sample.one = "11111111111111111111111111111112" := by decide +kernel
  obtain ⟨hreads, -, -, -, hforms⟩ := forms_of_seed_interchangeable (τ := Rat) Sample.one
  refine ⟨htext, (hreads _).2 htext.symm, ?_⟩
  rw [← htext]
  exact hforms _ (by simp [SeedForm.formsOf]) _ (by simp [SeedForm.formsOf])

end Client

end VrfClient
