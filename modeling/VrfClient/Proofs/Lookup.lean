import VrfClient.Client
import VrfClient.Proofs.Randomness
import VrfClient.Proofs.Transcript

/-!
Looking up the randomness of a seed. Addresses are derived without a question; a lookup asks exactly one,
for the data of the account, and its outcome is a function of the answer, `lookupOutcome`. -/

namespace VrfClient

namespace Client

open Plan

variable {S : Service} {τ : Type}

theorem reaches_configAddress {env : Env} {x : List (Exchange S)} {r : Except Error Address}
    (h : Reaches (τ := τ) (configAddress env) x r) : x = [] ∧
      r = env.configAccount?.elim (.error (.noViableBump env.program)) fun found => .ok found.1 := by
  rcases h.of_bind with ⟨e, he, rfl⟩ | ⟨⟨address, bump⟩, x₁, x₂, h₁, h₂, rfl⟩
  · rw [reaches_require] at he
    cases hc : env.configAccount? with
    | none => simpa [hc] using he
    | some found => simp [hc] at he
  · rw [reaches_require] at h₁
    rw [reaches_log_bind, reaches_pure] at h₂
    obtain ⟨rfl, h₁⟩ := h₁
    obtain ⟨rfl, rfl⟩ := h₂
    cases hc : env.configAccount? with
    | none => simp [hc] at h₁
    | some found =>
      obtain rfl : (address, bump) = found := by simpa [hc] using h₁
      exact ⟨rfl, rfl⟩

section Sequels

variable {α : Type} {form : SeedForm} {seed : Seed} {env : Env} {x : List (Exchange S)}
  {r : Except Error α}

/-- A form that stands for a seed resolves to it, without a question. -/
theorem reaches_resolve_bind (hform : form.resolve = .ok seed) {f : Seed → Plan S τ α} :
    Reaches (resolve form >>= f) x r ↔ Reaches (f seed) x r := by
  rw [resolve, hform]
  exact Iff.rfl

theorem reaches_resolve_bind_error {e : SeedForm.Fault} (hform : form.resolve = .error e)
    {f : Seed → Plan S τ α} :
    Reaches (resolve form >>= f) x r ↔ x = [] ∧ r = .error (.badSeed e) := by
  rw [resolve, hform]
  exact reaches_done

/-- An address that derives is found without a question. -/
theorem reaches_randomnessAddress_bind {a : Address} (ha : env.randomnessAccount? seed = some a)
    {f : Address → Plan S τ α} :
    Reaches (randomnessAddress env seed >>= f) x r ↔ Reaches (f a) x r := by
  rw [randomnessAddress, ha]
  exact Iff.rfl

theorem reaches_randomnessAddress_bind_none (ha : env.randomnessAccount? seed = none)
    {f : Address → Plan S τ α} :
    Reaches (randomnessAddress env seed >>= f) x r ↔
      x = [] ∧ r = .error (.noViableBump env.program) := by
  rw [randomnessAddress, ha]
  exact reaches_done

end Sequels

/-- What a lookup makes of the answer to its question. -/
def lookupOutcome (a : Address) (seed : Seed) :
    Except Error (Option Bytes) → Except Error (Address × Option Randomness)
  | .error e => .error e
  | .ok none => .ok (a, none)
  | .ok (some data) => (readRandomness a seed data).map fun r => (a, some r)

/-- A lookup asks for the account of the seed, and for nothing else. -/
theorem reaches_lookup {env : Env} {seed : Seed} {a : Address}
    (ha : env.randomnessAccount? seed = some a) {x : List (Exchange Ledger.service)}
    {r : Except Error (Address × Option Randomness)} (h : Reaches (τ := τ) (lookup env seed) x r) :
    ∃ answer, x = [⟨.accountData a, answer⟩] ∧ r = lookupOutcome a seed answer := by
  have hasked := (reaches_randomnessAddress_bind ha).1 h
  rcases hasked.of_bind with ⟨e, he, rfl⟩ | ⟨found, x₁, x₂, h₁, h₂, rfl⟩
  · exact ⟨.error e, reaches_call.1 he, rfl⟩
  · obtain rfl := reaches_call.1 h₁
    cases found with
    | none =>
      obtain ⟨rfl, rfl⟩ := reaches_pure.1 h₂
      exact ⟨.ok none, rfl, rfl⟩
    | some data =>
      refine ⟨.ok (some data), ?_⟩
      rcases h₂.of_bind with ⟨e, he, rfl⟩ | ⟨record, x₃, x₄, h₃, h₄, rfl⟩
      · obtain ⟨rfl, hread⟩ := reaches_lift.1 he
        exact ⟨rfl, by simp [lookupOutcome, ← hread, Except.map]⟩
      · obtain ⟨rfl, hread⟩ := reaches_lift.1 h₃
        obtain ⟨rfl, rfl⟩ := reaches_pure.1 h₄
        exact ⟨rfl, by simp [lookupOutcome, ← hread, Except.map]⟩

/-- Where no address derives, a lookup asks nothing. -/
theorem reaches_lookup_of_none {env : Env} {seed : Seed} (ha : env.randomnessAccount? seed = none)
    {x : List (Exchange Ledger.service)} {r : Except Error (Address × Option Randomness)}
    (h : Reaches (τ := τ) (lookup env seed) x r) :
    x = [] ∧ r = .error (.noViableBump env.program) :=
  (reaches_randomnessAddress_bind_none ha).1 h

/-- Getting the randomness of a seed is a lookup that must find an account. -/
theorem reaches_get {env : Env} {form : SeedForm} {seed : Seed} {a : Address}
    (hform : form.resolve = .ok seed) (ha : env.randomnessAccount? seed = some a)
    {x : List (Exchange Ledger.service)} {r : Except Error Randomness}
    (h : Reaches (τ := τ) (get env form) x r) :
    ∃ answer, x = [⟨.accountData a, answer⟩] ∧ r = (lookupOutcome a seed answer).bind fun found =>
      found.2.elim (.error (.noRandomnessAccount seed found.1)) .ok := by
  rcases ((reaches_resolve_bind hform).1 h).of_bind with
    ⟨e, he, rfl⟩ | ⟨⟨address, found⟩, x₁, x₂, h₁, h₂, rfl⟩
  · obtain ⟨answer, rfl, ho⟩ := reaches_lookup ha he
    exact ⟨answer, rfl, by rw [← ho]; rfl⟩
  · obtain ⟨answer, rfl, ho⟩ := reaches_lookup ha h₁
    obtain ⟨rfl, rfl⟩ := reaches_require.1 h₂
    exact ⟨answer, rfl, by rw [← ho]; rfl⟩

/-- Account data is taken for the record that it decodes to, if that is one of the seed. -/
theorem readRandomness_eq_ok_iff {a : Address} {seed : Seed} {data : Bytes} {r : Randomness} :
    readRandomness a seed data = .ok r ↔ Randomness.decode data = .ok r ∧ r.seed = seed.bytes := by
  unfold readRandomness
  cases Randomness.decode data with
  | error fault => simp
  | ok found =>
    show ite (found.seed = seed.bytes) (Except.ok found) _ = .ok r ↔ _
    split
    · rename_i hseed
      constructor
      · rintro ⟨⟩
        exact ⟨rfl, hseed⟩
      · rintro ⟨⟨⟩, -⟩
        rfl
    · rename_i hseed
      simp only [reduceCtorEq, false_iff]
      rintro ⟨⟨⟩, h⟩
      exact hseed h

/-- The account data that a record of the seed is laid out as, whatever follows it, holds the record. -/
theorem readRandomness_encode_append {a : Address} {seed : Seed} {r : Randomness} {data : Bytes}
    (henc : r.encode = .ok data) (hseed : r.seed = seed.bytes) (rest : Bytes) :
    readRandomness a seed (data ++ rest) = .ok r := by
  rw [readRandomness, Randomness.decode_encode_append henc]
  exact if_pos hseed

end Client

/-! ### An instance -/

namespace Sample

/-- The key of the secret whose bytes are all zero. -/
def key : Octets 32 :=
  ⟨[59, 106, 39, 188, 206, 182, 164, 45, 98, 163, 168, 208, 42, 111, 13, 115, 101, 50, 21, 119, 29,
    226, 67, 166, 58, 192, 72, 161, 139, 89, 218, 41], rfl⟩

def seed : Seed := Octets.zero 32

/-- The signature of that secret over the seed. -/
def signature : Signature :=
  ⟨[61, 161, 235, 223, 169, 110, 221, 24, 29, 190, 54, 89, 209, 192, 81, 196, 49, 240, 86, 165, 173,
    106, 151, 166, 13, 92, 202, 16, 70, 4, 56, 120, 53, 70, 70, 30, 49, 40, 95, 197, 159, 145, 199, 7,
    38, 66, 116, 80, 97, 226, 69, 29, 95, 243, 59, 204, 216, 195, 199, 77, 171, 202, 246, 10], rfl⟩

def env : Env := ⟨"", Octets.zero 32, "d", "a"⟩

/-- The randomness account of the seed. -/
def address : Address :=
  ⟨[67, 97, 200, 163, 59, 66, 211, 1, 185, 1, 80, 17, 58, 225, 233, 231, 134, 70, 150, 187, 174, 152,
    166, 178, 26, 84, 69, 24, 91, 42, 1, 27], rfl⟩

/-- The configuration account. -/
def config : Address :=
  ⟨[130, 146, 125, 117, 4, 105, 39, 42, 164, 139, 139, 109, 109, 180, 111, 30, 78, 228, 104, 29, 243,
    140, 64, 199, 232, 5, 42, 162, 40, 151, 78, 184], rfl⟩

theorem resolve_eq : (SeedForm.address seed).resolve = .ok seed := rfl

theorem randomnessAccount_eq : env.randomnessAccount? seed = some address := by decide +kernel

theorem configAccount_eq : env.configAccount? = some (config, 255) := by decide +kernel

end Sample

end VrfClient
