import Mathlib.Logic.Basic
import VrfClient.Proofs.Separation

/-!
The search for a bump. Bumps are tried from 255 down to 0, and a bump is passed over whatever the refusal
is: too many seeds, a seed that is too long, or a hash on the curve. The first two are the same for every
bump, so they leave no address at all; apart from them a bump is refused exactly for its hash. So the
address that is found is that of the greatest bump whose hash is off the curve, as on the ledger, and there
is none only where the seeds do not fit or every hash is on the curve. -/

namespace VrfClient.Derived

variable {seeds : List Bytes} {program a : Address} {bump b : Nat}

/-! ### Searching downward -/

/-- A search of the numbers below `n`, greatest first, finds the greatest that has a value. -/
theorem findSome?_reverse_range_eq_some_iff {α : Type} {f : Nat → Option α} {x : α} : ∀ {n : Nat},
    (List.range n).reverse.findSome? f = some x ↔
      ∃ b < n, f b = some x ∧ ∀ c, b < c → c < n → f c = none
  | 0 => by simp
  | n + 1 => by
    rw [List.range_succ, List.reverse_concat, List.findSome?_cons]
    cases hn : f n with
    | some y =>
      constructor
      · rintro ⟨⟩
        exact ⟨n, n.lt_succ_self, hn, fun c hlt hle => by omega⟩
      · rintro ⟨b, hb, hfound, hpassed⟩
        -- The greatest number has a value, so it is the one.
        rcases Nat.lt_succ_iff_lt_or_eq.1 hb with hlt | rfl
        · rw [hpassed n hlt n.lt_succ_self] at hn
          cases hn
        · exact hn.symm.trans hfound
    | none =>
      rw [findSome?_reverse_range_eq_some_iff]
      constructor
      · rintro ⟨b, hb, hfound, hpassed⟩
        refine ⟨b, by omega, hfound, fun c hlt hle => ?_⟩
        rcases Nat.lt_succ_iff_lt_or_eq.1 hle with hc | rfl
        · exact hpassed c hlt hc
        · exact hn
      · rintro ⟨b, hb, hfound, hpassed⟩
        have hne : b ≠ n := by
          rintro rfl
          rw [hn] at hfound
          cases hfound
        exact ⟨b, by omega, hfound, fun c hlt hc => hpassed c hlt (by omega)⟩

/-! ### One bump -/

theorem withBump?_eq_some_iff : withBump? seeds program bump = some (a, b) ↔
    bump = b ∧ create (seeds ++ [[UInt8.ofNat bump]]) program = .ok a := by
  unfold withBump?
  split
  · rename_i a' hcreate
    rw [hcreate]
    simp [and_comm]
  · rename_i refusal hcreate
    rw [hcreate]
    simp

theorem withBump?_eq_none_iff : withBump? seeds program bump = none ↔
    ∃ refusal, create (seeds ++ [[UInt8.ofNat bump]]) program = .error refusal := by
  unfold withBump?
  split
  · rename_i a' hcreate
    rw [hcreate]
    simp
  · rename_i refusal hcreate
    rw [hcreate]
    simp

/-- Seeds are refused for their number, for the length of one, or for their hash. -/
theorem exists_create_eq_error_iff : (∃ refusal, create seeds program = .error refusal) ↔
    maxSeeds < seeds.length ∨ (∃ s ∈ seeds, maxSeedLength < s.length) ∨
      Curve.Point.onCurve (sha256 (payload seeds program)) = true := by
  constructor
  · rintro ⟨refusal, hrefused⟩
    refine Classical.byContradiction fun hfits => ?_
    simp only [not_or, not_exists, not_and, Nat.not_lt, Bool.not_eq_true] at hfits
    obtain ⟨hfew, hshort, hoff⟩ := hfits
    have hcreate := create_eq_ok_iff.2 ⟨hfew, hshort, hoff, rfl⟩
    rw [hrefused] at hcreate
    cases hcreate
  · intro hrefused
    refine exists_eq_error fun a hcreate => ?_
    obtain ⟨hfew, hshort, hoff, rfl⟩ := create_eq_ok_iff.1 hcreate
    rcases hrefused with hmany | ⟨s, hs, hlong⟩ | hon
    · omega
    · exact absurd (hshort s hs) (by omega)
    · rw [hoff] at hon
      cases hon

/-- With a bump behind them, seeds are refused for their own number or lengths, whatever the bump is, or
for the hash with this bump. -/
theorem exists_create_bump_eq_error_iff {bump : UInt8} :
    (∃ refusal, create (seeds ++ [[bump]]) program = .error refusal) ↔
      15 < seeds.length ∨ (∃ s ∈ seeds, 32 < s.length) ∨ Curve.Point.onCurve (sha256
        (seeds.flatten ++ [bump] ++ program.bytes ++ Bytes.ofText "ProgramDerivedAddress")) = true := by
  have hmany : maxSeeds < (seeds ++ [[bump]]).length ↔ 15 < seeds.length := by
    rw [List.length_append, List.length_singleton, maxSeeds]
    omega
  have hlong : (∃ s ∈ seeds ++ [[bump]], maxSeedLength < s.length) ↔ ∃ s ∈ seeds, 32 < s.length := by
    simp [maxSeedLength, or_and_right, exists_or]
  have hpayload : payload (seeds ++ [[bump]]) program =
      seeds.flatten ++ [bump] ++ program.bytes ++ Bytes.ofText "ProgramDerivedAddress" := by
    simp [payload, marker]
  rw [exists_create_eq_error_iff, hmany, hlong, hpayload]

/-! ### All bumps -/

/-- The address that is found is the one with the greatest bump that is not refused. -/
theorem find?_eq_some_iff : find? seeds program = some (a, bump) ↔ bump ≤ 255 ∧
    create (seeds ++ [[UInt8.ofNat bump]]) program = .ok a ∧ ∀ c, bump < c → c ≤ 255 →
      ∃ refusal, create (seeds ++ [[UInt8.ofNat c]]) program = .error refusal := by
  rw [find?, bumps, findSome?_reverse_range_eq_some_iff]
  constructor
  · rintro ⟨b, hb, hfound, hpassed⟩
    obtain ⟨rfl, hcreate⟩ := withBump?_eq_some_iff.1 hfound
    exact ⟨by omega, hcreate, fun c hlt hle => withBump?_eq_none_iff.1 (hpassed c hlt (by omega))⟩
  · rintro ⟨hb, hcreate, hpassed⟩
    refine ⟨bump, by omega, withBump?_eq_some_iff.2 ⟨rfl, hcreate⟩, fun c hlt hc => ?_⟩
    exact withBump?_eq_none_iff.2 (hpassed c hlt (by omega))

/-- No address is found exactly if every bump is refused. -/
theorem find?_eq_none_iff_forall : find? seeds program = none ↔
    ∀ bump : UInt8, ∃ refusal, create (seeds ++ [[bump]]) program = .error refusal := by
  rw [find?, List.findSome?_eq_none_iff]
  constructor
  · intro hnone bump
    have hrefused := hnone bump.toNat (List.mem_reverse.2 (List.mem_range.2 bump.toNat_lt))
    rwa [withBump?_eq_none_iff, UInt8.ofNat_toNat] at hrefused
  · intro hrefused bump _
    exact withBump?_eq_none_iff.2 (hrefused _)

/-- No address is found exactly if there are too many seeds, one is too long, or all hashes are on the
curve. -/
theorem find?_eq_none_iff : find? seeds program = none ↔
    15 < seeds.length ∨ (∃ s ∈ seeds, 32 < s.length) ∨ ∀ bump : UInt8, Curve.Point.onCurve (sha256
      (seeds.flatten ++ [bump] ++ program.bytes ++ Bytes.ofText "ProgramDerivedAddress")) = true := by
  simp only [find?_eq_none_iff_forall, exists_create_bump_eq_error_iff, forall_or_left]

/-- An address that is found is off the curve. -/
theorem onCurve_of_find? (h : find? seeds program = some (a, bump)) :
    Curve.Point.onCurve a = false :=
  (create_eq_ok_iff.1 (create_of_find? h).2).2.2.1

/-- The canonical address of seeds is the address with the greatest bump that is not refused, and is off
the curve; there is none exactly if there are more than fifteen seeds, a seed has more than 32 bytes, or
the hashes with all 256 bumps are on the curve. -/
theorem greatest_bump_found (seeds : List Bytes) (program : Address) :
    (∀ (a : Address) (bump : Nat), find? seeds program = some (a, bump) ↔ bump ≤ 255 ∧
      create (seeds ++ [[UInt8.ofNat bump]]) program = .ok a ∧ ∀ c, bump < c → c ≤ 255 →
        ∃ refusal, create (seeds ++ [[UInt8.ofNat c]]) program = .error refusal) ∧
    (find? seeds program = none ↔
      15 < seeds.length ∨ (∃ s ∈ seeds, 32 < s.length) ∨ ∀ bump : UInt8, Curve.Point.onCurve (sha256
        (seeds.flatten ++ [bump] ++ program.bytes ++ Bytes.ofText "ProgramDerivedAddress")) = true) ∧
    ∀ (a : Address) (bump : Nat), find? seeds program = some (a, bump) →
      Curve.Point.onCurve a = false :=
  ⟨fun _ _ => find?_eq_some_iff, find?_eq_none_iff, fun _ _ => onCurve_of_find?⟩

/-! ### An instance -/

/-- The address of one seed and the bump 254. -/
def squirrels : Address :=
  ⟨[193, 161, 162, 220, 120, 16, 103, 4, 246, 51, 75, 211, 53, 235, 86, 102, 25, 229, 75, 99, 147, 3,
    200, 24, 237, 143, 45, 240, 78, 178, 247, 101], rfl⟩

/-- A seed whose hash with the bump 255 is on the curve has the address with the bump 254, and sixteen
seeds have none, however short they are. -/
theorem greatest_bump_found_sample :
    find? [Bytes.ofText "Talking Squirrels"] Sample.env.program = some (squirrels, 254) ∧
      Curve.Point.onCurve squirrels = false ∧
      find? (List.replicate 16 []) Sample.env.program = none := by
  have hoff : Curve.Point.onCurve squirrels = false := by decide +kernel
  have hhash : sha256 (payload [Bytes.ofText "Talking Squirrels", [254]] Sample.env.program) =
      squirrels := by decide +kernel
  have hon : Curve.Point.onCurve (sha256 (payload [Bytes.ofText "Talking Squirrels", [255]]
      Sample.env.program)) = true := by decide +kernel
  have hcreate : create [Bytes.ofText "Talking Squirrels", [254]] Sample.env.program =
      .ok squirrels := create_eq_ok_iff.2 ⟨by decide, by decide, hoff, hhash⟩
  have hrefused : ∃ refusal,
      create [Bytes.ofText "Talking Squirrels", [255]] Sample.env.program = .error refusal :=
    exists_create_eq_error_iff.2 (.inr (.inr hon))
  obtain ⟨hfound, -, hcurve⟩ :=
    greatest_bump_found [Bytes.ofText "Talking Squirrels"] Sample.env.program
  obtain ⟨-, hnone, -⟩ := greatest_bump_found (List.replicate 16 []) Sample.env.program
  have hgreatest : find? [Bytes.ofText "Talking Squirrels"] Sample.env.program =
      some (squirrels, 254) := by
    refine (hfound squirrels 254).2 ⟨by decide, hcreate, fun c hlt hle => ?_⟩
    obtain rfl : c = 255 := by omega
    exact hrefused
  exact ⟨hgreatest, hcurve squirrels 254 hgreatest, hnone.2 (.inl (by decide))⟩

end VrfClient.Derived
