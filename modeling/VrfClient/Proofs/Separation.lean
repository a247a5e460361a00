import VrfClient.Proofs.Lookup

/-!
Accounts do not share addresses. The payload that is hashed for an address is a concatenation without
separators, but everything behind the label has a fixed length: seed, bump, program and marker. So the
payload determines what it was made from, except where its label ends and its seed starts, and that is
determined where the seed is known to be there or not. Two accounts with one address are therefore the
same account, or their payloads are a `Collision` of the hash. -/

namespace VrfClient

namespace Bytes

theorem ofText_inj {s t : String} : ofText s = ofText t ↔ s = t := by
  constructor
  · intro h
    exact String.toByteArray_inj.1 (ByteArray.ext (Array.toList_inj.1 h))
  · exact congrArg ofText

theorem length_ofText_pos {s : String} (h : s ≠ "") : 0 < (ofText s).length := by
  rw [List.length_pos_iff]
  intro hnil
  exact h (ofText_inj.1 (hnil.trans (rfl : ofText "" = []).symm))

end Bytes

namespace Derived

/-! ### What a derivation that succeeds has hashed -/

/-- Seeds give an address exactly if there are few enough of them, all short enough, and the hash of
the payload is off the curve; the hash is the address. -/
theorem create_eq_ok_iff {seeds : List Bytes} {program a : Address} :
    create seeds program = .ok a ↔ seeds.length ≤ maxSeeds ∧
      (∀ s ∈ seeds, s.length ≤ maxSeedLength) ∧ Curve.Point.onCurve a = false ∧
      sha256 (payload seeds program) = a := by
  unfold create
  split
  · rename_i hmany
    simp only [reduceCtorEq, false_iff]
    rintro ⟨hfew, -⟩
    omega
  · rename_i hfew
    split
    · rename_i s hs
      simp only [reduceCtorEq, false_iff]
      rintro ⟨-, hshort, -⟩
      have hlong := List.find?_some hs
      have hle := hshort s (List.mem_of_find?_eq_some hs)
      simp only [decide_eq_true_eq] at hlong
      omega
    · rename_i hnone
      have hshort : ∀ s ∈ seeds, s.length ≤ maxSeedLength := by
        simpa using hnone
      dsimp only
      split
      · rename_i hcurve
        simp only [reduceCtorEq, false_iff]
        rintro ⟨-, -, hoff, rfl⟩
        rw [hcurve] at hoff
        cases hoff
      · rename_i hoff
        constructor
        · intro h
          cases h
          exact ⟨by omega, hshort, by simpa using hoff, rfl⟩
        · rintro ⟨-, -, -, rfl⟩
          rfl

/-- The canonical address of seeds is the address of the seeds and one more, the bump. -/
theorem create_of_find? {seeds : List Bytes} {program a : Address} {bump : Nat}
    (h : find? seeds program = some (a, bump)) :
    bump < 256 ∧ create (seeds ++ [[UInt8.ofNat bump]]) program = .ok a := by
  obtain ⟨b, hb, hfound⟩ := List.exists_of_findSome?_eq_some h
  have hlt : b < 256 := List.mem_range.1 (List.mem_reverse.1 hb)
  unfold withBump? at hfound
  split at hfound
  · rename_i a' hcreate
    cases hfound
    exact ⟨hlt, hcreate⟩
  · cases hfound

theorem sha256_of_find? {seeds : List Bytes} {program a : Address} {bump : Nat}
    (h : find? seeds program = some (a, bump)) :
    sha256 (payload (seeds ++ [[UInt8.ofNat bump]]) program) = a :=
  (create_eq_ok_iff.1 (create_of_find? h).2).2.2.2

/-- Each seed of a canonical address is short. -/
theorem length_le_of_find? {seeds : List Bytes} {program a : Address} {bump : Nat}
    (h : find? seeds program = some (a, bump)) : ∀ s ∈ seeds, s.length ≤ maxSeedLength :=
  fun s hs => (create_eq_ok_iff.1 (create_of_find? h).2).2.1 s (List.mem_append_left _ hs)

/-! ### What a payload says -/

/-- Two different byte strings with one hash, which is the address. -/
structure Collision (a : Address) (m m' : Bytes) : Prop where
  ne : m ≠ m'
  sha256_left : sha256 m = a
  sha256_right : sha256 m' = a

/-- From its end, a payload is read in one way: marker, program, bump, and the seeds in one piece. -/
theorem payload_inj {seeds seeds' : List Bytes} {program program' : Address} {bump bump' : UInt8}
    (h : payload (seeds ++ [[bump]]) program = payload (seeds' ++ [[bump']]) program') :
    seeds.flatten = seeds'.flatten ∧ bump = bump' ∧ program = program' := by
  simp only [payload, List.flatten_append, List.flatten_singleton] at h
  obtain ⟨hfront, -⟩ := List.append_inj' h rfl
  obtain ⟨hseeds, hprogram⟩ := List.append_inj' hfront
    (program.length_bytes.trans program'.length_bytes.symm)
  obtain ⟨hflat, hbump⟩ := List.append_inj' hseeds rfl
  exact ⟨hflat, by simpa using hbump, Octets.bytes_inj.1 hprogram⟩

/-- Two derivations of one address have the same program, the same bump and, in one piece, the same
seeds; or else their payloads collide. -/
theorem flatten_eq_or_collision {seeds seeds' : List Bytes} {program program' a : Address}
    {bump bump' : Nat} (h : find? seeds program = some (a, bump))
    (h' : find? seeds' program' = some (a, bump')) :
    (seeds.flatten = seeds'.flatten ∧ program = program' ∧ bump = bump') ∨
      Collision a (payload (seeds ++ [[UInt8.ofNat bump]]) program)
        (payload (seeds' ++ [[UInt8.ofNat bump']]) program') := by
  by_cases heq : payload (seeds ++ [[UInt8.ofNat bump]]) program =
      payload (seeds' ++ [[UInt8.ofNat bump']]) program'
  · left
    obtain ⟨hflat, hbump, hprogram⟩ := payload_inj heq
    have hlt := (create_of_find? h).1
    have hlt' := (create_of_find? h').1
    have hnat := congrArg UInt8.toNat hbump
    rw [UInt8.toNat_ofNat', UInt8.toNat_ofNat'] at hnat
    exact ⟨hflat, hprogram, by omega⟩
  · exact .inr ⟨heq, sha256_of_find? h, sha256_of_find? h'⟩

/-- A label and a seed in one piece are told apart by the length of the seed. -/
theorem label_append_seed_inj {label label' : String} {seed seed' : Seed}
    (h : Bytes.ofText label ++ seed.bytes = Bytes.ofText label' ++ seed'.bytes) :
    label = label' ∧ seed = seed' := by
  obtain ⟨hlabel, hseed⟩ := List.append_inj' h (seed.length_bytes.trans seed'.length_bytes.symm)
  exact ⟨Bytes.ofText_inj.1 hlabel, Octets.bytes_inj.1 hseed⟩

/-- A label that may be a seed is shorter than a label, not empty, and a seed behind it. -/
theorem label_ne_label_append_seed {label label' : String} {seed : Seed}
    (hshort : (Bytes.ofText label).length ≤ maxSeedLength) (hne : label' ≠ "") :
    Bytes.ofText label ≠ Bytes.ofText label' ++ seed.bytes := by
  intro h
  have hlength := congrArg List.length h
  rw [List.length_append, seed.length_bytes] at hlength
  have hpos := Bytes.length_ofText_pos hne
  unfold maxSeedLength at hshort
  omega

/-! ### One address, one account -/

/-- Accounts share an address only through a collision: the accounts of labels and seeds are the same
in label, seed, program and bump; a configuration account is not the account of a seed, where that has
a label; and configuration accounts are the same in label, program and bump. -/
theorem same_account_or_collision :
    (∀ {label label' : String} {seed seed' : Seed} {program program' a : Address} {bump bump' : Nat},
      ofLabel? label seed.bytes program = some (a, bump) →
      ofLabel? label' seed'.bytes program' = some (a, bump') →
      (label = label' ∧ seed = seed' ∧ program = program' ∧ bump = bump') ∨
        Collision a (payload [Bytes.ofText label, seed.bytes, [UInt8.ofNat bump]] program)
          (payload [Bytes.ofText label', seed'.bytes, [UInt8.ofNat bump']] program')) ∧
    (∀ {env env' : Env} {seed : Seed} {a a' : Address} {bump : Nat}, env'.randomnessLabel ≠ "" →
      env.configAccount? = some (a, bump) → env'.randomnessAccount? seed = some a' →
      a ≠ a' ∨ ∃ bump', ofLabel? env'.randomnessLabel seed.bytes env'.program = some (a, bump') ∧
        Collision a (payload [Bytes.ofText env.configLabel, [UInt8.ofNat bump]] env.program)
          (payload [Bytes.ofText env'.randomnessLabel, seed.bytes, [UInt8.ofNat bump']]
            env'.program)) ∧
    (∀ {env env' : Env} {a : Address} {bump bump' : Nat}, env.configAccount? = some (a, bump) →
      env'.configAccount? = some (a, bump') →
      (env.configLabel = env'.configLabel ∧ env.program = env'.program ∧ bump = bump') ∨
        Collision a (payload [Bytes.ofText env.configLabel, [UInt8.ofNat bump]] env.program)
          (payload [Bytes.ofText env'.configLabel, [UInt8.ofNat bump']] env'.program)) := by
  refine ⟨?_, ?_, ?_⟩
  · intro label label' seed seed' program program' a bump bump' h h'
    rcases flatten_eq_or_collision h h' with ⟨hflat, hprogram, hbump⟩ | hcollision
    · simp only [List.flatten_cons, List.flatten_nil, List.append_nil] at hflat
      obtain ⟨hlabel, hseed⟩ := label_append_seed_inj hflat
      exact .inl ⟨hlabel, hseed, hprogram, hbump⟩
    · exact .inr hcollision
  · intro env env' seed a a' bump hne h h'
    obtain ⟨⟨a', bump'⟩, hfound, rfl⟩ := Option.map_eq_some_iff.1 h'
    by_cases ha : a = a'
    · subst ha
      rcases flatten_eq_or_collision h hfound with ⟨hflat, -, -⟩ | hcollision
      · simp only [List.flatten_cons, List.flatten_nil, List.append_nil] at hflat
        have hshort := length_le_of_find? h _ (List.mem_singleton_self _)
        exact absurd hflat (label_ne_label_append_seed hshort hne)
      · exact .inr ⟨bump', hfound, hcollision⟩
    · exact .inl ha
  · intro env env' a bump bump' h h'
    rcases flatten_eq_or_collision h h' with ⟨hflat, hprogram, hbump⟩ | hcollision
    · simp only [List.flatten_cons, List.flatten_nil, List.append_nil] at hflat
      exact .inl ⟨Bytes.ofText_inj.1 hflat, hprogram, hbump⟩
    · exact .inr hcollision

end Derived

/-! ### An instance -/

theorem Sample.ofLabel?_eq : Derived.ofLabel? env.randomnessLabel seed.bytes env.program =
    some (address, 255) := by decide +kernel

namespace Derived

open Sample

/-- The randomness account of the sample shares its address with itself, and its two kinds of accounts
have two addresses. -/
theorem same_account_or_collision_sample :
    (ofLabel? env.randomnessLabel seed.bytes env.program = some (address, 255) ∧
      ((env.randomnessLabel = env.randomnessLabel ∧ seed = seed ∧ env.program = env.program ∧
          255 = 255) ∨
        Collision address
          (payload [Bytes.ofText env.randomnessLabel, seed.bytes, [UInt8.ofNat 255]] env.program)
          (payload [Bytes.ofText env.randomnessLabel, seed.bytes, [UInt8.ofNat 255]] env.program))) ∧
    (env.randomnessLabel ≠ "" ∧ env.configAccount? = some (config, 255) ∧
      env.randomnessAccount? seed = some address ∧
      (config ≠ address ∨
        ∃ bump, ofLabel? env.randomnessLabel seed.bytes env.program = some (config, bump) ∧
          Collision config (payload [Bytes.ofText env.configLabel, [UInt8.ofNat 255]] env.program)
            (payload [Bytes.ofText env.randomnessLabel, seed.bytes, [UInt8.ofNat bump]]
              env.program))) := by
  have hlabel : env.randomnessLabel ≠ "" := by decide
  obtain ⟨hsame, hkinds, -⟩ := same_account_or_collision
  exact ⟨⟨ofLabel?_eq, hsame ofLabel?_eq ofLabel?_eq⟩, hlabel, configAccount_eq,
    randomnessAccount_eq, hkinds hlabel configAccount_eq randomnessAccount_eq⟩

end Derived

end VrfClient
