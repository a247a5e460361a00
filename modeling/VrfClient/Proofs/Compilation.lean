import Mathlib.Algebra.GroupWithZero.Nat
import Mathlib.Data.List.Nodup
import VrfClient.Wire.Transaction

/-!
What compiling a message keeps. The key list holds every mentioned address exactly once, the payer first;
positions resolve to the addresses that they stand for; and by its position and the header a key is
writable exactly when it is the payer or some instruction wants to write to it. Nothing is assumed about
the addresses, which may coincide in any way. -/

namespace VrfClient.Message

/-- Whether the header makes the key at a position writable: in both halves of the list, signers and
others, the last keys are the read-only ones. -/
def isWritable (m : Message) (i : Nat) : Bool :=
  if i < m.requiredSignatures then i < m.requiredSignatures - m.readOnlySigners
  else i < m.keys.length - m.readOnlyOthers

variable {payer key : Address} {ixs : List Instruction} {blockhash : Octets 32}

/-! ### Lists without repetition -/

theorem nodup_eraseDups : ∀ (n : Nat) (l : List Address), l.length ≤ n → l.eraseDups.Nodup
  | _, [], _ => by simp
  | n + 1, a :: l, h => by
    rw [List.eraseDups_cons, List.nodup_cons]
    refine ⟨?_, nodup_eraseDups n _ ?_⟩
    · simp [List.mem_eraseDups]
    · exact Nat.le_trans (List.length_filter_le _ _) (Nat.le_of_succ_le_succ h)

theorem getElem?_idxOf {l : List Address} (h : key ∈ l) : l[l.idxOf key]? = some key := by
  have hlt := List.idxOf_lt_length_of_mem h
  rw [List.getElem?_eq_getElem hlt, List.getElem_idxOf]

/-! ### The key list -/

theorem mem_mentioned : key ∈ mentioned payer ixs ↔ key = payer ∨
    ∃ ix ∈ ixs, (∃ account ∈ ix.accounts, account.address = key) ∨ key = ix.program := by
  simp [mentioned, List.mem_eraseDups]

theorem nodup_mentioned : (mentioned payer ixs).Nodup := nodup_eraseDups _ _ (Nat.le_refl _)

theorem mem_group {signer writable : Bool} : key ∈ group payer ixs signer writable ↔
    key ∈ mentioned payer ixs ∧ key ≠ payer ∧ wantsSignature ixs key = signer ∧
      wantsWrite ixs key = writable := by
  simp [group, and_assoc]

theorem nodup_group {signer writable : Bool} : (group payer ixs signer writable).Nodup :=
  (List.mergeSort_perm _ _).nodup_iff.2 (nodup_mentioned.filter _)

theorem keys_compile : (compile payer ixs blockhash).keys =
    (payer :: group payer ixs true true) ++ group payer ixs true false ++
      group payer ixs false true ++ group payer ixs false false := rfl

/-- Every mentioned address is a key, and every key is mentioned. -/
theorem mem_keys_compile : key ∈ (compile payer ixs blockhash).keys ↔ key ∈ mentioned payer ixs := by
  have hpayer : payer ∈ mentioned payer ixs := mem_mentioned.2 (.inl rfl)
  simp only [keys_compile, List.mem_append, List.mem_cons, mem_group]
  constructor
  · rintro ((((h | h) | h) | h) | h)
    · exact h ▸ hpayer
    · exact h.1
    · exact h.1
    · exact h.1
    · exact h.1
  · intro h
    by_cases hp : key = payer
    · exact .inl (.inl (.inl (.inl hp)))
    · cases wantsSignature ixs key <;> cases wantsWrite ixs key <;> simp [h, hp]

/-- No key stands twice in the list: the groups differ in their privileges. -/
theorem nodup_keys_compile : (compile payer ixs blockhash).keys.Nodup := by
  have hpayer : ∀ {signer writable}, payer ∉ group payer ixs signer writable :=
    fun h => (mem_group.1 h).2.1 rfl
  rw [keys_compile, List.nodup_append, List.nodup_append, List.nodup_append, List.nodup_cons]
  refine ⟨⟨⟨⟨hpayer, nodup_group⟩, nodup_group, ?_⟩, nodup_group, ?_⟩, nodup_group, ?_⟩
  all_goals
    rintro a ha b hb rfl
    simp only [List.mem_append, List.mem_cons, mem_group] at ha hb
    grind

theorem payer_first : (compile payer ixs blockhash).keys[0]? = some payer := rfl

/-- There are no more keys than mentions. -/
theorem length_keys_le : (compile payer ixs blockhash).keys.length ≤
    1 + (ixs.map fun ix => ix.accounts.length + 1).sum := by
  have hsubset : (compile payer ixs blockhash).keys ⊆
      payer :: ixs.flatMap fun ix => ix.accounts.map AccountMeta.address ++ [ix.program] := by
    intro k hk
    rw [mem_keys_compile] at hk
    exact List.mem_eraseDups.1 hk
  have hle := nodup_keys_compile.length_le_of_subset hsubset
  simpa [List.length_flatMap, Nat.add_comm] using hle

/-- Positions in a compiled message are positions in its key list. -/
theorem idxOf_lt_of_mem_mentioned (h : key ∈ mentioned payer ixs) :
    (compile payer ixs blockhash).keys.idxOf key < (compile payer ixs blockhash).keys.length :=
  List.idxOf_lt_length_of_mem (mem_keys_compile.2 h)

theorem header_le_length_keys :
    (compile payer ixs blockhash).readOnlySigners ≤ (compile payer ixs blockhash).keys.length ∧
      (compile payer ixs blockhash).readOnlyOthers ≤ (compile payer ixs blockhash).keys.length := by
  simp only [keys_compile, List.length_append]
  simp only [compile]
  omega

/-! ### Privileges -/

/-- A position in a list of four parts lies in one of them. -/
theorem mem_of_getElem?_append {a b c d : List Address} {i : Nat}
    (h : (a ++ b ++ c ++ d)[i]? = some key) :
    (i < a.length ∧ key ∈ a) ∨ (a.length ≤ i ∧ i < a.length + b.length ∧ key ∈ b) ∨
      (a.length + b.length ≤ i ∧ i < a.length + b.length + c.length ∧ key ∈ c) ∨
      (a.length + b.length + c.length ≤ i ∧ key ∈ d) := by
  simp only [List.getElem?_append, List.length_append] at h
  split at h
  · split at h
    · split at h
      · exact .inl ⟨‹_›, List.mem_of_getElem? h⟩
      · exact .inr (.inl ⟨by omega, by omega, List.mem_of_getElem? h⟩)
    · exact .inr (.inr (.inl ⟨by omega, by omega, List.mem_of_getElem? h⟩))
  · exact .inr (.inr (.inr ⟨by omega, List.mem_of_getElem? h⟩))

/-- The header makes the first part of the signers and the first part of the others writable. -/
theorem isWritable_compile {i : Nat} :
    (compile payer ixs blockhash).isWritable i = true ↔
      i < (payer :: group payer ixs true true).length ∨
      (payer :: group payer ixs true true).length + (group payer ixs true false).length ≤ i ∧
        i < (payer :: group payer ixs true true).length + (group payer ixs true false).length +
          (group payer ixs false true).length := by
  have hrequired : (compile payer ixs blockhash).requiredSignatures =
      (payer :: group payer ixs true true).length + (group payer ixs true false).length := rfl
  have hsigners : (compile payer ixs blockhash).readOnlySigners =
      (group payer ixs true false).length := rfl
  have hothers : (compile payer ixs blockhash).readOnlyOthers =
      (group payer ixs false false).length := rfl
  rw [isWritable, hrequired, hsigners, hothers]
  simp only [keys_compile, List.length_append]
  split <;> simp only [decide_eq_true_eq] <;> omega

/-- By its position and the header a key is writable exactly when it is the payer or some instruction
wants to write to it. -/
theorem isWritable_compile_iff {i : Nat} (h : (compile payer ixs blockhash).keys[i]? = some key) :
    (compile payer ixs blockhash).isWritable i = true ↔
      key = payer ∨ wantsWrite ixs key = true := by
  rw [isWritable_compile]
  rw [keys_compile] at h
  rcases mem_of_getElem?_append h with ⟨hlt, hk⟩ | ⟨hle, hlt, hk⟩ | ⟨hle, hlt, hk⟩ | ⟨hle, hk⟩
  · rw [List.mem_cons, mem_group] at hk
    refine ⟨fun _ => hk.imp id fun hk => hk.2.2.2, fun _ => .inl hlt⟩
  · rw [mem_group] at hk
    refine ⟨fun _ => by omega, ?_⟩
    rintro (hp | hw)
    · exact absurd hp hk.2.1
    · rw [hk.2.2.2] at hw
      cases hw
  · rw [mem_group] at hk
    exact ⟨fun _ => .inr hk.2.2.2, fun _ => .inr ⟨hle, hlt⟩⟩
  · rw [mem_group] at hk
    refine ⟨fun _ => by omega, ?_⟩
    rintro (hp | hw)
    · exact absurd hp hk.2.1
    · rw [hk.2.2.2] at hw
      cases hw

end VrfClient.Message
