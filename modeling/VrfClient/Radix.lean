/-!
Positional numerals. `digits` writes a number in a base, least significant digit first and without
a trailing zero; `value` reads a digit list back. The two are inverse, and digits stay below the
base. Base 58 text, big-endian byte strings and decimal text are all built on this pair. -/

-- Powers of numbers are the core library's, also where an algebraic hierarchy offers others.
attribute [instance (high), default_instance (high + 1)] instPowNat

namespace VrfClient.Radix

/-- Digits of `n`, least significant first; `fuel` bounds their number. -/
def digitsUpTo (base : Nat) : Nat → Nat → List Nat
  | 0, _ => []
  | fuel + 1, n => if n = 0 then [] else n % base :: digitsUpTo base fuel (n / base)

/-- Digits of `n` in `base ≥ 2`, least significant first. No numeral is longer than the binary one. -/
def digits (base n : Nat) : List Nat := digitsUpTo base (n.log2 + 1) n

/-- The number that a digit list, least significant first, stands for. -/
def value (base : Nat) : List Nat → Nat
  | [] => 0
  | d :: ds => d + base * value base ds

/-- Horner's rule: the value of a digit list, most significant first. -/
def horner (base : Nat) (ds : List Nat) : Nat := ds.foldl (fun acc d => acc * base + d) 0

theorem digitsUpTo_lt {base : Nat} (hb : 0 < base) :
    ∀ (fuel n : Nat), ∀ d ∈ digitsUpTo base fuel n, d < base
  | 0, _, _, hd => by simp [digitsUpTo] at hd
  | fuel + 1, n, d, hd => by
    unfold digitsUpTo at hd
    split at hd
    · simp at hd
    · rcases List.mem_cons.1 hd with rfl | hd
      · exact Nat.mod_lt _ hb
      · exact digitsUpTo_lt hb fuel _ d hd

theorem value_digitsUpTo {base : Nat} (hb : 2 ≤ base) :
    ∀ (fuel n : Nat), n < 2 ^ fuel → value base (digitsUpTo base fuel n) = n
  | 0, n, h => by
    have : n = 0 := by omega
    subst this; rfl
  | fuel + 1, n, h => by
    unfold digitsUpTo
    split
    · rename_i h0; subst h0; rfl
    · have hlt : n / base < 2 ^ fuel := by
        rw [Nat.pow_succ] at h
        calc n / base ≤ n / 2 := Nat.div_le_div_left hb (by omega)
          _ < 2 ^ fuel := by omega
      rw [value, value_digitsUpTo hb fuel _ hlt]
      exact Nat.mod_add_div n base

/-- Writing a number and reading it back gives the number. -/
theorem value_digits {base : Nat} (hb : 2 ≤ base) (n : Nat) : value base (digits base n) = n :=
  value_digitsUpTo hb _ n Nat.lt_log2_self

theorem digits_lt {base : Nat} (hb : 0 < base) (n : Nat) : ∀ d ∈ digits base n, d < base :=
  digitsUpTo_lt hb _ n

/-- Horner's rule agrees with the value of the reversed list. -/
theorem horner_eq_value_reverse (base : Nat) (ds : List Nat) :
    horner base ds = value base ds.reverse := by
  have key : ∀ (ds : List Nat) (acc : Nat) (ls : List Nat), acc = value base ls →
      ds.foldl (fun acc d => acc * base + d) acc = value base (ds.reverse ++ ls) := by
    intro ds
    induction ds with
    | nil => intro acc ls h; simpa using h
    | cons d ds ih =>
      intro acc ls h
      rw [List.foldl_cons, ih _ (d :: ls) (by rw [value, ← h, Nat.mul_comm, Nat.add_comm])]
      simp
  simpa [horner] using key ds 0 [] rfl

end VrfClient.Radix
