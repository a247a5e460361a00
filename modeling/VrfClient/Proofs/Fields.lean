import VrfClient.Wire.Codec

/-!
Fields of a layout. A field is written exactly if its value fits, and a sequence of steps that may fail
succeeds exactly if each step does; so what a layout of several fields takes is read off its parts. -/

namespace VrfClient

@[simp] theorem ok_bind {ε α β : Type} (a : α) (f : α → Except ε β) : Except.ok a >>= f = f a := rfl

@[simp] theorem error_bind {ε α β : Type} (e : ε) (f : α → Except ε β) :
    Except.error e >>= f = .error e := rfl

@[simp] theorem pure_eq_ok {ε α : Type} (a : α) : (pure a : Except ε α) = .ok a := rfl

@[simp] theorem mapError_ok {ε ε' α : Type} (a : α) (f : ε → ε') :
    (Except.ok a).mapError f = .ok a := rfl

@[simp] theorem mapError_error {ε ε' α : Type} (e : ε) (f : ε → ε') :
    (Except.error e : Except ε α).mapError f = .error (f e) := rfl

/-- A sequence of steps that succeeds does so at each step. -/
theorem bind_eq_ok {ε α β : Type} {e : Except ε α} {f : α → Except ε β} {b : β} :
    e >>= f = .ok b ↔ ∃ a, e = .ok a ∧ f a = .ok b := by
  cases e <;> simp [bind, Except.bind]

/-- What does not succeed fails. -/
theorem exists_eq_error {ε α : Type} {e : Except ε α} (h : ∀ a, e ≠ .ok a) :
    ∃ fault, e = .error fault := by
  cases e with
  | error fault => exact ⟨fault, rfl⟩
  | ok a => exact absurd rfl (h a)

/-- A field that ends within the front is read from the front. -/
theorem Bytes.slice_append_of_le {front : Bytes} {start len : Nat} (h : start + len ≤ front.length)
    (rest : Bytes) : slice (front ++ rest) start len = slice front start len := by
  have hstart : start ≤ front.length := by omega
  have hlen : len ≤ (front.drop start).length := by
    rw [List.length_drop]
    omega
  rw [slice, slice, List.drop_append_of_le_length hstart, List.take_append_of_le_length hlen]

namespace Wire

/-- A byte string fits a field of its own length. -/
theorem fixed_eq_ok_iff {length : Nat} {bs data : Bytes} :
    fixed length bs = .ok data ↔ bs.length = length ∧ data = bs := by
  unfold fixed
  split
  · rename_i h
    simp [h, eq_comm]
  · rename_i h
    simp [h]

/-- A number fits a field of so many bytes if it is a numeral of so many digits. -/
theorem number_eq_ok_iff {width : Nat} {n : Int} {data : Bytes} :
    number width n = .ok data ↔
      (0 ≤ n ∧ n < 256 ^ width) ∧ data = Bytes.ofNatLE width n.toNat := by
  unfold number
  split
  · rename_i h
    simp [h, eq_comm]
  · rename_i h
    simp [h]

end Wire

end VrfClient
