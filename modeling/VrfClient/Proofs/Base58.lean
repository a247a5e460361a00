import Mathlib.Data.Nat.Digits.Lemmas
import Mathlib.Data.String.Basic
import VrfClient.Address
import VrfClient.Text.Classes

/-!
The text of a byte string reads back as the byte string. The digits of a numeral are those of `Nat.digits`,
so a numeral without leading zeros is determined by its value; the leading zeros are carried over one for
one. `recode_recode` says so of any two bases, `decode?_eq_some_iff` of byte strings and their texts: each
has exactly one text. A text is no longer than the largest value of its length needs
(`utf8ByteSize_encode_le`), so no text of an address or a signature is refused for its size. -/

namespace VrfClient

namespace Radix

variable {b b' : Nat}

theorem value_eq_ofDigits (b : Nat) : ∀ ds : List Nat, value b ds = Nat.ofDigits b ds
  | [] => by simp [value, Nat.ofDigits]
  | d :: ds => by rw [value, value_eq_ofDigits b ds, Nat.ofDigits_cons]

theorem digitsUpTo_eq_digits (hb : 1 < b) :
    ∀ (fuel n : Nat), n < 2 ^ fuel → digitsUpTo b fuel n = Nat.digits b n
  | 0, n, h => by
    obtain rfl : n = 0 := by simpa using h
    simp [digitsUpTo]
  | fuel + 1, n, h => by
    unfold digitsUpTo
    split
    · rename_i h0
      simp [h0]
    · rename_i h0
      have hlt : n / b < 2 ^ fuel := by
        rw [Nat.pow_succ] at h
        calc n / b ≤ n / 2 := Nat.div_le_div_left hb (by omega)
          _ < 2 ^ fuel := by omega
      rw [Nat.digits_def' hb (Nat.pos_of_ne_zero h0), digitsUpTo_eq_digits hb fuel _ hlt]

theorem digits_eq_digits (hb : 1 < b) (n : Nat) : digits b n = Nat.digits b n :=
  digitsUpTo_eq_digits hb _ n Nat.lt_log2_self

theorem horner_eq_ofDigits (b : Nat) (ds : List Nat) : horner b ds = Nat.ofDigits b ds.reverse := by
  rw [horner_eq_value_reverse, value_eq_ofDigits]

/-- Leading zeros add nothing. -/
theorem horner_replicate_append (b z : Nat) (ds : List Nat) :
    horner b (List.replicate z 0 ++ ds) = horner b ds := by
  simp [horner_eq_ofDigits, Nat.ofDigits_append_replicate_zero]

/-- The leading zeros of a digit list, and the rest. -/
theorem exists_leading_zeros (ds : List Nat) :
    ∃ z es, ds = List.replicate z 0 ++ es ∧ es.head? ≠ some 0 := by
  induction ds with
  | nil => exact ⟨0, [], rfl, by simp⟩
  | cons d ds ih =>
    by_cases hd : d = 0
    · obtain ⟨z, es, rfl, he⟩ := ih
      exact ⟨z + 1, es, by rw [hd, List.replicate_succ, List.cons_append], he⟩
    · exact ⟨0, d :: ds, rfl, by simpa using hd⟩

theorem takeWhile_leading_zeros {z : Nat} {es : List Nat} (he : es.head? ≠ some 0) :
    (List.replicate z 0 ++ es).takeWhile (· == 0) = List.replicate z 0 := by
  rw [List.takeWhile_append_of_pos (by simp [List.mem_replicate])]
  cases es with
  | nil => simp
  | cons e es =>
    have hne : e ≠ 0 := by simpa using he
    simp [hne]

/-- Leading zeros are carried over one for one, the rest by value. -/
theorem recode_leading_zeros {z : Nat} {es : List Nat} (he : es.head? ≠ some 0) :
    recode b b' (List.replicate z 0 ++ es) =
      List.replicate z 0 ++ (digits b' (horner b es)).reverse := by
  rw [recode, takeWhile_leading_zeros he, horner_replicate_append, List.length_replicate]

/-- A numeral starts with a digit other than zero. -/
theorem head?_digits_reverse (hb : 1 < b) (n : Nat) : (digits b n).reverse.head? ≠ some 0 := by
  rw [digits_eq_digits hb, List.head?_reverse]
  intro h
  have hne : Nat.digits b n ≠ [] := by
    rintro h0
    simp [h0] at h
  have hn : n ≠ 0 := Nat.digits_ne_nil_iff_ne_zero.1 hne
  rw [List.getLast?_eq_some_getLast hne] at h
  exact Nat.getLast_digit_ne_zero b hn (Option.some.inj h)

/-- A digit list that does not start with zero is the numeral of its value. -/
theorem digits_horner (hb : 1 < b) {es : List Nat} (hes : ∀ d ∈ es, d < b)
    (he : es.head? ≠ some 0) : (digits b (horner b es)).reverse = es := by
  rw [digits_eq_digits hb, horner_eq_ofDigits, Nat.digits_ofDigits b hb, List.reverse_reverse]
  · exact fun d hd => hes d (List.mem_reverse.1 hd)
  · intro hne h0
    refine he ?_
    rw [List.getLast_reverse] at h0
    rw [List.head?_eq_some_head (by simpa using hne), h0]

/-- Recoding to another base and back changes nothing. -/
theorem recode_recode (hb : 1 < b) (hb' : 1 < b') {ds : List Nat} (hds : ∀ d ∈ ds, d < b) :
    recode b' b (recode b b' ds) = ds := by
  obtain ⟨z, es, rfl, he⟩ := exists_leading_zeros ds
  have hes : ∀ d ∈ es, d < b := fun d hd => hds d (List.mem_append_right _ hd)
  have hvalue : horner b' (digits b' (horner b es)).reverse = horner b es := by
    rw [horner_eq_value_reverse, List.reverse_reverse, value_digits hb']
  rw [recode_leading_zeros he, recode_leading_zeros (head?_digits_reverse hb' _), hvalue,
    digits_horner hb hes he]

theorem recode_lt (hb' : 1 < b') (ds : List Nat) : ∀ d ∈ recode b b' ds, d < b' := by
  intro d hd
  rcases List.mem_append.1 hd with hd | hd
  · rw [List.eq_of_mem_replicate hd]
    omega
  · exact digits_lt (by omega) _ d (List.mem_reverse.1 hd)

/-- If every numeral of this length has a value that fits into `l` digits of a smaller base, recoding
gives no more than `l` digits, leading zeros included. -/
theorem length_recode_le (hb' : 1 < b') (hle : b' ≤ b) {ds : List Nat} (hds : ∀ d ∈ ds, d < b)
    {l : Nat} (hl : b ^ ds.length ≤ b' ^ l) : (recode b b' ds).length ≤ l := by
  obtain ⟨z, es, rfl, he⟩ := exists_leading_zeros ds
  have hes : ∀ d ∈ es.reverse, d < b :=
    fun d hd => hds d (List.mem_append_right _ (List.mem_reverse.1 hd))
  have hlength : (List.replicate z 0 ++ es).length = z + es.length := by simp
  rw [hlength] at hl
  -- Each leading zero is worth at least as much in the larger base, so it may be taken off both sides.
  have hz : z ≤ l := by
    have hzl : b' ^ z ≤ b' ^ l := calc
      b' ^ z ≤ b ^ z := Nat.pow_le_pow_left hle z
      _ ≤ b ^ (z + es.length) := Nat.pow_le_pow_right (by omega) (Nat.le_add_right _ _)
      _ ≤ b' ^ l := hl
    exact (Nat.pow_le_pow_iff_right hb').1 hzl
  have hrest : b ^ es.length ≤ b' ^ (l - z) := by
    refine Nat.le_of_mul_le_mul_left ?_ (Nat.pow_pos (n := z) (show 0 < b' by omega))
    calc b' ^ z * b ^ es.length ≤ b ^ z * b ^ es.length :=
          Nat.mul_le_mul_right _ (Nat.pow_le_pow_left hle z)
      _ = b ^ (z + es.length) := (Nat.pow_add ..).symm
      _ ≤ b' ^ l := hl
      _ = b' ^ z * b' ^ (l - z) := by rw [← Nat.pow_add, Nat.add_sub_cancel' hz]
  have hvalue : horner b es < b ^ es.length := by
    rw [horner_eq_ofDigits, ← @List.length_reverse _ es]
    exact Nat.ofDigits_lt_base_pow_length (by omega) hes
  have hdigits : (digits b' (horner b es)).length ≤ l - z := by
    rw [digits_eq_digits hb', Nat.digits_length_le_iff hb']
    omega
  rw [recode_leading_zeros he, List.length_append, List.length_replicate, List.length_reverse]
  omega

end Radix

namespace Base58

theorem digit?_char : ∀ d < 58, digit? (char d) = some d := by decide +kernel

/-- No digit is a blank, so trimming a text leaves it alone. -/
theorem isBlank_char : ∀ d < 58, Text.isBlank (char d) = false := by decide +kernel

theorem mapM_digit?_char : ∀ ds : List Nat, (∀ d ∈ ds, d < 58) → (ds.map char).mapM digit? = some ds
  | [], _ => rfl
  | d :: ds, h => by
    have hd : digit? (char d) = some d := digit?_char d (h d (by simp))
    have hds := mapM_digit?_char ds fun e he => h e (List.mem_cons_of_mem _ he)
    simp [List.mapM_cons, hd, hds]

/-- The text of a byte string reads back as the byte string. -/
theorem decode?_encode (bs : Bytes) : decode? (encode bs) = some bs := by
  have hbytes : ∀ d ∈ bs.map UInt8.toNat, d < 256 := by
    intro d hd
    obtain ⟨c, _, rfl⟩ := List.mem_map.1 hd
    exact c.toNat_lt
  have hchars : ∀ d ∈ Radix.recode 256 58 (bs.map UInt8.toNat), d < 58 :=
    Radix.recode_lt (by decide) _
  rw [decode?, encode, String.toList_ofList, mapM_digit?_char _ hchars, Option.map_some,
    Radix.recode_recode (by decide) (by decide) hbytes, List.map_map]
  simp [Function.comp_def]

/-- A digit is the character of its value. -/
theorem char_of_digit? {c : Char} {d : Nat} (h : digit? c = some d) : char d = c ∧ d < 58 := by
  obtain ⟨hd, hc, -⟩ := List.idxOf?_eq_some_iff.1 h
  refine ⟨?_, hd⟩
  rw [char, List.getD_eq_getElem?_getD, List.getElem?_eq_getElem hd]
  exact hc

theorem map_char_of_mapM_digit? : ∀ {cs : List Char} {ds : List Nat}, cs.mapM digit? = some ds →
    ds.map char = cs ∧ ∀ d ∈ ds, d < 58
  | [], ds, h => by
    obtain rfl : ds = [] := by simpa using h.symm
    simp
  | c :: cs, ds, h => by
    simp only [List.mapM_cons, Option.bind_eq_bind, Option.bind_eq_some_iff, Option.pure_def,
      Option.some.injEq] at h
    obtain ⟨d, hd, es, hes, rfl⟩ := h
    obtain ⟨hchar, hlt⟩ := char_of_digit? hd
    obtain ⟨hchars, hlts⟩ := map_char_of_mapM_digit? hes
    exact ⟨by rw [List.map_cons, hchar, hchars], List.forall_mem_cons.2 ⟨hlt, hlts⟩⟩

/-- Only the text of a byte string reads as the byte string. -/
theorem encode_of_decode? {text : String} {bs : Bytes} (h : decode? text = some bs) :
    encode bs = text := by
  obtain ⟨ds, hds, rfl⟩ := Option.map_eq_some_iff.1 h
  obtain ⟨hchars, hlts⟩ := map_char_of_mapM_digit? hds
  rw [encode, Bytes.map_toNat_ofNat (Radix.recode_lt (by decide) ds),
    Radix.recode_recode (by decide) (by decide) hlts, hchars, String.ofList_toList]

/-- A text reads as a byte string exactly if it is the text of the byte string. -/
theorem decode?_eq_some_iff {text : String} {bs : Bytes} :
    decode? text = some bs ↔ text = encode bs :=
  ⟨fun h => (encode_of_decode? h).symm, fun h => h ▸ decode?_encode bs⟩

theorem utf8Size_char : ∀ d < 58, (char d).utf8Size = 1 := by decide +kernel

theorem utf8Len_map_char : ∀ ds : List Nat, (∀ d ∈ ds, d < 58) →
    String.utf8Len (ds.map char) = ds.length
  | [], _ => rfl
  | d :: ds, h => by
    rw [List.map_cons, String.utf8Len, utf8Size_char d (h d (by simp)),
      utf8Len_map_char ds fun e he => h e (List.mem_cons_of_mem _ he), List.length_cons]

/-- If byte strings of this length have no more values than there are texts of `l` characters, their
texts have at most `l` bytes. -/
theorem utf8ByteSize_encode_le {bs : Bytes} {l : Nat} (hl : 256 ^ bs.length ≤ 58 ^ l) :
    (encode bs).utf8ByteSize ≤ l := by
  rw [encode, String.utf8ByteSize_ofList, utf8Len_map_char _ (Radix.recode_lt (by decide) _)]
  refine Radix.length_recode_le (by decide) (by decide) (fun d hd => ?_) (by simpa using hl)
  obtain ⟨c, _, rfl⟩ := List.mem_map.1 hd
  exact c.toNat_lt

/-- A text has no trailing blanks. -/
theorem trimEnd_encode (bs : Bytes) : Text.trimEnd (encode bs).toList = (encode bs).toList := by
  have hblank : ∀ c ∈ (encode bs).toList.reverse, Text.isBlank c = false := by
    intro c hc
    rw [encode, String.toList_ofList, List.mem_reverse] at hc
    obtain ⟨d, hd, rfl⟩ := List.mem_map.1 hc
    exact isBlank_char d (Radix.recode_lt (by decide) _ d hd)
  cases hr : (encode bs).toList.reverse with
  | nil => simp [Text.trimEnd, List.reverse_eq_nil_iff.1 hr]
  | cons c cs =>
    rw [Text.trimEnd, hr, List.dropWhile_cons_of_neg (by simp [hblank c (by simp [hr])]), ← hr,
      List.reverse_reverse]

end Base58

/-! ### Texts of addresses and signatures -/

namespace Address

theorem utf8ByteSize_text_le (a : Address) : a.text.utf8ByteSize ≤ maxTextLength :=
  Base58.utf8ByteSize_encode_le (by rw [a.length_bytes]; decide)

/-- A text shows an address exactly if it is the text of the address. -/
theorem ofText_eq_ok_iff {t : String} {a : Address} : ofText t = .ok a ↔ t = a.text := by
  constructor
  · intro h
    unfold ofText at h
    split at h
    · cases h
    split at h
    · cases h
    · rename_i bs hbs
      split at h
      · rename_i found hfound
        cases h
        rw [Octets.ofBytes?_eq_some_iff] at hfound
        rw [text, ← hfound]
        exact Base58.decode?_eq_some_iff.1 hbs
      · cases h
  · rintro rfl
    rw [ofText, if_neg (Nat.not_lt.2 a.utf8ByteSize_text_le), text, Base58.decode?_encode]
    simp only [Octets.ofBytes?_bytes]

end Address

namespace Signature

theorem utf8ByteSize_text_le (s : Signature) : s.text.utf8ByteSize ≤ maxTextLength :=
  Base58.utf8ByteSize_encode_le (by rw [s.length_bytes]; decide)

/-- The text of a signature shows the signature. -/
theorem ofText_text (s : Signature) : ofText s.text = .ok s := by
  rw [ofText, if_neg (Nat.not_lt.2 s.utf8ByteSize_text_le), text, Base58.decode?_encode]
  simp only [Octets.ofBytes?_bytes]

end Signature

end VrfClient
