import VrfClient.Text.Invisible

/-!
Classes of characters, as ranges of code points: blanks, decimal digits, and the characters that a
message shows as an escape because they have no visible form of their own. -/

namespace VrfClient.Text

/-- Whether a code point lies in one of the ranges, ends included. -/
def within (ranges : List (Nat × Nat)) (c : Char) : Bool :=
  ranges.any fun r => r.1 ≤ c.toNat && c.toNat ≤ r.2

/-- Blank characters beyond ASCII. -/
def wideBlanks : List (Nat × Nat) :=
  [(0x85, 0x85), (0xa0, 0xa0), (0x1680, 0x1680), (0x2000, 0x200a), (0x2028, 0x2029),
   (0x202f, 0x202f), (0x205f, 0x205f), (0x3000, 0x3000)]

/-- Blank characters: the ASCII ones, the four separators from `0x1c`, and the wide ones. -/
def isBlank (c : Char) : Bool := within ([(0x09, 0x0d), (0x1c, 0x20)] ++ wideBlanks) c

/-- Blanks that may surround a number: without the four separators. -/
def isNumberBlank (c : Char) : Bool := within ([(0x09, 0x0d), (0x20, 0x20)] ++ wideBlanks) c

/-- The text without its trailing blanks. -/
def trimEnd (cs : List Char) : List Char := (cs.reverse.dropWhile isBlank).reverse

/-- The zeros of the decimal digit rows; nine more digits follow each. -/
def digitZeros : List Nat :=
  [0x30, 0x660, 0x6f0, 0x7c0, 0x966, 0x9e6, 0xa66, 0xae6, 0xb66, 0xbe6, 0xc66, 0xce6, 0xd66, 0xde6,
   0xe50, 0xed0, 0xf20, 0x1040, 0x1090, 0x17e0, 0x1810, 0x1946, 0x19d0, 0x1a80, 0x1a90, 0x1b50,
   0x1bb0, 0x1c40, 0x1c50, 0xa620, 0xa8d0, 0xa900, 0xa9d0, 0xa9f0, 0xaa50, 0xabf0, 0xff10, 0x104a0,
   0x10d30, 0x11066, 0x110f0, 0x11136, 0x111d0, 0x112f0, 0x11450, 0x114d0, 0x11650, 0x116c0,
   0x11730, 0x118e0, 0x11950, 0x11c50, 0x11d50, 0x11da0, 0x16a60, 0x16ac0, 0x16b50, 0x1d7ce,
   0x1d7d8, 0x1d7e2, 0x1d7ec, 0x1d7f6, 0x1e140, 0x1e2f0, 0x1e950, 0x1fbf0]

/-- The value of a decimal digit of any script. -/
def decimalDigit? (c : Char) : Option Nat :=
  digitZeros.findSome? fun z => if z ≤ c.toNat ∧ c.toNat ≤ z + 9 then some (c.toNat - z) else none

/-- Whether a message shows the character itself. Printed ASCII is settled without the table. -/
def isVisible (c : Char) : Bool := (' ' ≤ c && c ≤ '~') || !within invisible c

/-- The table leaves out printed ASCII. -/
theorem printed_not_mem_invisible : ∀ r ∈ invisible, r.2 < 32 ∨ 126 < r.1 := by decide +kernel

/-- A character is visible exactly if the table leaves it out. -/
theorem isVisible_eq (c : Char) : isVisible c = !within invisible c := by
  by_cases h : 32 ≤ c.toNat ∧ c.toNat ≤ 126
  · have out : within invisible c = false := by
      rw [within, List.any_eq_false]
      intro r hr
      have := printed_not_mem_invisible r hr
      simp only [Bool.and_eq_true, decide_eq_true_eq]
      omega
    simp [isVisible, out]
  · have shown : (' ' ≤ c && c ≤ '~') = false := by
      rw [Bool.eq_false_iff]
      intro both
      simp only [Bool.and_eq_true, decide_eq_true_eq] at both
      exact h both
    rw [isVisible, shown, Bool.false_or]

end VrfClient.Text
