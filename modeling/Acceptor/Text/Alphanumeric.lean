/-!
Letters and digits of the Latin, Greek and Cyrillic scripts, raised digits among them.
-/

namespace Acceptor.Text

def alphanumericRanges : List (Nat × Nat) :=
  [(0x30, 0x39), (0x41, 0x5A), (0x61, 0x7A), (0xAA, 0xAA), (0xB2, 0xB3), (0xB5, 0xB5),
   (0xB9, 0xBA), (0xC0, 0xD6), (0xD8, 0xF6), (0xF8, 0x24F), (0x370, 0x374), (0x376, 0x377),
   (0x37A, 0x37D), (0x37F, 0x37F), (0x386, 0x386), (0x388, 0x38A), (0x38C, 0x38C), (0x38E, 0x3A1),
   (0x3A3, 0x3E1), (0x3F0, 0x3F5), (0x3F7, 0x481), (0x48A, 0x52F), (0x1C80, 0x1C88),
   (0x1D26, 0x1D2B), (0x1D5E, 0x1D5E), (0x1D60, 0x1D60), (0x1D66, 0x1D6A), (0x1D78, 0x1D78),
   (0x1F00, 0x1F15), (0x1F18, 0x1F1D), (0x1F20, 0x1F45), (0x1F48, 0x1F4D), (0x1F50, 0x1F57),
   (0x1F59, 0x1F59), (0x1F5B, 0x1F5B), (0x1F5D, 0x1F5D), (0x1F5F, 0x1F7D), (0x1F80, 0x1FB4),
   (0x1FB6, 0x1FBC), (0x1FBE, 0x1FBE), (0x1FC2, 0x1FC4), (0x1FC6, 0x1FCC), (0x1FD0, 0x1FD3),
   (0x1FD6, 0x1FDB), (0x1FE0, 0x1FEC), (0x1FF2, 0x1FF4), (0x1FF6, 0x1FFC), (0xA640, 0xA66E),
   (0xA67F, 0xA69D), (0xAB65, 0xAB65)]

def isAlphanumeric (c : Char) : Bool :=
  alphanumericRanges.any fun range => range.1 ≤ c.toNat && c.toNat ≤ range.2

example : alphanumericRanges.length = 50 := by decide

/-- The letters and digits that the core library knows are among them. -/
theorem isAlphanumeric_of_isAlphanum {c : Char} (known : c.isAlphanum = true) :
    isAlphanumeric c = true := by
  have ranges : (0x41 ≤ c.toNat ∧ c.toNat ≤ 0x5A) ∨ (0x61 ≤ c.toNat ∧ c.toNat ≤ 0x7A) ∨
      (0x30 ≤ c.toNat ∧ c.toNat ≤ 0x39) := by
    delta Char.isAlphanum Char.isAlpha Char.isUpper Char.isLower Char.isDigit at known
    simp only [Bool.or_eq_true, decide_eq_true_eq, Bool.and_eq_true, ge_iff_le,
      UInt32.le_iff_toNat_le] at known
    have value : c.val.toNat = c.toNat := rfl
    simp only [value] at known
    grind
  simp only [isAlphanumeric, alphanumericRanges, List.any_cons, Bool.or_eq_true,
    Bool.and_eq_true, decide_eq_true_eq]
  grind

end Acceptor.Text
