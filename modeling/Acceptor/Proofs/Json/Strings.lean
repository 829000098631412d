import Acceptor.Json.Reader
import Acceptor.Json.Printer
import Mathlib.Tactic.SplitIfs

/-!
Printed strings are read back.

A string is read in two steps, code units first and characters after them.  `units` stands in
between: the code units that a character is written as.
-/

namespace Acceptor.Json

/-- The code units of a character: one up to U+FFFF, and two halves above. -/
def units (c : Char) : List Nat :=
  if c.toNat < 0x10000 then [c.toNat]
  else [0xD800 + (c.toNat - 0x10000) / 0x400, 0xDC00 + (c.toNat - 0x10000) % 0x400]

theorem isValidChar_toNat (c : Char) : c.toNat < 0xD800 ∨ 0xDFFF < c.toNat ∧ c.toNat < 0x110000 :=
  c.valid

/-! ## Code units -/

theorem hexDigits_four (n : Nat) :
    Text.hexDigits 4 n =
      [Text.hexDigit (n / 16 / 16 / 16 % 16), Text.hexDigit (n / 16 / 16 % 16),
        Text.hexDigit (n / 16 % 16), Text.hexDigit (n % 16)] :=
  rfl

theorem readUnits_escapeUnit {unit : Nat} (small : unit < 0x10000) (rest : List Char) :
    readUnits (escapeUnit unit ++ rest) =
      (readUnits rest).map fun (units, rest) => (unit :: units, rest) := by
  have digit := fun n => Text.hexValue?_hexDigit (Nat.mod_lt n (by decide : 0 < 16))
  have value : (((unit / 16 / 16 / 16 % 16 * 16 + unit / 16 / 16 % 16) * 16 + unit / 16 % 16) * 16 +
      unit % 16) = unit := by
    omega
  rw [escapeUnit, hexDigits_four]
  simp only [List.cons_append, List.nil_append, readUnits, unit?, digit, Option.bind_eq_bind,
    Option.bind_some, value]

theorem readUnits_plain {c : Char} (noQuote : c ≠ '\x22') (noEscape : c ≠ '\\')
    (printable : 0x20 ≤ c.toNat) (rest : List Char) :
    readUnits (c :: rest) = (readUnits rest).map fun (units, rest) => (c.toNat :: units, rest) := by
  have accepted : ¬ (c = '\\' ∨ c.toNat < 0x20) := by
    rintro (same | small)
    · exact noEscape same
    · omega
  rw [readUnits, if_neg accepted]
  · exact noQuote
  · intro _ _ _ _ _ same
    exact absurd same noEscape
  · intro _ _ same
    exact absurd same noEscape

theorem readUnits_shortEscape {letter c : Char} (short : shortEscape? letter = some c)
    (rest : List Char) :
    readUnits ('\\' :: letter :: rest) =
      (readUnits rest).map fun (units, rest) => (c.toNat :: units, rest) := by
  rw [readUnits, short]
  rintro _ _ _ _ _ rfl
  simp [shortEscape?] at short

theorem readUnits_escapeChar (c : Char) (rest : List Char) :
    readUnits (escapeChar c ++ rest) =
      (readUnits rest).map fun (others, rest) => (units c ++ others, rest) := by
  simp only [escapeChar]
  split_ifs with quote escape newline carriageReturn tab backspace feed plain small
  · subst quote; exact readUnits_shortEscape rfl rest
  · subst escape; exact readUnits_shortEscape rfl rest
  · subst newline; exact readUnits_shortEscape rfl rest
  · subst carriageReturn; exact readUnits_shortEscape rfl rest
  · subst tab; exact readUnits_shortEscape rfl rest
  · subst backspace; exact readUnits_shortEscape rfl rest
  · subst feed; exact readUnits_shortEscape rfl rest
  · rw [units, if_pos (by omega)]
    exact readUnits_plain quote escape plain.1 rest
  · rw [units, if_pos small]
    exact readUnits_escapeUnit small rest
  · have valid := isValidChar_toNat c
    rw [units, if_neg small, List.append_assoc, readUnits_escapeUnit (by omega),
      readUnits_escapeUnit (by omega)]
    cases readUnits rest <;> rfl

theorem readUnits_flatMap_escapeChar (text rest : List Char) :
    readUnits (text.flatMap escapeChar ++ '\x22' :: rest) = .ok (text.flatMap units, rest) := by
  induction text with
  | nil => rfl
  | cons c text inductionHypothesis =>
      rw [List.flatMap_cons, List.append_assoc, readUnits_escapeChar, inductionHypothesis]
      rfl

/-! ## Halves -/

theorem joinHalves_units (c : Char) (others : List Nat) :
    joinHalves (units c ++ others) = c :: joinHalves others := by
  have valid := isValidChar_toNat c
  unfold units
  split
  next small =>
    have whole : isHighHalf c.toNat = false ∧ isLowHalf c.toNat = false := by
      simp [isHighHalf, isLowHalf]
      omega
    have char : charOfUnit c.toNat = c := by
      simp [charOfUnit, whole]
    cases others with
    | nil => simp [joinHalves, char]
    | cons next others => simp [joinHalves, char, whole]
  next large =>
    have halves : isHighHalf (0xD800 + (c.toNat - 0x10000) / 0x400) = true ∧
        isLowHalf (0xDC00 + (c.toNat - 0x10000) % 0x400) = true := by
      simp [isHighHalf, isLowHalf]
      omega
    have number : 0x10000 + (0xD800 + (c.toNat - 0x10000) / 0x400 - 0xD800) * 0x400 +
        (0xDC00 + (c.toNat - 0x10000) % 0x400 - 0xDC00) = c.toNat := by
      omega
    simp only [List.cons_append, List.nil_append, joinHalves, halves, Bool.and_self, if_true,
      number, Char.ofNat_toNat]

theorem joinHalves_flatMap_units (text : List Char) : joinHalves (text.flatMap units) = text := by
  induction text with
  | nil => rfl
  | cons c text inductionHypothesis =>
      rw [List.flatMap_cons, joinHalves_units, inductionHypothesis]

/-- What is printed of a string after its opening quote is read as the string. -/
theorem readString_flatMap_escapeChar (value : String) (rest : List Char) :
    readString (value.toList.flatMap escapeChar ++ '\x22' :: rest) = .ok (value, rest) := by
  rw [readString, readUnits_flatMap_escapeChar]
  simp only [Except.map, joinHalves_flatMap_units, String.ofList_toList]

end Acceptor.Json
