import Acceptor.Json.Reader
import Acceptor.Json.Printer

/-!
Printed integers are read back, whatever follows them that cannot go on with a number.
-/

namespace Acceptor.Json

def EndsNumber (text : List Char) : Prop :=
  ∀ c, text.head? = some c → c.isDigit = false ∧ c ≠ '.' ∧ c ≠ 'e' ∧ c ≠ 'E'

def IsShort (value : Int) : Prop :=
  (Nat.toDigits 10 value.natAbs).length ≤ maxDigits

theorem natOfDigits_eq_ofDigitChars (digits : List Char) :
    natOfDigits digits = Nat.ofDigitChars 10 digits 0 :=
  Nat.ofDigitChars_eq_foldl.symm

theorem natOfDigits_toDigits (n : Nat) : natOfDigits (Nat.toDigits 10 n) = n := by
  rw [natOfDigits_eq_ofDigitChars, Nat.ofDigitChars_ten_toDigits]

theorem isDigit_of_mem_toDigits {n : Nat} {c : Char} (membership : c ∈ Nat.toDigits 10 n) :
    c.isDigit = true :=
  Nat.isDigit_of_mem_toDigits (by decide) (by decide) membership

theorem exists_toDigits_eq_cons (n : Nat) :
    ∃ first others, Nat.toDigits 10 n = first :: others ∧ first.isDigit = true := by
  obtain ⟨first, others, digits⟩ :=
    List.exists_cons_of_ne_nil (Nat.toDigits_ne_nil (n := n) (b := 10))
  exact ⟨first, others, digits, isDigit_of_mem_toDigits (digits ▸ List.mem_cons_self)⟩

/-- No number but zero begins with a zero. -/
theorem head?_toDigits_ne {n : Nat} (positive : 0 < n) :
    (Nat.toDigits 10 n).head? ≠ some '0' := by
  induction n using Nat.strongRecOn with
  | ind n inductionHypothesis =>
      rw [Nat.toDigits_eq_if (by decide)]
      split
      next small =>
        simp only [List.head?_cons, ne_eq, Option.some.injEq, Nat.digitChar_eq_zero]
        omega
      next large =>
        have front := inductionHypothesis (n / 10) (by omega) (by omega)
        obtain ⟨first, others, digits, _⟩ := exists_toDigits_eq_cons (n / 10)
        rw [digits] at front ⊢
        exact front

theorem spanDigits_append {digits rest : List Char}
    (areDigits : ∀ c ∈ digits, c.isDigit = true) (ends : EndsNumber rest) :
    spanDigits (digits ++ rest) = (digits, rest) := by
  have noDigits : rest.takeWhile Char.isDigit = [] ∧ rest.dropWhile Char.isDigit = rest := by
    cases rest with
    | nil => exact ⟨rfl, rfl⟩
    | cons c rest => simp [(ends c rfl).1]
  rw [spanDigits, List.takeWhile_append_of_pos areDigits, List.dropWhile_append_of_pos areDigits,
    noDigits.1, noDigits.2, List.append_nil]

theorem readIntegerDigits?_toDigits (n : Nat) {rest : List Char} (ends : EndsNumber rest) :
    readIntegerDigits? (Nat.toDigits 10 n ++ rest) = some (Nat.toDigits 10 n, rest) := by
  have span := spanDigits_append (fun _ => isDigit_of_mem_toDigits (n := n)) ends
  rcases Nat.eq_zero_or_pos n with rfl | positive
  · rw [Nat.toDigits_zero]
    rfl
  · have head := head?_toDigits_ne positive
    obtain ⟨first, others, digits, _⟩ := exists_toDigits_eq_cons n
    rw [digits] at head span ⊢
    unfold readIntegerDigits?
    split
    next same => simp_all
    · rw [span]

theorem spanFraction_eq {text : List Char} (ends : EndsNumber text) :
    spanFraction text = ([], text) := by
  unfold spanFraction
  split
  · exact absurd rfl (ends '.' rfl).2.1
  · rfl

theorem spanExponent_eq {text : List Char} (ends : EndsNumber text) :
    spanExponent text = ([], text) := by
  unfold spanExponent
  split
  · rfl
  next c rest =>
    have ⟨_, _, small, capital⟩ := ends c rfl
    simp [small, capital]

theorem readNumber_toDigits (negative : Bool) {n : Nat}
    (short : (Nat.toDigits 10 n).length ≤ maxDigits) {rest : List Char} (ends : EndsNumber rest) :
    readNumber negative (Nat.toDigits 10 n ++ rest) =
      .ok (.integer (if negative then -n else n), rest) := by
  simp only [readNumber, readIntegerDigits?_toDigits n ends, spanFraction_eq ends,
    spanExponent_eq ends, natOfDigits_toDigits, short, and_self, if_true]

theorem toList_toString_of_nonneg {value : Int} (nonneg : 0 ≤ value) :
    (toString value).toList = Nat.toDigits 10 value.natAbs := by
  change value.repr.toList = _
  have same : value.toNat = value.natAbs := by omega
  rw [Int.repr_eq_if, if_pos nonneg, Nat.repr_eq_ofList_toDigits, String.toList_ofList, same]

theorem toList_toString_of_neg {value : Int} (negative : value < 0) :
    (toString value).toList = '-' :: Nat.toDigits 10 value.natAbs := by
  change value.repr.toList = _
  have same : (-value).toNat = value.natAbs := by omega
  rw [Int.repr_eq_if, if_neg (by omega), Nat.repr_eq_ofList_toDigits, String.toList_append, same,
    String.toList_ofList, String.toList_ofList]
  rfl

theorem readWord_of_isDigit {first : Char} (isDigit : first.isDigit = true) (text : List Char) :
    readWord (first :: text) = readNumber false (first :: text) := by
  unfold readWord
  split <;> simp_all

theorem readWord_minus {first : Char} (isDigit : first.isDigit = true) (text : List Char) :
    readWord ('-' :: first :: text) = readNumber true (first :: text) := by
  unfold readWord
  split <;> simp_all

theorem readWord_toString {value : Int} (short : IsShort value) {rest : List Char}
    (ends : EndsNumber rest) :
    readWord ((toString value).toList ++ rest) = .ok (.integer value, rest) := by
  obtain ⟨first, others, digits, isDigit⟩ := exists_toDigits_eq_cons value.natAbs
  have read := fun negative => readNumber_toDigits negative short ends
  rcases Int.lt_or_le value 0 with negative | nonneg
  · rw [toList_toString_of_neg negative]
    have same : -(value.natAbs : Int) = value := by omega
    have readNegative := read true
    rw [digits] at readNegative ⊢
    rw [List.cons_append, List.cons_append, readWord_minus isDigit, ← List.cons_append,
      readNegative, if_pos rfl, same]
  · rw [toList_toString_of_nonneg nonneg]
    have same : (value.natAbs : Int) = value := by omega
    have readPositive := read false
    rw [digits] at readPositive ⊢
    rw [List.cons_append, readWord_of_isDigit isDigit, ← List.cons_append, readPositive,
      if_neg (by decide), same]

end Acceptor.Json
