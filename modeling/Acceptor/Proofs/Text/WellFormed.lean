import Mathlib.Order.Bounds.Basic
import Acceptor.Proofs.Text.Utf8

/-!
Which byte sequences are well formed, and how far the others are.

The rules say which bytes make one character: no overlong form, no surrogate and nothing above
U+10FFFF.  The bytes of texts keep to the rules and no others do, and what is read before a fault is
the longest beginning that does.
-/

namespace Acceptor.Text.Utf8

variable {bytes piece rest : List UInt8} {text other : List Char} {offset : Nat}

/-! ## Rules -/

/-- Can stand after the first byte of a character. -/
def IsTail (byte : UInt8) : Prop :=
  0x80 ≤ byte.toNat ∧ byte.toNat ≤ 0xBF

/-- The bytes of one character.  The first of them tells how many there are, and after some first
bytes the second has narrower limits. -/
inductive IsSequence : List UInt8 → Prop
  | one {lead : UInt8} (range : lead.toNat ≤ 0x7F) : IsSequence [lead]
  /-- What 0xC0 and 0xC1 could begin has a shorter form. -/
  | two {lead second : UInt8} (range : 0xC2 ≤ lead.toNat ∧ lead.toNat ≤ 0xDF)
      (secondTail : IsTail second) : IsSequence [lead, second]
  | three {lead second third : UInt8} (range : 0xE0 ≤ lead.toNat ∧ lead.toNat ≤ 0xEF)
      (secondTail : IsTail second) (thirdTail : IsTail third)
      (notOverlong : lead.toNat = 0xE0 → 0xA0 ≤ second.toNat)
      (noSurrogate : lead.toNat = 0xED → second.toNat ≤ 0x9F) : IsSequence [lead, second, third]
  /-- What 0xF5 and above could begin is above U+10FFFF. -/
  | four {lead second third fourth : UInt8} (range : 0xF0 ≤ lead.toNat ∧ lead.toNat ≤ 0xF4)
      (secondTail : IsTail second) (thirdTail : IsTail third) (fourthTail : IsTail fourth)
      (notOverlong : lead.toNat = 0xF0 → 0x90 ≤ second.toNat)
      (notAbove : lead.toNat = 0xF4 → second.toNat ≤ 0x8F) :
      IsSequence [lead, second, third, fourth]

/-- The bytes of characters, one after the other. -/
inductive IsWellFormed : List UInt8 → Prop
  | nil : IsWellFormed []
  | append {piece rest : List UInt8} (isSequence : IsSequence piece)
      (wellFormed : IsWellFormed rest) : IsWellFormed (piece ++ rest)

/-- The longest well-formed beginning of the bytes ends at the offset. -/
def IsWellFormedUpTo (bytes : List UInt8) (offset : Nat) : Prop :=
  IsGreatest {length | ∃ front, front <+: bytes ∧ IsWellFormed front ∧ front.length = length} offset

/-! ## The bytes of texts -/

/-- Characters have the bytes that the core library gives them. -/
theorem encodeChar_eq_utf8EncodeChar (c : Char) : encodeChar c = String.utf8EncodeChar c := by
  have valid : c.toNat < 0xD800 ∨ 0xDFFF < c.toNat ∧ c.toNat < 0x110000 := c.valid
  have number : c.val.toNat = c.toNat := rfl
  have tail (n : Nat) : 0x80 + n % 0x40 = n % 64 + 128 := Nat.add_comm _ _
  simp only [encodeChar, String.utf8EncodeChar, number, tail]
  by_cases one : c.toNat < 0x80
  · rw [if_pos one, if_pos (by omega)]
  by_cases two : c.toNat < 0x800
  · have lead : 0xC0 + c.toNat / 0x40 = c.toNat / 64 % 32 + 192 := by omega
    rw [if_neg one, if_pos two, if_neg (by omega), if_pos (by omega), lead]
  by_cases three : c.toNat < 0x10000
  · have lead : 0xE0 + c.toNat / 0x1000 = c.toNat / 4096 % 16 + 224 := by omega
    rw [if_neg one, if_neg two, if_pos three, if_neg (by omega), if_neg (by omega),
      if_pos (by omega), lead]
  · have lead : 0xF0 + c.toNat / 0x40000 = c.toNat / 262144 % 8 + 240 := by omega
    rw [if_neg one, if_neg two, if_neg three, if_neg (by omega), if_neg (by omega),
      if_neg (by omega), lead]

theorem toByteArray_encode (text : String) :
    (encode text.toList).toByteArray = text.toByteArray := by
  have sameChars : encodeChar = String.utf8EncodeChar := funext encodeChar_eq_utf8EncodeChar
  conv_rhs => rw [← String.ofList_toList (s := text)]
  rw [String.toByteArray_ofList, List.utf8Encode, encode, sameChars]

theorem toByteArray_eq_iff {text : String} :
    bytes.toByteArray = text.toByteArray ↔ bytes = encode text.toList := by
  rw [← toByteArray_encode, List.toByteArray_inj]

theorem isSequence_encodeChar (c : Char) : IsSequence (encodeChar c) := by
  have valid : c.toNat < 0xD800 ∨ 0xDFFF < c.toNat ∧ c.toNat < 0x110000 := c.valid
  have byte {n : Nat} (small : n < 0x100) : (UInt8.ofNat n).toNat = n :=
    UInt8.toNat_ofNat_of_lt' small
  have isTail (n : Nat) : IsTail (UInt8.ofNat (0x80 + n % 0x40)) := by
    rw [IsTail, byte (by omega)]
    omega
  simp only [encodeChar]
  split
  next one =>
    apply IsSequence.one
    rw [byte (by omega)]
    omega
  split
  next two =>
    apply IsSequence.two _ (isTail _)
    rw [byte (by omega)]
    omega
  split
  next three =>
    apply IsSequence.three _ (isTail _) (isTail _)
    · rw [byte (by omega), byte (by omega)]
      omega
    · rw [byte (by omega), byte (by omega)]
      omega
    · rw [byte (by omega)]
      omega
  next four =>
    apply IsSequence.four _ (isTail _) (isTail _) (isTail _)
    · rw [byte (by omega), byte (by omega)]
      omega
    · rw [byte (by omega), byte (by omega)]
      omega
    · rw [byte (by omega)]
      omega

theorem isWellFormed_encode (text : List Char) : IsWellFormed (encode text) := by
  induction text with
  | nil => exact .nil
  | cons c text inductionHypothesis =>
      rw [encode_cons]
      exact .append (isSequence_encodeChar c) inductionHypothesis

/-! ## The text of bytes -/

theorem continuation?_of_isTail {byte : UInt8} (isTail : IsTail byte) :
    continuation? byte = some (byte.toNat - 0x80) := by
  unfold IsTail at isTail
  rw [continuation?_eq_some_iff]
  omega

theorem charFrom?_of_isValidChar {least n : Nat} (large : least ≤ n) (valid : n.isValidChar) :
    charFrom? least n = some (Char.ofNat n) :=
  if_pos ⟨large, valid⟩

theorem IsSequence.exists_firstChar? (isSequence : IsSequence piece) (rest : List UInt8) :
    ∃ c, firstChar? (piece ++ rest) = some (c, rest) := by
  cases isSequence with
  | @one lead range =>
      refine ⟨Char.ofNat lead.toNat, ?_⟩
      simp only [List.singleton_append, firstChar?]
      rw [if_pos (by omega)]
  | two range secondTail =>
      refine ⟨_, firstChar?_two (by omega) (continuation?_of_isTail secondTail)
        (charFrom?_of_isValidChar ?_ ?_)⟩
      · unfold IsTail at secondTail
        omega
      · unfold IsTail at secondTail
        exact .inl (by omega)
  | three range secondTail thirdTail notOverlong noSurrogate =>
      refine ⟨_, firstChar?_three (by omega) (continuation?_of_isTail secondTail)
        (continuation?_of_isTail thirdTail) (charFrom?_of_isValidChar ?_ ?_)⟩
      · unfold IsTail at secondTail thirdTail
        omega
      · unfold IsTail at secondTail thirdTail
        simp only [Nat.isValidChar]
        omega
  | four range secondTail thirdTail fourthTail notOverlong notAbove =>
      refine ⟨_, firstChar?_four (by omega) (continuation?_of_isTail secondTail)
        (continuation?_of_isTail thirdTail) (continuation?_of_isTail fourthTail)
        (charFrom?_of_isValidChar ?_ ?_)⟩
      · unfold IsTail at secondTail thirdTail fourthTail
        omega
      · unfold IsTail at secondTail thirdTail fourthTail
        simp only [Nat.isValidChar]
        omega

theorem IsWellFormed.exists_encode (wellFormed : IsWellFormed bytes) :
    ∃ text, bytes = encode text := by
  induction wellFormed with
  | nil => exact ⟨[], rfl⟩
  | append isSequence _ inductionHypothesis =>
      obtain ⟨text, rfl⟩ := inductionHypothesis
      obtain ⟨c, found⟩ := isSequence.exists_firstChar? (encode text)
      refine ⟨c :: text, ?_⟩
      rw [eq_append_of_firstChar? found, encode_cons]

theorem isWellFormed_iff : IsWellFormed bytes ↔ ∃ text, bytes = encode text := by
  constructor
  · exact IsWellFormed.exists_encode
  · rintro ⟨text, rfl⟩
    exact isWellFormed_encode text

/-! ## Faults -/

/-- Before a fault stand the bytes of a text, and what comes then begins with no character. -/
theorem exists_of_decodeFrom_eq_error {place : Nat} (failed : decodeFrom offset bytes = .error place) :
    ∃ text rest, bytes = encode text ++ rest ∧ rest ≠ [] ∧ firstChar? rest = none ∧
      place = offset + (encode text).length := by
  fun_induction decodeFrom offset bytes with
  | case1 => contradiction
  | case2 offset bytes nonempty stuck =>
      cases failed
      exact ⟨[], bytes, rfl, nonempty, stuck, rfl⟩
  | case3 offset bytes _ c later found _ inductionHypothesis =>
      obtain ⟨text, rest, rfl, nonempty, stuck, rfl⟩ :=
        inductionHypothesis (Except.map_eq_error_iff.mp failed)
      refine ⟨c :: text, rest, ?_, nonempty, stuck, ?_⟩
      · rw [eq_append_of_firstChar? found, encode_cons, List.append_assoc]
      · rw [encode_cons, List.length_append, Nat.add_assoc]

/-- A text whose bytes come first is the beginning of the one that is read up to a fault. -/
theorem prefix_of_encode_prefix (stuck : firstChar? rest = none)
    (comesFirst : encode other <+: encode text ++ rest) : other <+: text := by
  obtain ⟨more, same⟩ := comesFirst
  induction other generalizing text with
  | nil => exact List.nil_prefix
  | cons c others inductionHypothesis =>
      rw [encode_cons, List.append_assoc] at same
      have found := firstChar?_encodeChar c (encode others ++ more)
      cases text with
      | nil =>
          rw [same] at found
          exact absurd (stuck.symm.trans found) nofun
      | cons d text =>
          rw [same, encode_cons, List.append_assoc, firstChar?_encodeChar] at found
          obtain ⟨rfl, later⟩ := Prod.mk.inj (Option.some.inj found)
          exact List.cons_prefix_cons.mpr ⟨rfl, inductionHypothesis later.symm⟩

theorem isWellFormedUpTo_of_stuck (stuck : firstChar? rest = none) :
    IsWellFormedUpTo (encode text ++ rest) (encode text).length := by
  constructor
  · exact ⟨encode text, List.prefix_append _ _, isWellFormed_encode text, rfl⟩
  · rintro _ ⟨front, comesFirst, wellFormed, rfl⟩
    obtain ⟨other, rfl⟩ := wellFormed.exists_encode
    obtain ⟨more, rfl⟩ := prefix_of_encode_prefix stuck comesFirst
    rw [encode_append, List.length_append]
    exact Nat.le_add_right _ _

/-- Reading fails on ill-formed bytes only, and at the end of their longest well-formed
beginning. -/
theorem decode_eq_error_iff :
    decode bytes = .error offset ↔ ¬ IsWellFormed bytes ∧ IsWellFormedUpTo bytes offset := by
  have isUpTo {place : Nat} (failed : decode bytes = .error place) :
      IsWellFormedUpTo bytes place := by
    obtain ⟨text, rest, rfl, _, stuck, rfl⟩ := exists_of_decodeFrom_eq_error failed
    rw [Nat.zero_add]
    exact isWellFormedUpTo_of_stuck stuck
  constructor
  · intro failed
    refine ⟨?_, isUpTo failed⟩
    intro wellFormed
    obtain ⟨text, isText⟩ := wellFormed.exists_encode
    rw [decode_eq_ok_iff.mpr isText] at failed
    contradiction
  · rintro ⟨illFormed, upTo⟩
    cases read : decode bytes with
    | error place => rw [(isUpTo read).unique upTo]
    | ok text => exact absurd (isWellFormed_iff.mpr ⟨text, decode_eq_ok_iff.mp read⟩) illFormed

end Acceptor.Text.Utf8
