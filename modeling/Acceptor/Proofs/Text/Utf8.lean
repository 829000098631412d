import Acceptor.Proofs.Result
import Acceptor.Text.Utf8

/-!
Texts are read back from their bytes, and no other bytes are read as a text.
-/

namespace Acceptor.Text.Utf8

theorem continuation?_ofNat (n : Nat) :
    continuation? (UInt8.ofNat (0x80 + n % 0x40)) = some (n % 0x40) := by
  have byte := UInt8.toNat_ofNat_of_lt' (by omega : 0x80 + n % 0x40 < 0x100)
  rw [continuation?, byte, if_pos (by omega), Nat.add_sub_cancel_left]

theorem charFrom?_toNat {least : Nat} {c : Char} (large : least ≤ c.toNat) :
    charFrom? least c.toNat = some c := by
  rw [charFrom?, if_pos ⟨large, c.valid⟩, Char.ofNat_toNat]

section
variable {lead second third fourth : UInt8} {a b d : Nat} {c : Char} {rest : List UInt8}

theorem firstChar?_two (range : 0xC0 ≤ lead.toNat ∧ lead.toNat < 0xE0)
    (carried : continuation? second = some a)
    (whole : charFrom? 0x80 ((lead.toNat - 0xC0) * 0x40 + a) = some c) :
    firstChar? (lead :: second :: rest) = some (c, rest) := by
  simp only [firstChar?]
  rw [if_neg (by omega), if_neg (by omega), if_pos range.2]
  simp only [Option.bind_eq_bind, Option.bind_eq_some_iff]
  exact ⟨a, carried, c, whole, rfl⟩

theorem firstChar?_three (range : 0xE0 ≤ lead.toNat ∧ lead.toNat < 0xF0)
    (carriedSecond : continuation? second = some a) (carriedThird : continuation? third = some b)
    (whole : charFrom? 0x800 ((lead.toNat - 0xE0) * 0x1000 + a * 0x40 + b) = some c) :
    firstChar? (lead :: second :: third :: rest) = some (c, rest) := by
  simp only [firstChar?]
  rw [if_neg (by omega), if_neg (by omega), if_neg (by omega), if_pos range.2]
  simp only [Option.bind_eq_bind, Option.bind_eq_some_iff]
  exact ⟨a, carriedSecond, b, carriedThird, c, whole, rfl⟩

theorem firstChar?_four (range : 0xF0 ≤ lead.toNat ∧ lead.toNat < 0xF8)
    (carriedSecond : continuation? second = some a) (carriedThird : continuation? third = some b)
    (carriedFourth : continuation? fourth = some d)
    (whole : charFrom? 0x10000 ((lead.toNat - 0xF0) * 0x40000 + a * 0x1000 + b * 0x40 + d) =
      some c) :
    firstChar? (lead :: second :: third :: fourth :: rest) = some (c, rest) := by
  simp only [firstChar?]
  rw [if_neg (by omega), if_neg (by omega), if_neg (by omega), if_neg (by omega), if_pos range.2]
  simp only [Option.bind_eq_bind, Option.bind_eq_some_iff]
  exact ⟨a, carriedSecond, b, carriedThird, d, carriedFourth, c, whole, rfl⟩

end

theorem firstChar?_encodeChar (c : Char) (rest : List UInt8) :
    firstChar? (encodeChar c ++ rest) = some (c, rest) := by
  have valid : c.toNat < 0xD800 ∨ 0xDFFF < c.toNat ∧ c.toNat < 0x110000 := c.valid
  simp only [encodeChar]
  split
  next one =>
    have lead := UInt8.toNat_ofNat_of_lt' (by omega : c.toNat < 0x100)
    simp only [List.cons_append, List.nil_append, firstChar?, lead, if_pos one, Char.ofNat_toNat]
  split
  next two =>
    have lead := UInt8.toNat_ofNat_of_lt' (by omega : 0xC0 + c.toNat / 0x40 < 0x100)
    have number : (0xC0 + c.toNat / 0x40 - 0xC0) * 0x40 + c.toNat % 0x40 = c.toNat := by omega
    apply firstChar?_two
    · rw [lead]
      omega
    · exact continuation?_ofNat _
    · rw [lead, number]
      exact charFrom?_toNat (by omega)
  split
  next three =>
    have lead := UInt8.toNat_ofNat_of_lt' (by omega : 0xE0 + c.toNat / 0x1000 < 0x100)
    have number : (0xE0 + c.toNat / 0x1000 - 0xE0) * 0x1000 + c.toNat / 0x40 % 0x40 * 0x40 +
        c.toNat % 0x40 = c.toNat := by
      omega
    apply firstChar?_three
    · rw [lead]
      omega
    · exact continuation?_ofNat _
    · exact continuation?_ofNat _
    · rw [lead, number]
      exact charFrom?_toNat (by omega)
  next four =>
    have lead := UInt8.toNat_ofNat_of_lt' (by omega : 0xF0 + c.toNat / 0x40000 < 0x100)
    have number : (0xF0 + c.toNat / 0x40000 - 0xF0) * 0x40000 +
        c.toNat / 0x1000 % 0x40 * 0x1000 + c.toNat / 0x40 % 0x40 * 0x40 + c.toNat % 0x40 =
          c.toNat := by
      omega
    apply firstChar?_four
    · rw [lead]
      omega
    · exact continuation?_ofNat _
    · exact continuation?_ofNat _
    · exact continuation?_ofNat _
    · rw [lead, number]
      exact charFrom?_toNat (by omega)

theorem encodeChar_ne_nil (c : Char) : encodeChar c ≠ [] := by
  intro empty
  have read := firstChar?_encodeChar c []
  rw [empty] at read
  contradiction

theorem encode_cons (c : Char) (text : List Char) :
    encode (c :: text) = encodeChar c ++ encode text :=
  List.flatMap_cons

theorem encode_append (text other : List Char) :
    encode (text ++ other) = encode text ++ encode other :=
  List.flatMap_append

theorem decodeFrom_encode (offset : Nat) (text : List Char) :
    decodeFrom offset (encode text) = .ok text := by
  induction text generalizing offset with
  | nil => simp [decodeFrom, encode]
  | cons c text inductionHypothesis =>
      have nonempty : encodeChar c ++ encode text ≠ [] := by simp [encodeChar_ne_nil]
      rw [encode_cons, decodeFrom, if_neg nonempty]
      split
      next refused => simp [firstChar?_encodeChar] at refused
      next found =>
        rw [firstChar?_encodeChar] at found
        cases found
        rw [inductionHypothesis]
        rfl

theorem decode_encode (text : List Char) : decode (encode text) = .ok text :=
  decodeFrom_encode 0 text

/-! ## What has been read -/

theorem continuation?_eq_some_iff {byte : UInt8} {a : Nat} :
    continuation? byte = some a ↔ byte.toNat = 0x80 + a ∧ a < 0x40 := by
  unfold continuation?
  split
  · rw [Option.some.injEq]
    omega
  · simp only [reduceCtorEq, false_iff]
    omega

theorem toNat_ofNat_of_isValidChar {n : Nat} (valid : n.isValidChar) :
    (Char.ofNat n).toNat = n := by
  rw [Char.ofNat, dif_pos valid]
  rfl

theorem charFrom?_eq_some_iff {least n : Nat} {c : Char} :
    charFrom? least n = some c ↔ c.toNat = n ∧ least ≤ n := by
  unfold charFrom?
  constructor
  · intro found
    split at found
    next fits =>
      cases found
      exact ⟨toNat_ofNat_of_isValidChar fits.2, fits.1⟩
    · contradiction
  · rintro ⟨rfl, large⟩
    exact charFrom?_toNat large

theorem ofNat_eq_of_toNat_eq (byte : UInt8) {n : Nat} (same : byte.toNat = n) :
    UInt8.ofNat n = byte := by
  rw [← same, UInt8.ofNat_toNat]

/-- What is read of the bytes is what would be written of the character. -/
theorem eq_append_of_firstChar? {bytes rest : List UInt8} {c : Char}
    (found : firstChar? bytes = some (c, rest)) : bytes = encodeChar c ++ rest := by
  unfold firstChar? at found
  split at found
  · contradiction
  next lead tail =>
  dsimp only at found
  split at found
  next one =>
    cases found
    have number : (Char.ofNat lead.toNat).toNat = lead.toNat :=
      toNat_ofNat_of_isValidChar (.inl (by omega))
    simp only [encodeChar, number, if_pos one, UInt8.ofNat_toNat, List.singleton_append]
  split at found
  · contradiction
  split at found
  next two =>
    split at found
    next second tail =>
      simp only [Option.bind_eq_bind, Option.bind_eq_some_iff] at found
      obtain ⟨a, isSecond, _, isChar, same⟩ := found
      cases same
      obtain ⟨secondByte, _⟩ := continuation?_eq_some_iff.mp isSecond
      obtain ⟨number, _⟩ := charFrom?_eq_some_iff.mp isChar
      rw [encodeChar, number, if_neg (by omega), if_pos (by omega),
        ofNat_eq_of_toNat_eq lead (by omega),
        ofNat_eq_of_toNat_eq second (by omega)]
      rfl
    · contradiction
  split at found
  next three =>
    split at found
    next second third tail =>
      simp only [Option.bind_eq_bind, Option.bind_eq_some_iff] at found
      obtain ⟨a, isSecond, b, isThird, _, isChar, same⟩ := found
      cases same
      obtain ⟨secondByte, _⟩ := continuation?_eq_some_iff.mp isSecond
      obtain ⟨thirdByte, _⟩ := continuation?_eq_some_iff.mp isThird
      obtain ⟨number, _⟩ := charFrom?_eq_some_iff.mp isChar
      rw [encodeChar, number, if_neg (by omega), if_neg (by omega), if_pos (by omega),
        ofNat_eq_of_toNat_eq lead (by omega),
        ofNat_eq_of_toNat_eq second (by omega),
        ofNat_eq_of_toNat_eq third (by omega)]
      rfl
    · contradiction
  split at found
  next four =>
    split at found
    next second third fourth tail =>
      simp only [Option.bind_eq_bind, Option.bind_eq_some_iff] at found
      obtain ⟨a, isSecond, b, isThird, d, isFourth, _, isChar, same⟩ := found
      cases same
      obtain ⟨secondByte, _⟩ := continuation?_eq_some_iff.mp isSecond
      obtain ⟨thirdByte, _⟩ := continuation?_eq_some_iff.mp isThird
      obtain ⟨fourthByte, _⟩ := continuation?_eq_some_iff.mp isFourth
      obtain ⟨number, _⟩ := charFrom?_eq_some_iff.mp isChar
      rw [encodeChar, number, if_neg (by omega), if_neg (by omega), if_neg (by omega),
        ofNat_eq_of_toNat_eq lead (by omega),
        ofNat_eq_of_toNat_eq second (by omega),
        ofNat_eq_of_toNat_eq third (by omega),
        ofNat_eq_of_toNat_eq fourth (by omega)]
      rfl
    · contradiction
  · contradiction

theorem encode_of_decodeFrom {offset : Nat} {bytes : List UInt8} {text : List Char}
    (read : decodeFrom offset bytes = .ok text) : encode text = bytes := by
  fun_induction decodeFrom offset bytes generalizing text with
  | case1 =>
      cases read
      rfl
  | case2 => contradiction
  | case3 offset bytes _ c rest found _ inductionHypothesis =>
      obtain ⟨later, readLater, rfl⟩ := Except.map_eq_ok_iff.mp read
      rw [eq_append_of_firstChar? found, ← inductionHypothesis readLater, encode_cons]

theorem decode_eq_ok_iff {bytes : List UInt8} {text : List Char} :
    decode bytes = .ok text ↔ bytes = encode text := by
  constructor
  · exact fun read => (encode_of_decodeFrom read).symm
  · rintro rfl
    exact decode_encode text

end Acceptor.Text.Utf8
