/-!
Texts as bytes.

`decode` accepts the well-formed byte sequences and no others: no overlong form, no
surrogate, nothing above U+10FFFF and no sequence cut short.  On any other input it gives
the place of the first byte of the first sequence that is not well formed.
-/

namespace Acceptor.Text.Utf8

def encodeChar (c : Char) : List UInt8 :=
  let n := c.toNat
  if n < 0x80 then
    [UInt8.ofNat n]
  else if n < 0x800 then
    [UInt8.ofNat (0xC0 + n / 0x40), UInt8.ofNat (0x80 + n % 0x40)]
  else if n < 0x10000 then
    [UInt8.ofNat (0xE0 + n / 0x1000), UInt8.ofNat (0x80 + n / 0x40 % 0x40),
      UInt8.ofNat (0x80 + n % 0x40)]
  else
    [UInt8.ofNat (0xF0 + n / 0x40000), UInt8.ofNat (0x80 + n / 0x1000 % 0x40),
      UInt8.ofNat (0x80 + n / 0x40 % 0x40), UInt8.ofNat (0x80 + n % 0x40)]

def encode (text : List Char) : List UInt8 :=
  text.flatMap encodeChar

def continuation? (byte : UInt8) : Option Nat :=
  if 0x80 ≤ byte.toNat ∧ byte.toNat < 0xC0 then some (byte.toNat - 0x80) else none

/-- The character of a code point, unless it is below the least one of its form or none
at all. -/
def charFrom? (least n : Nat) : Option Char :=
  if least ≤ n ∧ n.isValidChar then some (Char.ofNat n) else none

theorem isSome_bind_continuation? {α : Type} (byte : UInt8) (next : Nat → Option α) :
    (continuation? byte >>= next).isSome = true ↔
      (0x80 ≤ byte.toNat ∧ byte.toNat ≤ 0xBF) ∧ (next (byte.toNat - 0x80)).isSome = true := by
  unfold continuation?
  split <;> grind

theorem isSome_bind_charFrom? {α : Type} (least n : Nat) (next : Char → α) :
    (charFrom? least n >>= fun c => some (next c)).isSome = true ↔
      least ≤ n ∧ (n < 0xD800 ∨ 0xDFFF < n ∧ n < 0x110000) := by
  unfold charFrom?
  split <;> grind

def firstChar? : List UInt8 → Option (Char × List UInt8)
  | [] => none
  | lead :: rest =>
      let n := lead.toNat
      if n < 0x80 then
        some (Char.ofNat n, rest)
      else if n < 0xC0 then
        none
      else if n < 0xE0 then
        match rest with
        | second :: rest => do
            let a ← continuation? second
            let c ← charFrom? 0x80 ((n - 0xC0) * 0x40 + a)
            some (c, rest)
        | _ => none
      else if n < 0xF0 then
        match rest with
        | second :: third :: rest => do
            let a ← continuation? second
            let b ← continuation? third
            let c ← charFrom? 0x800 ((n - 0xE0) * 0x1000 + a * 0x40 + b)
            some (c, rest)
        | _ => none
      else if n < 0xF8 then
        match rest with
        | second :: third :: fourth :: rest => do
            let a ← continuation? second
            let b ← continuation? third
            let d ← continuation? fourth
            let c ← charFrom? 0x10000 ((n - 0xF0) * 0x40000 + a * 0x1000 + b * 0x40 + d)
            some (c, rest)
        | _ => none
      else
        none

theorem length_lt_of_firstChar? {bytes rest : List UInt8} {c : Char}
    (found : firstChar? bytes = some (c, rest)) : rest.length < bytes.length := by
  unfold firstChar? at found
  split at found
  · contradiction
  next lead tail =>
    simp only at found
    split at found
    · cases found
      simp
    · split at found
      · contradiction
      · split at found
        · split at found
          · simp only [Option.bind_eq_bind, Option.bind_eq_some_iff] at found
            obtain ⟨_, _, _, _, equality⟩ := found
            cases equality
            simp only [List.length_cons]
            omega
          · contradiction
        · split at found
          · split at found
            · simp only [Option.bind_eq_bind, Option.bind_eq_some_iff] at found
              obtain ⟨_, _, _, _, _, _, equality⟩ := found
              cases equality
              simp only [List.length_cons]
              omega
            · contradiction
          · split at found
            · split at found
              · simp only [Option.bind_eq_bind, Option.bind_eq_some_iff] at found
                obtain ⟨_, _, _, _, _, _, _, _, equality⟩ := found
                cases equality
                simp only [List.length_cons]
                omega
              · contradiction
            · contradiction

/-- Reads the characters from a place on; `offset` counts the bytes before it. -/
def decodeFrom (offset : Nat) (bytes : List UInt8) : Except Nat (List Char) :=
  if bytes = [] then
    .ok []
  else
    match found : firstChar? bytes with
    | none => .error offset
    | some (c, rest) =>
        have : rest.length < bytes.length := length_lt_of_firstChar? found
        -- As many bytes were read of the character as would be written of it.
        (decodeFrom (offset + (encodeChar c).length) rest).map (c :: ·)
  termination_by bytes.length

/-- The text of a byte sequence, or the place of its first ill-formed sequence. -/
def decode (bytes : List UInt8) : Except Nat (List Char) :=
  decodeFrom 0 bytes

example : decode [0x61, 0xC3] = .error 1 := by cbv

end Acceptor.Text.Utf8
