import Acceptor.Text.Hexadecimal
import Acceptor.Text.Utf8

/-!
Why a byte sequence is no text, and how much of it is to blame.

`Fault.of?` looks at the beginning of a sequence.  It blames the longest piece that could
still be the beginning of a character, or one byte if nothing can begin with it.
`of?_eq_none_iff`: it finds nothing exactly on a sequence that begins with a character.
-/

namespace Acceptor.Text.Utf8

inductive Fault.Reason where
  /-- No character begins with the first byte. -/
  | start
  /-- A byte cannot follow the ones before it. -/
  | continuation
  /-- The sequence ends inside a character. -/
  | ending
  deriving DecidableEq, Repr

structure Fault where
  reason : Fault.Reason
  /-- The first byte. -/
  lead : UInt8
  /-- How many bytes are to blame. -/
  length : Nat
  deriving DecidableEq, Repr

namespace Fault

def Reason.message : Reason → String
  | .start => "invalid start byte"
  | .continuation => "invalid continuation byte"
  | .ending => "unexpected end of data"

def message (offset : Nat) (fault : Fault) : String :=
  "'utf-8' codec can't decode " ++
    (if fault.length = 1 then
      "byte 0x" ++ String.ofList (hexDigits 2 fault.lead.toNat) ++ " in position " ++
        toString offset
    else
      "bytes in position " ++ toString offset ++ "-" ++
        toString (offset + fault.length - 1)) ++
    ": " ++ fault.reason.message

/-- The least and the greatest byte that may stand at a place. -/
abbrev Limits := Nat × Nat

/-- The limits of a byte inside a character, unless narrower ones hold. -/
def inner : Limits := (0x80, 0xBF)

/-- The limits of the bytes after the first byte of a character.  The narrower ones leave
out overlong forms, surrogates and what is above U+10FFFF. -/
def followers? (lead : Nat) : Option (List Limits) :=
  if lead < 0x80 then some []
  else if lead < 0xC2 then none
  else if lead < 0xE0 then some [inner]
  else if lead = 0xE0 then some [(0xA0, 0xBF), inner]
  else if lead = 0xED then some [(0x80, 0x9F), inner]
  else if lead < 0xF0 then some [inner, inner]
  else if lead = 0xF0 then some [(0x90, 0xBF), inner, inner]
  else if lead < 0xF4 then some [inner, inner, inner]
  else if lead = 0xF4 then some [(0x80, 0x8F), inner, inner]
  else none

/-- The first fault among bytes that have to keep to limits; `length` counts the bytes
before them. -/
def after? (lead : UInt8) (length : Nat) : List Limits → List UInt8 → Option Fault
  | [], _ => none
  | _ :: _, [] => some ⟨.ending, lead, length⟩
  | (least, greatest) :: limits, byte :: rest =>
      if least ≤ byte.toNat ∧ byte.toNat ≤ greatest then
        after? lead (length + 1) limits rest
      else
        some ⟨.continuation, lead, length⟩

def of? : List UInt8 → Option Fault
  | [] => none
  | lead :: rest =>
      match followers? lead.toNat with
      | none => some ⟨.start, lead, 1⟩
      | some limits => after? lead 1 limits rest

example : of? [0xE2, 0x82, 0x41] = some ⟨.continuation, 0xE2, 2⟩ := by decide

example : of? [0xED, 0xA0, 0x80] = some ⟨.continuation, 0xED, 1⟩ := by decide

theorem after?_cons_eq_none_iff {lead byte : UInt8} {length least greatest : Nat}
    {limits : List Limits} {rest : List UInt8} :
    after? lead length ((least, greatest) :: limits) (byte :: rest) = none ↔
      (least ≤ byte.toNat ∧ byte.toNat ≤ greatest) ∧
        after? lead (length + 1) limits rest = none := by
  rw [after?]
  split <;> grind

@[simp] theorem after?_nil (lead : UInt8) (length : Nat) (rest : List UInt8) :
    after? lead length [] rest = none := by
  unfold after?
  rfl

theorem after?_cons_nil_ne_none (lead : UInt8) (length : Nat) (limit : Limits)
    (limits : List Limits) : after? lead length (limit :: limits) [] ≠ none := by
  unfold after?
  simp

theorem of?_eq_none_iff {lead : UInt8} {rest : List UInt8} :
    of? (lead :: rest) = none ↔ (firstChar? (lead :: rest)).isSome = true := by
  unfold of?
  rcases rest with _ | ⟨second, _ | ⟨third, _ | ⟨fourth, rest⟩⟩⟩
  all_goals
    fun_cases followers? lead.toNat
    all_goals
      simp only [*, followers?, firstChar?, Nat.reduceLT, Nat.reduceEqDiff, reduceIte]
      repeat' split
    all_goals
      simp only [inner, after?_cons_eq_none_iff, after?_nil, after?_cons_nil_ne_none,
        isSome_bind_continuation?, isSome_bind_charFrom?, Option.isSome_none,
        Option.isSome_some, Bool.false_eq_true, reduceCtorEq, and_true, and_false, iff_false,
        false_iff] <;>
      omega

end Fault

end Acceptor.Text.Utf8
