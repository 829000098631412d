/-!
What it takes for a computation that may fail to succeed, and to fail.
-/

namespace Except

variable {Fault OtherFault Value OtherValue : Type} {first : Except Fault Value}

theorem bind_eq_ok_iff {next : Value → Except Fault OtherValue} {result : OtherValue} :
    (first >>= next) = .ok result ↔ ∃ value, first = .ok value ∧ next value = .ok result := by
  cases first <;> simp [bind, Except.bind]

theorem map_eq_ok_iff {change : Value → OtherValue} {result : OtherValue} :
    first.map change = .ok result ↔ ∃ value, first = .ok value ∧ change value = result := by
  cases first <;> simp [Except.map]

theorem map_eq_error_iff {change : Value → OtherValue} {fault : Fault} :
    first.map change = .error fault ↔ first = .error fault := by
  cases first <;> simp [Except.map]

theorem mapError_eq_ok_iff {change : Fault → OtherFault} {result : Value} :
    first.mapError change = .ok result ↔ first = .ok result := by
  cases first with
  | error fault => exact iff_of_false nofun nofun
  | ok value =>
      constructor
      · rintro ⟨⟩
        rfl
      · rintro ⟨⟩
        rfl

theorem bind_eq_error_iff {next : Value → Except Fault OtherValue} {fault : Fault} :
    (first >>= next) = .error fault ↔
      first = .error fault ∨ ∃ value, first = .ok value ∧ next value = .error fault := by
  cases first <;> simp [bind, Except.bind]

theorem mapError_eq_error_iff {change : Fault → OtherFault} {result : OtherFault} :
    first.mapError change = .error result ↔
      ∃ fault, first = .error fault ∧ change fault = result := by
  cases first with
  | error fault =>
      constructor
      · rintro ⟨⟩
        exact ⟨fault, rfl, rfl⟩
      · rintro ⟨_, ⟨⟩, rfl⟩
        rfl
  | ok value => exact iff_of_false nofun nofun

end Except
