import Acceptor.Proofs.Json.Numbers

/-!
What printed values look like: they are ASCII throughout, and they begin with no space and no
closing bracket.
-/

namespace Acceptor.Json

/-- The value has no fractions, its integers have no more digits than are read, and no more
than `depth` containers stand within one another. -/
inductive Fits : (depth : Nat) → Json → Prop where
  | null {depth} : Fits depth .null
  | boolean {depth} (value : Bool) : Fits depth (.boolean value)
  | integer {depth} {value : Int} : IsShort value → Fits depth (.integer value)
  | string {depth} (value : String) : Fits depth (.string value)
  | array {depth} {items : List Json} : (∀ item ∈ items, Fits depth item) →
      Fits (depth + 1) (.array items)
  | object {depth} {fields : List (String × Json)} : (∀ field ∈ fields, Fits depth field.2) →
      Fits (depth + 1) (.object fields)

/-! ## ASCII -/

def IsAscii (text : List Char) : Prop :=
  ∀ c ∈ text, c.toNat < 0x80

instance (text : List Char) : Decidable (IsAscii text) :=
  List.decidableBAll _ text

@[simp]
theorem isAscii_append {left right : List Char} :
    IsAscii (left ++ right) ↔ IsAscii left ∧ IsAscii right :=
  List.forall_mem_append

@[simp]
theorem isAscii_cons {c : Char} {text : List Char} :
    IsAscii (c :: text) ↔ c.toNat < 0x80 ∧ IsAscii text :=
  List.forall_mem_cons

@[simp]
theorem isAscii_nil : IsAscii [] :=
  List.forall_mem_nil _

theorem isAscii_toDigits (n : Nat) : IsAscii (Nat.toDigits 10 n) := by
  intro c membership
  have isDigit := isDigit_of_mem_toDigits membership
  simp only [Char.isDigit, Bool.and_eq_true, decide_eq_true_eq] at isDigit
  have small : c.toNat ≤ 57 := isDigit.2
  omega

theorem isAscii_hexDigits (width n : Nat) : IsAscii (Text.hexDigits width n) := by
  have digit : ∀ n < 16, (Text.hexDigit n).toNat < 0x80 := by decide
  induction width generalizing n with
  | zero => exact isAscii_nil
  | succ width inductionHypothesis =>
      simp only [Text.hexDigits, isAscii_append, isAscii_cons, isAscii_nil, and_true]
      exact ⟨inductionHypothesis _, digit _ (Nat.mod_lt n (by decide))⟩

theorem isAscii_escapeUnit (unit : Nat) : IsAscii (escapeUnit unit) := by
  simp only [escapeUnit, isAscii_cons]
  exact ⟨by decide, by decide, isAscii_hexDigits 4 unit⟩

theorem isAscii_escapeChar (c : Char) : IsAscii (escapeChar c) := by
  simp only [escapeChar]
  iterate 7
    split
    · decide
  split
  next plain => simpa using (by omega : c.toNat < 0x80)
  split
  · exact isAscii_escapeUnit _
  · exact isAscii_append.mpr ⟨isAscii_escapeUnit _, isAscii_escapeUnit _⟩

@[simp]
theorem isAscii_printString (value : String) : IsAscii (printString value) := by
  simp only [printString, isAscii_append, isAscii_cons, isAscii_nil, and_true]
  refine ⟨⟨by decide, ?_⟩, by decide⟩
  intro c membership
  obtain ⟨original, _, inEscape⟩ := List.mem_flatMap.mp membership
  exact isAscii_escapeChar original c inEscape

@[simp]
theorem isAscii_newLine (level : Nat) : IsAscii (newLine level) := by
  rw [newLine, isAscii_cons]
  refine ⟨by decide, ?_⟩
  intro c membership
  rw [List.eq_of_mem_replicate membership]
  decide

theorem isAscii_toString (value : Int) : IsAscii (toString value).toList := by
  rcases Int.lt_or_le value 0 with negative | nonneg
  · rw [toList_toString_of_neg negative, isAscii_cons]
    exact ⟨by decide, isAscii_toDigits _⟩
  · rw [toList_toString_of_nonneg nonneg]
    exact isAscii_toDigits _

theorem isAscii_printItems {items : List Json}
    (ascii : ∀ item ∈ items, ∀ level, IsAscii (printAt level item)) (level : Nat) :
    IsAscii (printItems level items) := by
  induction items with
  | nil => rw [printItems]; exact isAscii_nil
  | cons item rest inductionHypothesis =>
      rw [List.forall_mem_cons] at ascii
      simp [printItems, ascii.1, inductionHypothesis ascii.2]

theorem isAscii_printFields {fields : List (String × Json)}
    (ascii : ∀ field ∈ fields, ∀ level, IsAscii (printAt level field.2)) (level : Nat) :
    IsAscii (printFields level fields) := by
  induction fields with
  | nil => rw [printFields]; exact isAscii_nil
  | cons field rest inductionHypothesis =>
      rw [List.forall_mem_cons] at ascii
      simp [printFields, ascii.1, inductionHypothesis ascii.2]

theorem isAscii_printAt {depth : Nat} {value : Json} (fits : Fits depth value) (level : Nat) :
    IsAscii (printAt level value) := by
  induction fits generalizing level with
  | null => rw [printAt]; decide
  | boolean value => cases value <;> rw [printAt] <;> decide
  | integer _ => rw [printAt]; exact isAscii_toString _
  | string value => rw [printAt]; exact isAscii_printString value
  | @array depth items _ inductionHypothesis =>
      cases items with
      | nil => rw [printAt]; decide
      | cons first rest =>
          rw [List.forall_mem_cons] at inductionHypothesis
          simp [printAt, inductionHypothesis.1, isAscii_printItems inductionHypothesis.2]
  | @object depth fields _ inductionHypothesis =>
      cases fields with
      | nil => rw [printAt]; decide
      | cons first rest =>
          rw [List.forall_mem_cons] at inductionHypothesis
          simp [printAt, inductionHypothesis.1, isAscii_printFields inductionHypothesis.2]

/-! ## Beginnings -/

/-- The text begins with something else than a space or a closing bracket. -/
def BeginsValue (text : List Char) : Prop :=
  ∃ c rest, text = c :: rest ∧ isSpace c = false ∧ c ≠ ']'

/-- The text begins neither a string nor a container. -/
def BeginsWord (text : List Char) : Prop :=
  ∃ c rest, text = c :: rest ∧ c ≠ '\x22' ∧ c ≠ '[' ∧ c ≠ '\x7b'

theorem exists_toString_eq_cons (value : Int) :
    ∃ c rest, (toString value).toList = c :: rest ∧ (c = '-' ∨ c.isDigit = true) := by
  rcases Int.lt_or_le value 0 with negative | nonneg
  · exact ⟨'-', _, toList_toString_of_neg negative, .inl rfl⟩
  · obtain ⟨first, others, digits, isDigit⟩ := exists_toDigits_eq_cons value.natAbs
    exact ⟨first, others, (toList_toString_of_nonneg nonneg).trans digits, .inr isDigit⟩

theorem ne_of_isDigit {c other : Char} (isDigit : c.isDigit = true)
    (notDigit : other.isDigit = false) : c ≠ other := by
  rintro rfl
  rw [isDigit] at notDigit
  contradiction

theorem beginsValue_toString (value : Int) : BeginsValue (toString value).toList := by
  obtain ⟨c, rest, printed, rfl | isDigit⟩ := exists_toString_eq_cons value
  · exact ⟨'-', rest, printed, by decide, by decide⟩
  · have noSpace : isSpace c = false := by
      simp only [isSpace, Bool.or_eq_false_iff, beq_eq_false_iff_ne]
      exact ⟨⟨⟨ne_of_isDigit isDigit rfl, ne_of_isDigit isDigit rfl⟩, ne_of_isDigit isDigit rfl⟩,
        ne_of_isDigit isDigit rfl⟩
    exact ⟨c, rest, printed, noSpace, ne_of_isDigit isDigit rfl⟩

theorem beginsWord_toString (value : Int) : BeginsWord (toString value).toList := by
  obtain ⟨c, rest, printed, rfl | isDigit⟩ := exists_toString_eq_cons value
  · exact ⟨'-', rest, printed, by decide⟩
  · exact ⟨c, rest, printed, ne_of_isDigit isDigit rfl, ne_of_isDigit isDigit rfl,
      ne_of_isDigit isDigit rfl⟩

theorem beginsValue_printString (value : String) : BeginsValue (printString value) :=
  ⟨'\x22', _, rfl, by decide, by decide⟩

theorem beginsValue_printAt {depth : Nat} {value : Json} (fits : Fits depth value) (level : Nat) :
    BeginsValue (printAt level value) := by
  cases fits with
  | null => rw [printAt]; exact ⟨'n', _, rfl, by decide, by decide⟩
  | boolean value =>
      cases value
      · rw [printAt]; exact ⟨'f', _, rfl, by decide, by decide⟩
      · rw [printAt]; exact ⟨'t', _, rfl, by decide, by decide⟩
  | integer _ => rw [printAt]; exact beginsValue_toString _
  | string value => rw [printAt]; exact beginsValue_printString value
  | @array _ items _ =>
      cases items <;> rw [printAt] <;> exact ⟨'[', _, rfl, by decide, by decide⟩
  | @object _ fields _ =>
      cases fields <;> rw [printAt] <;> exact ⟨'\x7b', _, rfl, by decide, by decide⟩

/-! ## What follows a value -/

theorem endsNumber_newLine (level : Nat) (rest : List Char) :
    EndsNumber (newLine level ++ rest) := by
  rintro c ⟨⟩
  decide

theorem endsNumber_printItems (level : Nat) (items : List Json) (outer : Nat) (rest : List Char) :
    EndsNumber (printItems level items ++ (newLine outer ++ rest)) := by
  cases items with
  | nil => exact endsNumber_newLine outer rest
  | cons item items =>
      rw [printItems]
      rintro c ⟨⟩
      decide

theorem endsNumber_printFields (level : Nat) (fields : List (String × Json)) (outer : Nat)
    (rest : List Char) : EndsNumber (printFields level fields ++ (newLine outer ++ rest)) := by
  cases fields with
  | nil => exact endsNumber_newLine outer rest
  | cons field fields =>
      rw [printFields]
      rintro c ⟨⟩
      decide

end Acceptor.Json
