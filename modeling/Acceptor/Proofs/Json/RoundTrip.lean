import Acceptor.Proofs.Json.Printed
import Acceptor.Proofs.Json.Strings

/-!
Printed values are read back.

The reader is followed one construct at a time, each under the assumption that its parts are
read.  The length of the text that is left bounds the fuel that is needed.
-/

namespace Acceptor.Json

/-! ## Spaces -/

theorem skipSpace_cons {c : Char} (visible : isSpace c = false) (text : List Char) :
    skipSpace (c :: text) = c :: text := by
  rw [skipSpace, List.dropWhile_cons_of_neg (by simp [visible])]

theorem skipSpace_newLine (level : Nat) (text : List Char) :
    skipSpace (newLine level ++ text) = skipSpace text := by
  apply List.dropWhile_append_of_pos
  intro c membership
  rcases List.mem_cons.mp membership with rfl | isBlank
  · decide
  · rw [List.eq_of_mem_replicate isBlank]
    decide

theorem BeginsValue.skipSpace_append {text : List Char} (begins : BeginsValue text)
    (rest : List Char) : skipSpace (text ++ rest) = text ++ rest := by
  obtain ⟨c, others, rfl, visible, _⟩ := begins
  exact skipSpace_cons visible _

theorem BeginsValue.skipSpace_space {text : List Char} (begins : BeginsValue text)
    (rest : List Char) : skipSpace (' ' :: (text ++ rest)) = text ++ rest := by
  rw [skipSpace, List.dropWhile_cons_of_pos (by decide)]
  exact begins.skipSpace_append rest

/-! ## One construct at a time -/

theorem readValue_string (fuel depth : Nat) (value : String) (rest : List Char) :
    readValue (fuel + 1) depth (printString value ++ rest) = .ok (.string value, rest) := by
  rw [printString, List.append_assoc, List.cons_append, readValue, List.singleton_append,
    readString_flatMap_escapeChar]
  rfl

theorem readName_printString (name : String) {text rest : List Char}
    (value : skipSpace text = rest) :
    readName (printString name ++ ':' :: text) = .ok (name, rest) := by
  rw [printString, List.append_assoc, List.cons_append, readName, List.singleton_append,
    readString_flatMap_escapeChar]
  simp only [bind, Except.bind, skipSpace_cons (by decide : isSpace ':' = false), value, pure,
    Except.pure]

theorem readValue_eq_readWord {c : Char} (plain : c ≠ '\x22' ∧ c ≠ '[' ∧ c ≠ '\x7b')
    (fuel depth : Nat) (rest : List Char) :
    readValue (fuel + 1) depth (c :: rest) = readWord (c :: rest) := by
  unfold readValue
  split <;> simp_all

section
variable {fuel depth : Nat} {text start afterFirst rest : List Char}

theorem readValue_array {first : Json} {items : List Json} (skipped : skipSpace text = start)
    (notClosed : start.head? ≠ some ']')
    (readFirst : readValue fuel depth start = .ok (first, afterFirst))
    (readRest : readItems fuel depth (skipSpace afterFirst) = .ok (items, rest)) :
    readValue (fuel + 1) (depth + 1) ('[' :: text) = .ok (.array (first :: items), rest) := by
  rw [readValue, skipped]
  split
  · exact absurd rfl notClosed
  · simp only [readFirst, readRest, bind, Except.bind, pure, Except.pure]

theorem readValue_object {name : String} {first : Json} {fields : List (String × Json)}
    {afterName : List Char} (skipped : skipSpace text = start)
    (notClosed : start.head? ≠ some '\x7d') (named : readName start = .ok (name, afterName))
    (readFirst : readValue fuel depth afterName = .ok (first, afterFirst))
    (readRest : readFields fuel depth (skipSpace afterFirst) = .ok (fields, rest)) :
    readValue (fuel + 1) (depth + 1) ('\x7b' :: text) =
      .ok (.object ((name, first) :: fields), rest) := by
  rw [readValue, skipped]
  split
  · exact absurd rfl notClosed
  · simp only [named, readFirst, readRest, bind, Except.bind, pure, Except.pure]

theorem readItems_cons {item : Json} {items : List Json} (skipped : skipSpace text = start)
    (readItem : readValue fuel depth start = .ok (item, afterFirst))
    (readRest : readItems fuel depth (skipSpace afterFirst) = .ok (items, rest)) :
    readItems (fuel + 1) depth (',' :: text) = .ok (item :: items, rest) := by
  simp only [readItems, skipped, readItem, readRest, bind, Except.bind, pure, Except.pure]

theorem readFields_cons {name : String} {value : Json} {fields : List (String × Json)}
    {afterName : List Char} (skipped : skipSpace text = start)
    (named : readName start = .ok (name, afterName))
    (readFirst : readValue fuel depth afterName = .ok (value, afterFirst))
    (readRest : readFields fuel depth (skipSpace afterFirst) = .ok (fields, rest)) :
    readFields (fuel + 1) depth (',' :: text) = .ok ((name, value) :: fields, rest) := by
  simp only [readFields, skipped, named, readFirst, readRest, bind, Except.bind, pure,
    Except.pure]

end

/-! ## Values -/

/-- Printed at any level, and with enough fuel, the value is read back. -/
structure ReadsBack (depth : Nat) (value : Json) : Prop where
  begins : ∀ level, BeginsValue (printAt level value)
  read : ∀ level fuel rest, (printAt level value).length ≤ fuel → EndsNumber rest →
    readValue fuel depth (printAt level value ++ rest) = .ok (value, rest)

theorem readItems_printItems {depth : Nat} {items : List Json}
    (readBack : ∀ item ∈ items, ReadsBack depth item) {level fuel : Nat}
    (enough : (printItems level items).length < fuel) (outer : Nat) (rest : List Char) :
    readItems fuel depth
        (skipSpace (printItems level items ++ (newLine outer ++ ']' :: rest))) =
      .ok (items, rest) := by
  induction items generalizing fuel with
  | nil =>
      obtain ⟨fuel, rfl⟩ := Nat.exists_eq_add_one_of_ne_zero (by omega : fuel ≠ 0)
      rw [printItems, List.nil_append, skipSpace_newLine, skipSpace_cons (by decide), readItems]
  | cons item items inductionHypothesis =>
      rw [List.forall_mem_cons] at readBack
      simp only [printItems, List.cons_append, List.append_assoc, List.length_cons,
        List.length_append] at enough ⊢
      -- The comma uses up the fuel that this step takes.
      obtain ⟨fuel, rfl⟩ := Nat.exists_eq_add_one_of_ne_zero (by omega : fuel ≠ 0)
      have skipped := (readBack.1.begins level).skipSpace_append
        (printItems level items ++ (newLine outer ++ ']' :: rest))
      rw [skipSpace_cons (by decide)]
      apply readItems_cons ((skipSpace_newLine level _).trans skipped)
      · exact readBack.1.read level fuel _ (by omega) (endsNumber_printItems _ _ _ _)
      · exact inductionHypothesis readBack.2 (by omega)

theorem readFields_printFields {depth : Nat} {fields : List (String × Json)}
    (readBack : ∀ field ∈ fields, ReadsBack depth field.2) {level fuel : Nat}
    (enough : (printFields level fields).length < fuel) (outer : Nat) (rest : List Char) :
    readFields fuel depth
        (skipSpace (printFields level fields ++ (newLine outer ++ '\x7d' :: rest))) =
      .ok (fields, rest) := by
  induction fields generalizing fuel with
  | nil =>
      obtain ⟨fuel, rfl⟩ := Nat.exists_eq_add_one_of_ne_zero (by omega : fuel ≠ 0)
      rw [printFields, List.nil_append, skipSpace_newLine, skipSpace_cons (by decide), readFields]
  | cons field fields inductionHypothesis =>
      obtain ⟨name, value⟩ := field
      have valueBack : ReadsBack depth value := readBack _ List.mem_cons_self
      have othersBack := (List.forall_mem_cons.mp readBack).2
      simp only [printFields, List.cons_append, List.append_assoc, List.length_cons,
        List.length_append] at enough ⊢
      obtain ⟨fuel, rfl⟩ := Nat.exists_eq_add_one_of_ne_zero (by omega : fuel ≠ 0)
      have skipped := (beginsValue_printString name).skipSpace_append
        (':' :: ' ' :: (printAt level value ++
          (printFields level fields ++ (newLine outer ++ '\x7d' :: rest))))
      rw [skipSpace_cons (by decide)]
      apply readFields_cons ((skipSpace_newLine level _).trans skipped)
      · exact readName_printString name ((valueBack.begins level).skipSpace_space _)
      · exact valueBack.read level fuel _ (by omega) (endsNumber_printFields _ _ _ _)
      · exact inductionHypothesis othersBack (by omega)

theorem BeginsWord.readValue_append {text : List Char} (begins : BeginsWord text)
    {fuel : Nat} (enough : text.length ≤ fuel) {depth : Nat} {value : Json} {rest : List Char}
    (read : readWord (text ++ rest) = .ok (value, rest)) :
    readValue fuel depth (text ++ rest) = .ok (value, rest) := by
  obtain ⟨c, others, rfl, plain⟩ := begins
  rw [List.length_cons] at enough
  obtain ⟨fuel, rfl⟩ := Nat.exists_eq_add_one_of_ne_zero (by omega : fuel ≠ 0)
  exact (readValue_eq_readWord plain fuel depth _).trans read

theorem readValue_printAt_array {depth : Nat} {items : List Json}
    (readBack : ∀ item ∈ items, ReadsBack depth item) (level fuel : Nat) (rest : List Char)
    (enough : (printAt level (.array items)).length ≤ fuel) :
    readValue fuel (depth + 1) (printAt level (.array items) ++ rest) =
      .ok (.array items, rest) := by
  cases items with
  | nil =>
      simp only [printAt, List.length_cons, List.cons_append] at enough ⊢
      obtain ⟨fuel, rfl⟩ := Nat.exists_eq_add_one_of_ne_zero (by omega : fuel ≠ 0)
      rw [readValue, skipSpace_cons (by decide)]
      rfl
  | cons first items =>
      obtain ⟨firstBack, othersBack⟩ := List.forall_mem_cons.mp readBack
      simp only [printAt, List.cons_append, List.nil_append, List.append_assoc, List.length_cons,
        List.length_append] at enough ⊢
      obtain ⟨fuel, rfl⟩ := Nat.exists_eq_add_one_of_ne_zero (by omega : fuel ≠ 0)
      have skipped := (firstBack.begins (level + 1)).skipSpace_append
        (printItems (level + 1) items ++ (newLine level ++ ']' :: rest))
      apply readValue_array ((skipSpace_newLine (level + 1) _).trans skipped)
      · obtain ⟨c, others, printed, _, notClosed⟩ := firstBack.begins (level + 1)
        rw [printed]
        simpa using notClosed
      · exact firstBack.read (level + 1) fuel _ (by omega) (endsNumber_printItems _ _ _ _)
      · exact readItems_printItems othersBack (by omega) level rest

theorem readValue_printAt_object {depth : Nat} {fields : List (String × Json)}
    (readBack : ∀ field ∈ fields, ReadsBack depth field.2) (level fuel : Nat) (rest : List Char)
    (enough : (printAt level (.object fields)).length ≤ fuel) :
    readValue fuel (depth + 1) (printAt level (.object fields) ++ rest) =
      .ok (.object fields, rest) := by
  cases fields with
  | nil =>
      simp only [printAt, List.length_cons, List.cons_append] at enough ⊢
      obtain ⟨fuel, rfl⟩ := Nat.exists_eq_add_one_of_ne_zero (by omega : fuel ≠ 0)
      rw [readValue, skipSpace_cons (by decide)]
      rfl
  | cons first fields =>
      obtain ⟨name, value⟩ := first
      have valueBack : ReadsBack depth value := readBack _ List.mem_cons_self
      have othersBack := (List.forall_mem_cons.mp readBack).2
      simp only [printAt, List.cons_append, List.nil_append, List.append_assoc, List.length_cons,
        List.length_append] at enough ⊢
      obtain ⟨fuel, rfl⟩ := Nat.exists_eq_add_one_of_ne_zero (by omega : fuel ≠ 0)
      have skipped := (beginsValue_printString name).skipSpace_append
        (':' :: ' ' :: (printAt (level + 1) value ++
          (printFields (level + 1) fields ++ (newLine level ++ '\x7d' :: rest))))
      apply readValue_object ((skipSpace_newLine (level + 1) _).trans skipped)
      · rintro ⟨⟩
      · exact readName_printString name ((valueBack.begins (level + 1)).skipSpace_space _)
      · exact valueBack.read (level + 1) fuel _ (by omega) (endsNumber_printFields _ _ _ _)
      · exact readFields_printFields othersBack (by omega) level rest

theorem readsBack_of_fits {depth : Nat} {value : Json} (fits : Fits depth value) :
    ReadsBack depth value := by
  constructor
  · exact beginsValue_printAt fits
  · induction fits with
    | null =>
        intro level fuel rest enough _
        rw [printAt] at enough ⊢
        exact BeginsWord.readValue_append ⟨'n', _, rfl, by decide⟩ enough rfl
    | boolean value =>
        intro level fuel rest enough _
        cases value
        · rw [printAt] at enough ⊢
          exact BeginsWord.readValue_append ⟨'f', _, rfl, by decide⟩ enough rfl
        · rw [printAt] at enough ⊢
          exact BeginsWord.readValue_append ⟨'t', _, rfl, by decide⟩ enough rfl
    | @integer _ value short =>
        intro level fuel rest enough ends
        rw [printAt] at enough ⊢
        exact (beginsWord_toString value).readValue_append enough (readWord_toString short ends)
    | string value =>
        intro level fuel rest enough _
        rw [printAt] at enough ⊢
        have nonempty : 0 < (printString value).length := by simp [printString]
        obtain ⟨fuel, rfl⟩ := Nat.exists_eq_add_one_of_ne_zero (by omega : fuel ≠ 0)
        exact readValue_string fuel _ value rest
    | array fits inductionHypothesis =>
        intro level fuel rest enough _
        apply readValue_printAt_array _ level fuel rest enough
        intro item membership
        exact ⟨beginsValue_printAt (fits item membership), inductionHypothesis item membership⟩
    | object fits inductionHypothesis =>
        intro level fuel rest enough _
        apply readValue_printAt_object _ level fuel rest enough
        intro field membership
        exact ⟨beginsValue_printAt (fits field membership), inductionHypothesis field membership⟩

/-- What is printed of a value is read as the value. -/
theorem read_print {value : Json} (fits : Fits maxDepth value) : read value.print = .ok value := by
  have readsBack := readsBack_of_fits fits
  have noRest : EndsNumber [] := by rintro c ⟨⟩
  have skipped := (readsBack.begins 0).skipSpace_append []
  have parsed := readsBack.read 0 ((printAt 0 value).length + 1) [] (by omega) noRest
  rw [List.append_nil] at skipped parsed
  simp only [read, print, String.toList_ofList, skipped, parsed]
  rfl

end Acceptor.Json
