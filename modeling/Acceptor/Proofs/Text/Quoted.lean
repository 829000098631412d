import Acceptor.Text.Quoted
import Mathlib.Algebra.GroupWithZero.Nat
import Mathlib.Tactic.SplitIfs

/-!
Quoted texts can be seen and read back.

All their characters are printable, so they never break a line.  What stands between the quotes is
read one character at a time, and no character is written with the quote in front, so the end of a
quoted text is where it seems to be, whatever follows.
-/

namespace Acceptor.Text

/-! ## Printable characters -/

theorem isPrintable_of_mem_hexDigits {width n : Nat} {c : Char} (digit : c ∈ hexDigits width n) :
    isPrintable c = true := by
  have printable : ∀ n < 16, isPrintable (hexDigit n) = true := by decide
  induction width generalizing n with
  | zero => contradiction
  | succ width inductionHypothesis =>
      rcases List.mem_append.mp digit with higher | lowest
      · exact inductionHypothesis higher
      · rw [List.mem_singleton.mp lowest]
        exact printable _ (Nat.mod_lt n (by decide))

theorem isPrintable_quoteFor (text : List Char) : isPrintable (quoteFor text) = true := by
  unfold quoteFor
  split <;> decide

theorem isPrintable_of_mem_escape {quote : Char} (quoteIsPrintable : isPrintable quote = true)
    (c : Char) : ∀ d ∈ escape quote c, isPrintable d = true := by
  have backslash : isPrintable '\\' = true := by decide
  have pair (letter : Char) (isLetter : isPrintable letter = true) :
      ∀ d ∈ ['\\', letter], isPrintable d = true :=
    List.forall_mem_cons.mpr ⟨backslash, List.forall_mem_singleton.mpr isLetter⟩
  unfold escape
  split
  next special =>
    have itself : isPrintable c = true := by
      rcases special with rfl | rfl
      · exact quoteIsPrintable
      · exact backslash
    exact pair c itself
  split
  · exact pair 'n' (by decide)
  split
  · exact pair 'r' (by decide)
  split
  · exact pair 't' (by decide)
  split
  next printable => exact List.forall_mem_singleton.mpr printable
  have digits (letter : Char) (isLetter : isPrintable letter = true) (width : Nat) :
      ∀ d ∈ '\\' :: letter :: hexDigits width c.toNat, isPrintable d = true :=
    List.forall_mem_cons.mpr ⟨backslash,
      List.forall_mem_cons.mpr ⟨isLetter, fun _ => isPrintable_of_mem_hexDigits⟩⟩
  split
  · exact digits 'x' (by decide) 2
  split
  · exact digits 'u' (by decide) 4
  · exact digits 'U' (by decide) 8

theorem isPrintable_of_mem_quoted {text : List Char} {c : Char} (membership : c ∈ quoted text) :
    isPrintable c = true := by
  have quoteIsPrintable := isPrintable_quoteFor text
  simp only [quoted, List.cons_append, List.mem_cons, List.mem_append, List.mem_flatMap,
    List.not_mem_nil, or_false] at membership
  rcases membership with rfl | ⟨original, _, escaped⟩ | rfl
  · exact quoteIsPrintable
  · exact isPrintable_of_mem_escape quoteIsPrintable original c escaped
  · exact quoteIsPrintable

theorem newline_not_mem_quote (text : String) : '\n' ∉ (quote text).toList := by
  rw [quote, String.toList_ofList]
  intro membership
  exact absurd (isPrintable_of_mem_quoted membership) (by decide)

/-! ## Reading back -/

def hexNumber (digits : List Char) : Nat :=
  digits.foldl (fun number digit => number * 16 + (hexValue? digit).getD 0) 0

theorem hexNumber_hexDigits (width n : Nat) : hexNumber (hexDigits width n) = n % 16 ^ width := by
  induction width generalizing n with
  | zero => exact (Nat.mod_one n).symm
  | succ width inductionHypothesis =>
      have higher := inductionHypothesis (n / 16)
      have lowest := hexValue?_hexDigit (Nat.mod_lt n (by decide : 0 < 16))
      rw [hexNumber] at higher ⊢
      rw [hexDigits, List.foldl_append, higher, Nat.pow_succ', Nat.mod_mul]
      simp only [List.foldl_cons, List.foldl_nil, lowest, Option.getD_some]
      omega

/-- The first character of what stands between quotes, and what follows it. -/
def unescape? : List Char → Option (Char × List Char)
  | [] => none
  | '\\' :: 'n' :: rest => some ('\n', rest)
  | '\\' :: 'r' :: rest => some ('\r', rest)
  | '\\' :: 't' :: rest => some ('\t', rest)
  | '\\' :: 'x' :: rest => some (.ofNat (hexNumber (rest.take 2)), rest.drop 2)
  | '\\' :: 'u' :: rest => some (.ofNat (hexNumber (rest.take 4)), rest.drop 4)
  | '\\' :: 'U' :: rest => some (.ofNat (hexNumber (rest.take 8)), rest.drop 8)
  | '\\' :: c :: rest => some (c, rest)
  | c :: rest => some (c, rest)

theorem hexNumber_take_hexDigits_append {c : Char} (width : Nat) (fits : c.toNat < 16 ^ width)
    (rest : List Char) :
    Char.ofNat (hexNumber ((hexDigits width c.toNat ++ rest).take width)) = c ∧
      (hexDigits width c.toNat ++ rest).drop width = rest := by
  have digits := length_hexDigits width c.toNat
  rw [List.take_left' digits, List.drop_left' digits, hexNumber_hexDigits, Nat.mod_eq_of_lt fits]
  exact ⟨Char.ofNat_toNat c, rfl⟩

variable {quote : Char}

theorem unescape?_escape_append (isQuote : quote = '\x27' ∨ quote = '\x22') (c : Char)
    (rest : List Char) : unescape? (escape quote c ++ rest) = some (c, rest) := by
  simp only [escape]
  split_ifs with special newline carriageReturn tab printable narrow wide
  · rcases special with rfl | rfl
    · rcases isQuote with rfl | rfl <;> rfl
    · rfl
  · subst newline; rfl
  · subst carriageReturn; rfl
  · subst tab; rfl
  · have plain : c ≠ '\\' := fun same => special (.inr same)
    simp [unescape?, plain]
  · obtain ⟨same, others⟩ := hexNumber_take_hexDigits_append 2 narrow rest
    simp only [List.cons_append, unescape?, same, others]
  · obtain ⟨same, others⟩ := hexNumber_take_hexDigits_append 4 wide rest
    simp only [List.cons_append, unescape?, same, others]
  · have valid : c.toNat < 16 ^ 8 := Nat.lt_of_lt_of_le (UInt32.toNat_lt c.val) (by decide)
    obtain ⟨same, others⟩ := hexNumber_take_hexDigits_append 8 valid rest
    simp only [List.cons_append, unescape?, same, others]

theorem quoteFor_cases (text : List Char) : quoteFor text = '\x27' ∨ quoteFor text = '\x22' := by
  unfold quoteFor
  split
  · exact .inr rfl
  · exact .inl rfl

theorem escape_cases (quote c : Char) :
    escape quote c = [c] ∧ c ≠ quote ∨ ∃ code, escape quote c = '\\' :: code := by
  simp only [escape]
  split_ifs with special newline carriageReturn tab printable
  any_goals exact .inr ⟨_, rfl⟩
  exact .inl ⟨rfl, fun same => special (.inl same)⟩

/-- No character is taken for the end of the text. -/
theorem escape_append_ne (isQuote : quote = '\x27' ∨ quote = '\x22') (c : Char)
    (rest more : List Char) : escape quote c ++ rest ≠ quote :: more := by
  intro same
  rcases escape_cases quote c with ⟨plain, different⟩ | ⟨code, escaped⟩
  · rw [plain] at same
    exact different (List.cons.inj same).1
  · rw [escaped] at same
    have backslash := (List.cons.inj same).1
    rcases isQuote with rfl | rfl <;> exact absurd backslash (by decide)

theorem flatMap_escape_append_inj (isQuote : quote = '\x27' ∨ quote = '\x22')
    {text other rest more : List Char}
    (same : text.flatMap (escape quote) ++ quote :: rest =
      other.flatMap (escape quote) ++ quote :: more) : text = other ∧ rest = more := by
  induction text generalizing other with
  | nil =>
      cases other with
      | nil => exact ⟨rfl, (List.cons.inj same).2⟩
      | cons d other =>
          rw [List.flatMap_cons, List.append_assoc] at same
          exact absurd same.symm (escape_append_ne isQuote d _ _)
  | cons c text inductionHypothesis =>
      rw [List.flatMap_cons, List.append_assoc] at same
      -- One text cannot end before the other: then a quote would stand where a character begins.
      cases other with
      | nil => exact absurd same (escape_append_ne isQuote c _ _)
      | cons d other =>
          rw [List.flatMap_cons, List.append_assoc] at same
          have read := congrArg unescape? same
          rw [unescape?_escape_append isQuote, unescape?_escape_append isQuote] at read
          obtain ⟨rfl, later⟩ := Prod.mk.inj (Option.some.inj read)
          obtain ⟨rfl, sameRest⟩ := inductionHypothesis later
          exact ⟨rfl, sameRest⟩

/-- Whatever follows them, different texts look different between quotes. -/
theorem quote_append_inj {text other : String} {rest more : List Char}
    (same : (Text.quote text).toList ++ rest = (Text.quote other).toList ++ more) :
    text = other ∧ rest = more := by
  simp only [Text.quote, String.toList_ofList, quoted, List.cons_append, List.append_assoc,
    List.nil_append] at same
  obtain ⟨sameQuote, later⟩ := List.cons.inj same
  rw [sameQuote] at later
  obtain ⟨sameText, sameRest⟩ := flatMap_escape_append_inj (quoteFor_cases other.toList) later
  exact ⟨String.toList_injective sameText, sameRest⟩

end Acceptor.Text
