/-!
Blank characters, and texts freed of the blanks at their ends.

A blank is white space in the sense of the Unicode standard, or one of the four
information separators U+001C to U+001F.  Texts are scanned as lists of characters.
-/

namespace Acceptor.Text

/-- White space, the information separators included. -/
def isBlank (c : Char) : Bool :=
  let n := c.toNat
  (0x09 ≤ n && n ≤ 0x0D) || (0x1C ≤ n && n ≤ 0x20) || n == 0x85 || n == 0xA0 ||
    n == 0x1680 || (0x2000 ≤ n && n ≤ 0x200A) || n == 0x2028 || n == 0x2029 ||
    n == 0x202F || n == 0x205F || n == 0x3000

def stripStart (text : List Char) : List Char :=
  text.dropWhile isBlank

def stripEnd (text : List Char) : List Char :=
  (text.reverse.dropWhile isBlank).reverse

def strip (text : List Char) : List Char :=
  stripEnd (stripStart text)

/-- The white space that the core library knows is blank. -/
theorem isBlank_of_isWhitespace {c : Char} (white : c.isWhitespace = true) :
    isBlank c = true := by
  simp only [Char.isWhitespace, Bool.or_eq_true, decide_eq_true_eq] at white
  rcases white with ((rfl | rfl) | rfl) | rfl <;> decide

theorem stripStart_eq_nil_iff {text : List Char} :
    stripStart text = [] ↔ ∀ c ∈ text, isBlank c = true := by
  induction text with
  | nil => simp [stripStart]
  | cons c rest inductionHypothesis =>
      cases blank : isBlank c with
      | false => simp [stripStart, blank]
      | true =>
          have sameStart : stripStart (c :: rest) = stripStart rest := by
            simp [stripStart, blank]
          rw [sameStart, inductionHypothesis]
          simp [blank]

end Acceptor.Text
