import Acceptor.Formula.Grammar
import Acceptor.Text.Newline

/-!
Titles: lines of text, some with formulas between dollar signs.

A line holds formulas if the dollar signs without a backslash are even in number, and at
least two.  Then all of it is read: plain text, in which `\$` is a dollar sign, and formulas.
-/

namespace Acceptor.Formula.Title

def tabWidth : Nat := 8

def expandTabs (column : Nat) : List Char → List Char
  | [] => []
  | '\t' :: rest =>
      let width := tabWidth - column % tabWidth
      List.replicate width ' ' ++ expandTabs (column + width) rest
  | c :: rest => c :: expandTabs (if c = '\n' ∨ c = '\r' then 0 else column + 1) rest

/-- The number of the dollar signs right behind a backslash. -/
def escapedDollars : List Char → Nat
  | '\\' :: '$' :: rest => escapedDollars rest + 1
  | _ :: rest => escapedDollars rest
  | [] => 0

def holdsFormulas (line : List Char) : Bool :=
  let dollars := line.count '$' - escapedDollars line
  0 < dollars && dollars % 2 == 0

/-- The text from the first dollar sign on that has no backslash before it. -/
def fromDollar : List Char → List Char
  | '\\' :: '$' :: rest => fromDollar rest
  | '$' :: rest => '$' :: rest
  | _ :: rest => fromDollar rest
  | [] => []

/-- No formula begins at the dollar sign that is the first of `rest`. -/
def unread (line rest : List Char) : Fault :=
  ⟨.unread, .expected .ending, line, line.length - rest.length⟩

/-- A fault inside a formula.  The formula alone is shown, unless the fault has no place. -/
def inside (formula : List Char) (kind : Fault.Kind) (complaint : Complaint) :
    Option (List Char) → Fault
  | some rest => ⟨kind, complaint, formula, formula.length - rest.length⟩
  | none => ⟨kind, complaint, [], 0⟩

/-- Reads formulas, up to a number, and the plain text between them from `text` on, which is
the end of a line.  Gives the first fault. -/
def faultUpTo (line : List Char) : Nat → List Char → Option Fault
  | 0, _ => none
  | count + 1, text =>
      match fromDollar text with
      | [] => none
      | c :: rest =>
          match enclosed? '$' rest with
          | none => some (unread line (c :: rest))
          | some (formula, behind) =>
              match read formula with
              | .read _ => faultUpTo line count behind
              | .missed _ _ => some (unread line (c :: rest))
              | .stopped kind complaint rest? => some (inside formula kind complaint rest?)

def faultOfLine (line : List Char) : Option Fault :=
  if holdsFormulas line then
    let line := expandTabs 0 line
    faultUpTo line (line.length + 1) line
  else
    none

def fault? (title : String) : Option Fault :=
  (Text.lines title.toList).findSome? faultOfLine

example : fault? "$x_1$ and \\$" = none ∧ (fault? "a$ $b").map Fault.offset = some 1 ∧
    fault? "$x_1_2$" = some ⟨.wrong, .doubled .subscript, "x_1_2".toList, 0⟩ ∧
    fault? "$\\hat\x7b" = none := by
  decide +kernel

theorem holdsFormulas_eq_false {line : List Char} (plain : '$' ∉ line) :
    holdsFormulas line = false := by
  simp [holdsFormulas, List.count_eq_zero.2 plain]

/-- Without a dollar sign nothing is a formula. -/
theorem fault?_eq_none {title : String} (plain : '$' ∉ title.toList) : fault? title = none := by
  simp only [fault?, List.findSome?_eq_none_iff]
  intro line isLine
  have absent : '$' ∉ line := fun membership =>
    plain (Text.mem_of_mem_splitWhere isLine membership)
  simp [faultOfLine, holdsFormulas_eq_false absent]

end Acceptor.Formula.Title
