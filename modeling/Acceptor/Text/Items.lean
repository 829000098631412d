import Acceptor.Text.Blank
import Acceptor.Text.Newline

/-!
Item lists: names separated by any run of commas and blanks.
-/

namespace Acceptor.Text

def isItemSeparator (c : Char) : Bool :=
  c == ',' || isBlank c

/-- The items of a text, in order; none of them is empty. -/
def items (text : List Char) : List (List Char) :=
  (splitWhere isItemSeparator (strip text)).filter (· ≠ [])

/-- The fields of a text between commas, each without the blanks at its ends. -/
def fields (text : List Char) : List (List Char) :=
  (splitWhere (· == ',') text).map strip

example : items " a, b,,c ".toList = [['a'], ['b'], ['c']] := by decide

example : fields "a, ,b".toList = [['a'], [], ['b']] := by decide

theorem ne_nil_of_mem_items {text item : List Char} (membership : item ∈ items text) :
    item ≠ [] := by
  simpa using (List.mem_filter.mp membership).2

end Acceptor.Text
