import Acceptor.Settings
import Acceptor.Text.Newline

/-!
The significant lines of a definition: those that are neither blank nor comments, with
their numbers in the text.
-/

namespace Acceptor

structure Line where
  /-- The number of the line in the text, from one on. -/
  number : Nat
  text : List Char
  deriving DecidableEq, Repr

namespace Line

def isSignificant (marker : CommentMarker) (line : Line) : Bool :=
  match line.text with
  | [] => false
  | c :: _ => c != marker.char

def all (text : List Char) : List Line :=
  ((Text.lines (Text.unifyNewlines text)).zipIdx 1).map fun (text, number) =>
    { number, text := Text.strip text }

def significant (marker : CommentMarker) (text : List Char) : List Line :=
  (all text).filter (isSignificant marker)

def cutAtArrow? : List Char → Option (List Char × List Char)
  | '-' :: '>' :: rest => some ([], rest)
  | c :: rest => (cutAtArrow? rest).map fun (before, after) => (c :: before, after)
  | [] => none

example : cutAtArrow? "a->b->c".toList = some (['a'], "b->c".toList) := by decide

theorem eq_of_cutAtArrow? {text before after : List Char}
    (found : cutAtArrow? text = some (before, after)) :
    text = before ++ '-' :: '>' :: after := by
  fun_induction cutAtArrow? text generalizing before with
  | case1 rest => simp_all
  | case2 c rest _ inductionHypothesis =>
      obtain ⟨⟨first, second⟩, search, equality⟩ := Option.map_eq_some_iff.mp found
      cases equality
      simp [inductionHypothesis search]
  | case3 => contradiction

end Line

end Acceptor
