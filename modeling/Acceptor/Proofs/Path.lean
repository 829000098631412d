import Acceptor.Path
import Acceptor.Proofs.Text.Pieces
import Mathlib.Data.List.Flatten
import Mathlib.Data.String.Basic

/-!
Paths and the texts that they are read from.

The text of a path leaves out what is idle in the text that it was read from.  It holds no other
characters, is no longer and leads through the same names.
-/

namespace Acceptor.Path

/-! ## Names as lists of characters -/

/-- The pieces between the slashes of a text that are names of its path. -/
def namePieces (text : List Char) : List (List Char) :=
  (text.splitOn '/').filter fun piece => piece ≠ [] ∧ piece ≠ ['.']

theorem allNames_eq_map_splitOn (text : String) :
    allNames text = (text.toList.splitOn '/').map String.ofList := by
  rw [allNames, Text.splitWhere_eq_splitOnP]
  rfl

theorem names_eq_map_namePieces (text : String) :
    (ofString text).names = (namePieces text.toList).map String.ofList := by
  have same : ∀ piece : List Char, decide (String.ofList piece ≠ "" ∧ String.ofList piece ≠ ".") =
      decide (piece ≠ [] ∧ piece ≠ ['.']) := by
    intro piece
    simp only [ne_eq, String.ofList_eq]
    rfl
  rw [ofString, namePieces, allNames_eq_map_splitOn, List.filter_map]
  exact congrArg _ (List.filter_congr fun piece _ => same piece)

theorem map_toList_names (text : String) :
    (ofString text).names.map String.toList = namePieces text.toList := by
  rw [names_eq_map_namePieces, List.map_map]
  exact (List.map_congr_left fun _ _ => String.toList_ofList).trans (List.map_id _)

theorem splitOn_cons (text : List Char) :
    ('/' :: text).splitOn '/' = [] :: text.splitOn '/' := by
  rw [List.splitOn, List.splitOnP_cons_eq_if_modifyHead, if_pos (by decide)]
  rfl

theorem namePieces_cons (text : List Char) : namePieces ('/' :: text) = namePieces text := by
  rw [namePieces, splitOn_cons, List.filter_cons_of_neg (by decide)]
  rfl

theorem cons_intercalate {pieces : List (List Char)} (nonempty : pieces ≠ []) :
    '/' :: ['/'].intercalate pieces = pieces.flatMap ('/' :: ·) := by
  induction pieces with
  | nil => contradiction
  | cons piece rest inductionHypothesis =>
      cases rest with
      | nil => simp
      | cons second others =>
          rw [List.intercalate_cons_cons, List.flatMap_cons,
            ← inductionHypothesis (List.cons_ne_nil second others)]
          simp

theorem intercalate_namePieces_sublist (text : List Char) :
    (['/'].intercalate (namePieces text)).Sublist text := by
  by_cases empty : namePieces text = []
  · simp [empty]
  · have pieces : text.splitOn '/' ≠ [] := List.splitOnP_ne_nil _ text
    have kept : ((namePieces text).flatMap ('/' :: ·)).Sublist
        ((text.splitOn '/').flatMap ('/' :: ·)) := List.filter_sublist.flatMap _
    rw [← cons_intercalate empty, ← cons_intercalate pieces, List.intercalate_splitOn] at kept
    exact List.cons_sublist_cons.mp kept

/-! ## Texts of paths -/

theorem toList_toString {path : Path} (named : path.names ≠ []) :
    path.toString.toList =
      path.root.toString.toList ++ ['/'].intercalate (path.names.map String.toList) := by
  rw [toString, if_neg (fun both => named both.2), String.toList_append, String.toList_intercalate]
  rfl

/-- The text of a path holds the characters of the text that it was read from, in their order,
and no others. -/
theorem toList_toString_sublist {text : String} (named : (ofString text).names ≠ []) :
    (ofString text).toString.toList.Sublist text.toList := by
  rw [toList_toString named, map_toList_names]
  simp only [ofString]
  generalize text.toList = characters
  unfold rootOf
  split
  next rest =>
    rw [namePieces_cons]
    exact (intercalate_namePieces_sublist _).cons_cons '/'
  next rest _ =>
    rw [namePieces_cons, namePieces_cons]
    exact ((intercalate_namePieces_sublist _).cons_cons '/').cons_cons '/'
  next rest _ _ =>
    rw [namePieces_cons]
    exact (intercalate_namePieces_sublist _).cons_cons '/'
  · exact intercalate_namePieces_sublist _

theorem utf8ByteSize_toString_le {text : String} (named : (ofString text).names ≠ []) :
    (ofString text).toString.utf8ByteSize ≤ text.utf8ByteSize := by
  rw [← String.utf8Len_toList, ← String.utf8Len_toList]
  exact String.utf8Len_le_of_sublist (toList_toString_sublist named)

theorem slash_not_mem_of_mem_namePieces {text piece : List Char}
    (membership : piece ∈ namePieces text) : '/' ∉ piece := by
  intro slash
  have isPiece := (List.mem_filter.mp membership).1
  rw [List.splitOn, ← Text.splitWhere_eq_splitOnP] at isPiece
  exact absurd (Text.not_isSeparator_of_mem_splitWhere isPiece slash) (by decide)

theorem head?_intercalate_namePieces (text : List Char) :
    (['/'].intercalate (namePieces text)).head? ≠ some '/' := by
  cases pieces : namePieces text with
  | nil => simp
  | cons first rest =>
      have membership : first ∈ namePieces text := pieces ▸ List.mem_cons_self
      have noSlash := slash_not_mem_of_mem_namePieces membership
      have nonempty := (of_decide_eq_true (List.mem_filter.mp membership).2).1
      obtain ⟨c, others, rfl⟩ := List.exists_cons_of_ne_nil nonempty
      have head : (['/'].intercalate ((c :: others) :: rest)).head? = some c := by
        cases rest with
        | nil => simp
        | cons second rest => simp [List.intercalate_cons_cons]
      rw [head]
      rintro ⟨⟩
      exact noSlash List.mem_cons_self

theorem rootOf_eq_relative_iff {text : List Char} :
    rootOf text = .relative ↔ text.head? ≠ some '/' := by
  unfold rootOf
  split
  · simp
  · simp
  · simp
  next noRoot =>
    refine iff_of_true rfl fun head => ?_
    obtain ⟨rest, rfl⟩ := List.head?_eq_some_iff.mp head
    exact noRoot rest rfl

/-- A path and the text that it was read from start at the same place. -/
theorem head?_toString_iff {text : String} (named : (ofString text).names ≠ []) :
    (ofString text).toString.toList.head? = some '/' ↔ text.toList.head? = some '/' := by
  rw [toList_toString named, map_toList_names]
  have relative : rootOf text.toList = .relative ↔ text.toList.head? ≠ some '/' :=
    rootOf_eq_relative_iff
  simp only [ofString]
  cases root : rootOf text.toList with
  | relative =>
      exact iff_of_false (head?_intercalate_namePieces text.toList) (relative.mp root)
  | slash | doubleSlash =>
      apply iff_of_true rfl
      by_contra different
      rw [root] at relative
      exact absurd (relative.mpr different) (by decide)

/-- Only the slashes of a root stand before the names. -/
theorem allNames_toString {text : String} (named : (ofString text).names ≠ []) :
    ∃ before, (∀ name ∈ before, name = "") ∧
      allNames (ofString text).toString = before ++ (ofString text).names := by
  have nonempty : namePieces text.toList ≠ [] := by
    rw [← map_toList_names]
    simpa using named
  have split := List.splitOn_intercalate '/' (fun _ => slash_not_mem_of_mem_namePieces) nonempty
  have cut := splitOn_cons (['/'].intercalate (namePieces text.toList))
  rw [split] at cut
  rw [allNames_eq_map_splitOn, toList_toString named, map_toList_names, names_eq_map_namePieces]
  cases (ofString text).root with
  | relative =>
      refine ⟨[], by simp, ?_⟩
      simp only [Root.toString, String.toList_empty, List.nil_append, split]
  | slash =>
      refine ⟨[""], by simp, ?_⟩
      exact congrArg _ cut
  | doubleSlash =>
      refine ⟨["", ""], by simp, ?_⟩
      exact congrArg _ ((splitOn_cons _).trans (congrArg _ cut))

theorem ne_empty_of_mem_names {text name : String} (isName : name ∈ (ofString text).names) :
    name ≠ "" :=
  (of_decide_eq_true (List.mem_filter.mp isName).2).1

theorem toString_ne_empty {text : String} (named : (ofString text).names ≠ []) :
    (ofString text).toString ≠ "" := by
  intro empty
  obtain ⟨before, _, names⟩ := allNames_toString named
  obtain ⟨name, isName⟩ := List.exists_mem_of_ne_nil _ named
  have single : name ∈ allNames "" := by
    rw [← empty, names]
    exact List.mem_append_right before isName
  exact ne_empty_of_mem_names isName (List.mem_singleton.mp single)

end Acceptor.Path
