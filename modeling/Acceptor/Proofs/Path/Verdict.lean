import Acceptor.Proofs.Path
import Mathlib.Data.List.DropRight

/-!
Endings of names, and the paths of verdict files.

The verdict file stands in the directory of the input and has the name of the input with another
ending.  A path with that ending already is left as it is, so a verdict path is its own verdict
path.
-/

namespace Acceptor.Path

/-! ## Endings -/

/-- The name is a stem, a dot and a tail in which no other dot stands. -/
structure Splits (name stem tail : List Char) : Prop where
  name_eq : name = stem ++ '.' :: tail
  stem_ne_nil : stem ≠ []
  tail_ne_nil : tail ≠ []
  no_dot : '.' ∉ tail

/-- The name ends with the tail, after a dot that does not begin the name. -/
def HasEnding (name tail : String) : Prop :=
  ∃ stem, Splits name.toList stem tail.toList

variable {name stem tail ending : List Char}

theorem takeWhile_reverse_append (noDot : '.' ∉ tail) (before : List Char) :
    ((before ++ '.' :: tail).reverse.takeWhile (· ≠ '.')).reverse = tail := by
  have plain : ∀ c ∈ tail.reverse, decide (c ≠ '.') = true := by
    intro c membership
    apply decide_eq_true
    intro dot
    exact noDot (dot ▸ List.mem_reverse.mp membership)
  rw [List.reverse_append, List.reverse_cons, List.append_assoc,
    List.takeWhile_append_of_pos plain]
  simp

theorem Splits.splitEnding_eq (splits : Splits name stem tail) :
    splitEnding name = (stem, '.' :: tail) := by
  obtain ⟨rfl, stemNonempty, tailNonempty, noDot⟩ := splits
  have length : (stem ++ '.' :: tail).length = stem.length + (tail.length + 1) := by simp
  have cut : (stem ++ '.' :: tail).length - tail.length - 1 = stem.length := by omega
  have longer : tail.length ≠ (stem ++ '.' :: tail).length := by omega
  simp only [splitEnding, takeWhile_reverse_append noDot, cut, List.take_left', longer,
    stemNonempty, tailNonempty, or_self, if_false]

theorem exists_last_dot (dotted : '.' ∈ name) :
    ∃ before tail, name = before ++ '.' :: tail ∧ '.' ∉ tail := by
  obtain ⟨tail, before, parts, noDot⟩ :=
    List.eq_append_cons_of_mem (List.mem_reverse.mpr dotted)
  refine ⟨before.reverse, tail.reverse, ?_, by simpa using noDot⟩
  rw [← List.reverse_reverse name, parts]
  simp

/-- A name that cannot be split has no ending. -/
theorem splitEnding_eq_self (bare : ∀ stem tail, ¬ Splits name stem tail) :
    splitEnding name = (name, []) := by
  unfold splitEnding
  dsimp only
  rw [if_pos]
  by_cases dotted : '.' ∈ name
  · obtain ⟨before, tail, rfl, noDot⟩ := exists_last_dot dotted
    have length : (before ++ '.' :: tail).length = before.length + (tail.length + 1) := by simp
    have cut : (before ++ '.' :: tail).length - tail.length - 1 = before.length := by omega
    rw [takeWhile_reverse_append noDot, cut, List.take_left' rfl]
    by_contra ended
    simp only [not_or] at ended
    exact bare before tail ⟨rfl, ended.2.1, ended.1, noDot⟩
  · have plain : ∀ c ∈ name.reverse, decide (c ≠ '.') = true := by
      intro c membership
      apply decide_eq_true
      intro dot
      exact dotted (dot ▸ List.mem_reverse.mp membership)
    rw [List.takeWhile_eq_self_iff.mpr plain, List.reverse_reverse]
    exact .inr (.inr rfl)

theorem splitEnding_cases (name : List Char) :
    (∃ stem tail, Splits name stem tail ∧ splitEnding name = (stem, '.' :: tail)) ∨
      (∀ stem tail, ¬ Splits name stem tail) ∧ splitEnding name = (name, []) := by
  by_cases splits : ∃ stem tail, Splits name stem tail
  · obtain ⟨stem, tail, splits⟩ := splits
    exact .inl ⟨stem, tail, splits, splits.splitEnding_eq⟩
  · have bare : ∀ stem tail, ¬ Splits name stem tail := by
      intro stem tail isSplit
      exact splits ⟨stem, tail, isSplit⟩
    exact .inr ⟨bare, splitEnding_eq_self bare⟩

/-! ## Names of verdict files -/

theorem splits_verdictEnding (nonempty : stem ≠ []) :
    Splits (stem ++ verdictEnding) stem ['o', 'u', 't'] :=
  ⟨rfl, nonempty, by decide, by decide⟩

theorem toList_renameEnding (ending : List Char) (name : String) :
    (renameEnding ending name).toList = (splitEnding name.toList).1 ++ ending :=
  String.toList_ofList

theorem stem_ne_nil (nonempty : name ≠ []) : (splitEnding name).1 ≠ [] := by
  rcases splitEnding_cases name with ⟨stem, tail, splits, same⟩ | ⟨_, same⟩
  · rw [same]
    exact splits.stem_ne_nil
  · rw [same]
    exact nonempty

theorem renameEnding_renameEnding {name : String} (nonempty : name ≠ "") :
    renameEnding verdictEnding (renameEnding verdictEnding name) =
      renameEnding verdictEnding name := by
  have stem : (splitEnding name.toList).1 ≠ [] := stem_ne_nil (by simpa using nonempty)
  rw [← String.toList_inj, toList_renameEnding, toList_renameEnding,
    (splits_verdictEnding stem).splitEnding_eq]

theorem renameEnding_eq_self_iff {name : String} :
    renameEnding verdictEnding name = name ↔ HasEnding name "out" := by
  rw [← String.toList_inj, toList_renameEnding, HasEnding]
  rcases splitEnding_cases name.toList with ⟨stem, tail, splits, same⟩ | ⟨bare, same⟩
  · rw [same]
    constructor
    · intro renamed
      rw [splits.name_eq] at renamed
      have sameTail : tail = ['o', 'u', 't'] :=
        (List.cons.inj (List.append_cancel_left renamed)).2.symm
      rw [sameTail] at splits
      exact ⟨stem, splits⟩
    · intro ended
      obtain ⟨other, otherSplits⟩ := ended
      rw [otherSplits.splitEnding_eq] at same
      obtain ⟨rfl, sameTail⟩ := Prod.mk.inj same
      exact otherSplits.name_eq.symm
  · rw [same]
    apply iff_of_false
    · intro renamed
      have length := congrArg List.length renamed
      simp [verdictEnding] at length
    · intro ended
      obtain ⟨other, otherSplits⟩ := ended
      exact bare _ _ otherSplits

/-- What is left of the name without its ending, if it has one. -/
def IsStem (name stem : String) : Prop :=
  (∃ tail, Splits name.toList stem.toList tail) ∨
    stem = name ∧ ∀ stem tail, ¬ Splits name.toList stem tail

theorem exists_stem (name : String) :
    ∃ stem, IsStem name stem ∧ renameEnding verdictEnding name = stem ++ ".out" := by
  refine ⟨String.ofList (splitEnding name.toList).1, ?_, ?_⟩
  · rcases splitEnding_cases name.toList with ⟨stem, tail, splits, same⟩ | ⟨bare, same⟩
    · rw [same]
      exact .inl ⟨tail, by rwa [String.toList_ofList]⟩
    · rw [same]
      exact .inr ⟨String.ofList_toList, bare⟩
  · rw [← String.toList_inj, toList_renameEnding, String.toList_append, String.toList_ofList]
    rfl

/-! ## Verdict paths -/

/-- Where the verdict file of an input stands. -/
structure StandsBeside (input target : Path) : Prop where
  parent_eq : target.parent = input.parent
  name_eq : ∃ stem, IsStem input.name stem ∧ target.name = stem ++ ".out"
  eq_iff : target = input ↔ HasEnding input.name "out"
  verdictPath_eq : target.verdictPath = .ok target

section
variable {path input : Path} {before : List String} {last : String}

theorem name_of_names (names : path.names = before ++ [last]) : path.name = last := by
  rw [name, names, List.getLast?_concat, Option.getD_some]

theorem verdictPath_of_names (names : input.names = before ++ [last]) :
    input.verdictPath =
      .ok { input with names := before ++ [renameEnding verdictEnding last] } := by
  simp only [verdictPath, names, List.getLast?_concat, List.dropLast_concat]

theorem standsBeside_of_names (names : input.names = before ++ [last]) (nonempty : last ≠ "") :
    StandsBeside input { input with names := before ++ [renameEnding verdictEnding last] } := by
  have inputName := name_of_names names
  constructor
  · simp only [parent, names, List.dropLast_concat]
  · obtain ⟨stem, isStem, renamed⟩ := exists_stem last
    rw [inputName]
    exact ⟨stem, isStem, (name_of_names rfl).trans renamed⟩
  · rw [inputName, ← renameEnding_eq_self_iff]
    constructor
    · intro same
      have sameNames := congrArg Path.names same
      rw [names] at sameNames
      exact List.singleton_inj.mp (List.append_cancel_left sameNames)
    · intro same
      rw [same, ← names]
  · apply (verdictPath_of_names rfl).trans
    rw [renameEnding_renameEnding nonempty]

end

/-- A path that leads through a name at all has a verdict path, which stands beside it. -/
theorem exists_standsBeside {text : String} (named : (ofString text).names ≠ []) :
    ∃ target, (ofString text).verdictPath = .ok target ∧
      StandsBeside (ofString text) target := by
  have names := (List.dropLast_append_getLast named).symm
  exact ⟨_, verdictPath_of_names names,
    standsBeside_of_names names (ne_empty_of_mem_names (List.getLast_mem named))⟩

end Acceptor.Path
