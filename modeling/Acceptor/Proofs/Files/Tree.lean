import Acceptor.Files.Tree
import Acceptor.Proofs.Path

/-!
Files that are written are there afterwards, with the content that was written.

`Leads` says what following names comes to.  Writing changes one node, which is no directory, so
all that was passed on the way to it is passed again.
-/

namespace Acceptor.Tree

/-! ## Following names -/

/-- The name is one that stands in a directory. -/
structure IsEntry (name : String) : Prop where
  not_idle : ¬ (name = "" ∨ name = ".")
  not_up : name ≠ ".."
  short : name.utf8ByteSize ≤ maxName

inductive Leads (tree : Tree) : (place names : List String) → Target → Prop where
  | here {place} : Leads tree place [] .directory
  | idle {place name rest target} : name = "" ∨ name = "." → Leads tree place rest target →
      Leads tree place (name :: rest) target
  | up {place rest target} : Leads tree place.dropLast rest target →
      Leads tree place (".." :: rest) target
  | down {place name rest target} : IsEntry name →
      tree.node? (place ++ [name]) = some .directory →
      Leads tree (place ++ [name]) rest target → Leads tree place (name :: rest) target
  | file {place name content} : IsEntry name →
      tree.node? (place ++ [name]) = some (.file content) →
      Leads tree place [name] (.file (place ++ [name]) content)
  | absent {place name} : IsEntry name → tree.node? (place ++ [name]) = none →
      Leads tree place [name] (.absent (place ++ [name]))

variable {tree : Tree} {path : String} {place names : List String} {target : Target}

theorem leads_of_follow (followed : tree.follow path place names = .ok target) :
    tree.Leads place names target := by
  induction names generalizing place with
  | nil =>
      cases followed
      exact .here
  | cons name rest inductionHypothesis =>
      unfold follow at followed
      split at followed
      next idle => exact .idle idle (inductionHypothesis followed)
      split at followed
      next _ up => exact up ▸ .up (inductionHypothesis followed)
      split at followed
      · contradiction
      next notIdle notUp short =>
        have isEntry : IsEntry name := ⟨notIdle, notUp, Nat.le_of_not_lt short⟩
        split at followed
        next isDirectory => exact .down isEntry isDirectory (inductionHypothesis followed)
        next isFile =>
          split at followed
          next last =>
            cases followed
            exact last ▸ .file isEntry isFile
          · contradiction
        next isAbsent =>
          split at followed
          next last =>
            cases followed
            exact last ▸ .absent isEntry isAbsent
          · contradiction

theorem Leads.follow (leads : tree.Leads place names target) (path : String) :
    tree.follow path place names = .ok target := by
  induction leads with
  | here => rfl
  | idle idle _ inductionHypothesis => rw [Tree.follow, if_pos idle, inductionHypothesis]
  | up _ inductionHypothesis =>
      rw [Tree.follow, if_neg (by decide), if_pos rfl, inductionHypothesis]
  | down isEntry isDirectory _ inductionHypothesis =>
      rw [Tree.follow, if_neg isEntry.not_idle, if_neg isEntry.not_up,
        if_neg (Nat.not_lt_of_le isEntry.short)]
      simp only [isDirectory, inductionHypothesis]
  | file isEntry isFile =>
      rw [Tree.follow, if_neg isEntry.not_idle, if_neg isEntry.not_up,
        if_neg (Nat.not_lt_of_le isEntry.short)]
      simp only [isFile, if_true]
  | absent isEntry isAbsent =>
      rw [Tree.follow, if_neg isEntry.not_idle, if_neg isEntry.not_up,
        if_neg (Nat.not_lt_of_le isEntry.short)]
      simp only [isAbsent, if_true]

theorem IsEntry.filter_cons {name : String} (isEntry : IsEntry name) (rest : List String) :
    (name :: rest).filter (fun name => name ≠ "" ∧ name ≠ ".") =
      name :: rest.filter fun name => name ≠ "" ∧ name ≠ "." := by
  have notIdle := isEntry.not_idle
  rw [not_or] at notIdle
  exact List.filter_cons_of_pos (decide_eq_true notIdle)

/-- Idle names can be left out. -/
theorem Leads.kept (leads : tree.Leads place names target) :
    tree.Leads place (names.filter fun name => name ≠ "" ∧ name ≠ ".") target := by
  induction leads with
  | here => exact .here
  | idle idle _ inductionHypothesis =>
      rwa [List.filter_cons_of_neg (by simpa [or_iff_not_imp_left] using idle)]
  | up _ inductionHypothesis => exact .up inductionHypothesis
  | down isEntry isDirectory _ inductionHypothesis =>
      rw [isEntry.filter_cons]
      exact .down isEntry isDirectory inductionHypothesis
  | file isEntry isFile =>
      rw [isEntry.filter_cons]
      exact .file isEntry isFile
  | absent isEntry isAbsent =>
      rw [isEntry.filter_cons]
      exact .absent isEntry isAbsent

theorem Leads.append_left {before : List String} (idle : ∀ name ∈ before, name = "")
    (leads : tree.Leads place names target) : tree.Leads place (before ++ names) target := by
  induction before with
  | nil => exact leads
  | cons name before inductionHypothesis =>
      rw [List.forall_mem_cons] at idle
      exact .idle (.inl idle.1) (inductionHypothesis idle.2)

/-! ## Putting files -/

/-- The target is a place where a file stands or could be put. -/
inductive Target.IsAt (found : List String) : Target → Prop where
  | file (content : Content) : IsAt found (.file found content)
  | absent : IsAt found (.absent found)

variable {found : List String} {content : Content}

theorem node?_putFile (somewhere : found ≠ []) (other : List String) :
    (tree.putFile found content).node? other =
      if found = other then some (.file content) else tree.node? other := by
  unfold node? putFile
  split
  next atRoot => rw [if_neg fun same => somewhere (same.trans atRoot)]
  · exact OrderedMap.get?_insert _ _ _ _

theorem Leads.ne_directory (leads : tree.Leads place names target) (isAt : target.IsAt found) :
    found ≠ [] ∧ tree.node? found ≠ some .directory := by
  induction leads with
  | here => cases isAt
  | idle _ _ inductionHypothesis => exact inductionHypothesis isAt
  | up _ inductionHypothesis => exact inductionHypothesis isAt
  | down _ _ _ inductionHypothesis => exact inductionHypothesis isAt
  | file isEntry isFile =>
      cases isAt
      rw [isFile]
      exact ⟨by simp, by simp⟩
  | absent isEntry isAbsent =>
      cases isAt
      rw [isAbsent]
      exact ⟨by simp, by simp⟩

theorem Leads.putFile (leads : tree.Leads place names target) (isAt : target.IsAt found)
    (content : Content) : (tree.putFile found content).Leads place names (.file found content) := by
  obtain ⟨somewhere, noDirectory⟩ := leads.ne_directory isAt
  induction leads with
  | here => cases isAt
  | idle idle _ inductionHypothesis => exact .idle idle (inductionHypothesis isAt)
  | up _ inductionHypothesis => exact .up (inductionHypothesis isAt)
  | down isEntry isDirectory _ inductionHypothesis =>
      refine .down isEntry ?_ (inductionHypothesis isAt)
      rw [node?_putFile somewhere, if_neg, isDirectory]
      rintro rfl
      exact noDirectory isDirectory
  | file isEntry isFile =>
      cases isAt
      exact .file isEntry (by rw [node?_putFile somewhere, if_pos rfl])
  | absent isEntry isAbsent =>
      cases isAt
      exact .file isEntry (by rw [node?_putFile somewhere, if_pos rfl])

/-! ## Reading what was written -/

/-- The path can be looked at: it holds no null, and it is neither empty nor too long. -/
structure IsUsable (path : String) : Prop where
  no_null : '\x00' ∉ path.toList
  short : path.utf8ByteSize ≤ maxPath
  nonempty : path ≠ ""

theorem target_eq_ok_iff :
    tree.target path names = .ok target ↔
      IsUsable path ∧ tree.Leads (tree.startOf path) names target := by
  unfold Tree.target
  constructor
  · intro followed
    split at followed
    · contradiction
    next noNull =>
    split at followed
    · contradiction
    next short =>
    split at followed
    · contradiction
    next nonempty =>
    exact ⟨⟨by simpa using noNull, Nat.le_of_not_lt short, nonempty⟩, leads_of_follow followed⟩
  · rintro ⟨usable, leads⟩
    rw [if_neg (by simpa using usable.no_null), if_neg (Nat.not_lt_of_le usable.short),
      if_neg usable.nonempty, leads.follow]

theorem write_eq_ok_iff {after : Tree} :
    tree.write path content = .ok after ↔
      (Path.allNames path).getLast? ≠ some "" ∧
        ∃ target found, tree.target path (Path.allNames path) = .ok target ∧
          target.IsAt found ∧ after = tree.putFile found content := by
  simp only [write]
  constructor
  · intro written
    split at written
    · split at written <;> contradiction
    next noSlash =>
      split at written
      · contradiction
      · contradiction
      next place old reached =>
        cases written
        exact ⟨noSlash, _, place, reached, .file old, rfl⟩
      next place reached =>
        cases written
        exact ⟨noSlash, _, place, reached, .absent, rfl⟩
  · rintro ⟨noSlash, target, found, reached, isAt, rfl⟩
    cases isAt <;> simp only [if_neg noSlash, reached]

/-- A path that leads to a file leads through a name. -/
theorem names_ne_nil_of_target (reached : tree.target path (Path.allNames path) = .ok target)
    (isAt : target.IsAt found) : (Path.ofString path).names ≠ [] := by
  obtain ⟨_, leads⟩ := target_eq_ok_iff.mp reached
  have kept : tree.Leads (tree.startOf path) (Path.ofString path).names target := leads.kept
  intro nameless
  rw [nameless] at kept
  cases kept
  cases isAt

/-- The path and the text of the path that is read from it lead to the same file. -/
theorem target_ofString (reached : tree.target path (Path.allNames path) = .ok target)
    (isAt : target.IsAt found) :
    tree.target (Path.ofString path).toString (Path.allNames (Path.ofString path).toString) =
      .ok target := by
  have named := names_ne_nil_of_target reached isAt
  obtain ⟨usable, leads⟩ := target_eq_ok_iff.mp reached
  have kept : tree.Leads (tree.startOf path) (Path.ofString path).names target := leads.kept
  have sameStart : tree.startOf (Path.ofString path).toString = tree.startOf path := by
    simp only [startOf, Path.head?_toString_iff named]
  obtain ⟨before, idle, names⟩ := Path.allNames_toString named
  rw [target_eq_ok_iff, sameStart, names]
  refine ⟨⟨?_, ?_, ?_⟩, kept.append_left idle⟩
  · intro null
    exact usable.no_null ((Path.toList_toString_sublist named).subset null)
  · exact (Path.utf8ByteSize_toString_le named).trans usable.short
  · exact Path.toString_ne_empty named

theorem target_of_write {after : Tree} (written : tree.write path content = .ok after) :
    ∃ found, after.target path (Path.allNames path) = .ok (.file found content) := by
  obtain ⟨_, target, found, reached, isAt, rfl⟩ := write_eq_ok_iff.mp written
  obtain ⟨usable, leads⟩ := target_eq_ok_iff.mp reached
  exact ⟨found, target_eq_ok_iff.mpr ⟨usable, leads.putFile isAt content⟩⟩

theorem read_of_write {after : Tree} (written : tree.write path content = .ok after) :
    after.read path = .ok content := by
  obtain ⟨found, reached⟩ := target_of_write written
  rw [read, reached]

def IsWritable (tree : Tree) (path : String) : Prop :=
  ∃ content after, tree.write path content = .ok after

/-- Whether a file can be written does not depend on what is written. -/
theorem IsWritable.exists_write (writable : tree.IsWritable path) (content : Content) :
    ∃ after, tree.write path content = .ok after := by
  obtain ⟨other, after, written⟩ := writable
  obtain ⟨noSlash, target, found, reached, isAt, _⟩ := write_eq_ok_iff.mp written
  exact ⟨_, write_eq_ok_iff.mpr ⟨noSlash, target, found, reached, isAt, rfl⟩⟩

end Acceptor.Tree
