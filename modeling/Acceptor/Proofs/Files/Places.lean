import Acceptor.Proofs.Files.Tree

/-!
The places that paths lead to stay the same while files are written.

A file is written at a place where no directory stands, so no path passes through that place, and
paths that lead to other places are not touched.
-/

namespace Acceptor.Tree

variable {tree after : Tree} {path other : String} {place names found : List String}
  {target : Target} {content : Content}

/-- The place of the file that a path leads to, whether the file is there or could be put there. -/
def place? (tree : Tree) (path : String) : Option (List String) :=
  match tree.target path (Path.allNames path) with
  | .ok (.file place _) | .ok (.absent place) => some place
  | _ => none

theorem place?_eq_some_iff :
    tree.place? path = some found ↔
      ∃ target, tree.target path (Path.allNames path) = .ok target ∧ target.IsAt found := by
  unfold place?
  constructor
  · intro reached
    split at reached
    next place content isFile =>
      cases reached
      exact ⟨_, isFile, .file content⟩
    next place isAbsent =>
      cases reached
      exact ⟨_, isAbsent, .absent⟩
    · contradiction
  · rintro ⟨target, reached, isAt⟩
    cases isAt <;> rw [reached]

def StoresAt (tree : Tree) (path : String) (found : List String) (content : Content) : Prop :=
  tree.target path (Path.allNames path) = .ok (.file found content)

theorem Leads.node?_of_file (leads : tree.Leads place names (.file found content)) :
    tree.node? found = some (.file content) := by
  generalize isFile : Target.file found content = target at leads
  induction leads with
  | here => cases isFile
  | idle _ _ inductionHypothesis => exact inductionHypothesis isFile
  | up _ inductionHypothesis => exact inductionHypothesis isFile
  | down _ _ _ inductionHypothesis => exact inductionHypothesis isFile
  | file _ isThere =>
      cases isFile
      exact isThere
  | absent => cases isFile

theorem Leads.node?_of_absent (leads : tree.Leads place names (.absent found)) :
    tree.node? found = none := by
  generalize isNothing : Target.absent found = target at leads
  induction leads with
  | here => cases isNothing
  | idle _ _ inductionHypothesis => exact inductionHypothesis isNothing
  | up _ inductionHypothesis => exact inductionHypothesis isNothing
  | down _ _ _ inductionHypothesis => exact inductionHypothesis isNothing
  | file => cases isNothing
  | absent _ isAbsent =>
      cases isNothing
      exact isAbsent

theorem storesAt_iff :
    tree.StoresAt path found content ↔
      tree.place? path = some found ∧ tree.node? found = some (.file content) := by
  rw [place?_eq_some_iff]
  constructor
  · intro stores
    exact ⟨⟨_, stores, .file content⟩, (target_eq_ok_iff.mp stores).2.node?_of_file⟩
  · rintro ⟨⟨target, reached, isAt⟩, isThere⟩
    have leads := (target_eq_ok_iff.mp reached).2
    cases isAt with
    | file old =>
        rw [leads.node?_of_file] at isThere
        cases isThere
        exact reached
    | absent =>
        rw [leads.node?_of_absent] at isThere
        contradiction

theorem StoresAt.read (stores : tree.StoresAt path found content) :
    tree.read path = .ok content := by
  rw [Tree.read, stores]

theorem exists_storesAt_of_read (read : tree.read path = .ok content) :
    ∃ found, tree.StoresAt path found content := by
  unfold Tree.read at read
  split at read
  · cases read
  · cases read
  · cases read
  next place stored reached =>
    cases read
    exact ⟨place, reached⟩

theorem StoresAt.names_ne_nil (stores : tree.StoresAt path found content) :
    (Path.ofString path).names ≠ [] :=
  names_ne_nil_of_target stores (.file content)

theorem StoresAt.holds (stores : tree.StoresAt path found content) :
    tree.holds (Path.ofString path) = .ok true := by
  have sameTarget := target_ofString stores (.file content)
  rw [Tree.holds]
  simp only [sameTarget]

/-! ## Putting a file elsewhere -/

structure IsFree (tree : Tree) (found : List String) : Prop where
  ne_root : found ≠ []
  no_directory : tree.node? found ≠ some .directory

def HasDirectoriesOf (tree other : Tree) : Prop :=
  ∀ place, other.node? place = some .directory ↔ tree.node? place = some .directory

theorem IsFree.hasDirectoriesOf (free : tree.IsFree found) (content : Content) :
    HasDirectoriesOf tree (tree.putFile found content) := by
  intro other
  rw [node?_putFile free.ne_root]
  by_cases same : found = other
  · rw [if_pos same, ← same]
    exact iff_of_false (by simp) free.no_directory
  · rw [if_neg same]

theorem HasDirectoriesOf.exists_leads_entry {other : Tree} {name : String}
    (directories : HasDirectoriesOf tree other) (isEntry : IsEntry name)
    (noDirectory : tree.node? (place ++ [name]) ≠ some .directory) :
    ∃ later, other.Leads place [name] later ∧ later.IsAt (place ++ [name]) := by
  cases stands : other.node? (place ++ [name]) with
  | none => exact ⟨_, .absent isEntry stands, .absent⟩
  | some node =>
      cases node with
      | directory => exact absurd ((directories _).mp stands) noDirectory
      | file content => exact ⟨_, .file isEntry stands, .file content⟩

/-- Only directories decide on the places that names lead to. -/
theorem HasDirectoriesOf.exists_leads {other : Tree} {destination : List String}
    (directories : HasDirectoriesOf tree other) (leads : tree.Leads place names target)
    (isAt : target.IsAt destination) :
    ∃ later, other.Leads place names later ∧ later.IsAt destination := by
  induction leads with
  | here => cases isAt
  | idle idle _ inductionHypothesis =>
      obtain ⟨later, leads, isAt⟩ := inductionHypothesis isAt
      exact ⟨later, .idle idle leads, isAt⟩
  | up _ inductionHypothesis =>
      obtain ⟨later, leads, isAt⟩ := inductionHypothesis isAt
      exact ⟨later, .up leads, isAt⟩
  | down isEntry isDirectory _ inductionHypothesis =>
      obtain ⟨later, leads, isAt⟩ := inductionHypothesis isAt
      exact ⟨later, .down isEntry ((directories _).mpr isDirectory) leads, isAt⟩
  | file isEntry isThere =>
      cases isAt
      exact directories.exists_leads_entry isEntry (by rw [isThere]; simp)
  | absent isEntry isAbsent =>
      cases isAt
      exact directories.exists_leads_entry isEntry (by rw [isAbsent]; simp)

/-! ## Writing -/

theorem exists_place_of_write (written : tree.write path content = .ok after) :
    ∃ found, tree.place? path = some found ∧ tree.IsFree found ∧
      after = tree.putFile found content ∧ after.StoresAt path found content := by
  obtain ⟨_, target, found, reached, isAt, rfl⟩ := write_eq_ok_iff.mp written
  obtain ⟨usable, leads⟩ := target_eq_ok_iff.mp reached
  obtain ⟨somewhere, noDirectory⟩ := leads.ne_directory isAt
  exact ⟨found, place?_eq_some_iff.mpr ⟨target, reached, isAt⟩, ⟨somewhere, noDirectory⟩, rfl,
    target_eq_ok_iff.mpr ⟨usable, leads.putFile isAt content⟩⟩

theorem place?_of_write (written : tree.write path content = .ok after) (other : String) :
    after.place? other = tree.place? other := by
  obtain ⟨found, _, free, rfl, _⟩ := exists_place_of_write written
  have directories := free.hasDirectoriesOf content
  apply Option.ext
  intro destination
  simp only [place?_eq_some_iff, target_eq_ok_iff]
  constructor
  · rintro ⟨target, ⟨usable, leads⟩, isAt⟩
    obtain ⟨before, leadsBefore, isAtBefore⟩ :=
      HasDirectoriesOf.exists_leads (fun place => (directories place).symm) leads isAt
    exact ⟨before, ⟨usable, leadsBefore⟩, isAtBefore⟩
  · rintro ⟨target, ⟨usable, leads⟩, isAt⟩
    obtain ⟨later, leadsLater, isAtLater⟩ := directories.exists_leads leads isAt
    exact ⟨later, ⟨usable, leadsLater⟩, isAtLater⟩

theorem node?_of_write (written : tree.write path content = .ok after)
    (different : tree.place? path ≠ some place) : after.node? place = tree.node? place := by
  obtain ⟨found, isPlace, free, rfl, _⟩ := exists_place_of_write written
  rw [node?_putFile free.ne_root, if_neg]
  rintro rfl
  exact different isPlace

end Acceptor.Tree
