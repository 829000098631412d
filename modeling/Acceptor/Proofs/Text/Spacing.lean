import Acceptor.Proofs.Text.Items

/-!
Items and the separators around them.

Items with separators between them are read back, whatever the separators are.  The items of any
text are its longest pieces without a separator, in the order in which they stand there.
-/

namespace Acceptor.Text

variable {text gap item piece other rest before after : List Char} {found : List (List Char)}
  {spaced : List (List Char × List Char)} {place : Nat}

/-! ## Items between separators -/

/-- Items, each with the separators in front of it, and the separators after the last of them.  Only
the first item may stand without any. -/
structure IsSpaced (spaced : List (List Char × List Char)) (after : List Char) : Prop where
  separators : ∀ part ∈ spaced, ∀ c ∈ part.1, isItemSeparator c = true
  after_separators : ∀ c ∈ after, isItemSeparator c = true
  apart : ∀ part ∈ spaced.tail, part.1 ≠ []
  nonempty : ∀ part ∈ spaced, part.2 ≠ []
  unseparated : ∀ part ∈ spaced, ∀ c ∈ part.2, isItemSeparator c = false

def spacedText (spaced : List (List Char × List Char)) (after : List Char) : List Char :=
  spaced.flatMap (fun part => part.1 ++ part.2) ++ after

theorem spacedText_cons (part : List Char × List Char) :
    spacedText (part :: spaced) after = part.1 ++ part.2 ++ spacedText spaced after := by
  rw [spacedText, List.flatMap_cons, List.append_assoc]
  rfl

theorem IsSpaced.tail {part : List Char × List Char} (isSpaced : IsSpaced (part :: spaced) after) :
    IsSpaced spaced after where
  separators := (List.forall_mem_cons.mp isSpaced.separators).2
  after_separators := isSpaced.after_separators
  apart := fun other isOther => isSpaced.apart other (List.mem_of_mem_tail isOther)
  nonempty := (List.forall_mem_cons.mp isSpaced.nonempty).2
  unseparated := (List.forall_mem_cons.mp isSpaced.unseparated).2

/-- What follows an item begins with a separator, if there is anything. -/
theorem IsSpaced.head_separates {part : List Char × List Char}
    (isSpaced : IsSpaced (part :: spaced) after) :
    ∀ c ∈ (spacedText spaced after).head?, isItemSeparator c = true := by
  intro c isHead
  cases spaced with
  | nil => exact isSpaced.after_separators c (List.mem_of_mem_head? isHead)
  | cons next others =>
      have someGap : next.1 ≠ [] := isSpaced.apart next List.mem_cons_self
      rw [spacedText_cons, List.append_assoc, List.head?_append_of_ne_nil _ someGap] at isHead
      exact isSpaced.tail.separators next List.mem_cons_self c (List.mem_of_mem_head? isHead)

theorem IsSpaced.holdsItems (isSpaced : IsSpaced spaced after) :
    HoldsItems (spacedText spaced after) (spaced.map Prod.snd) := by
  induction spaced with
  | nil => exact .nil isSpaced.after_separators
  | cons part others inductionHypothesis =>
      rw [spacedText_cons, List.map_cons]
      apply HoldsItems.cons
      · exact isSpaced.separators part List.mem_cons_self
      · exact isSpaced.nonempty part List.mem_cons_self
      · exact isSpaced.unseparated part List.mem_cons_self
      · exact isSpaced.head_separates
      · exact inductionHypothesis isSpaced.tail

/-! ## Longest pieces without separators -/

/-- The piece holds no separator and, between what stands before and after it, cannot be made
longer. -/
structure IsRun (before piece after : List Char) : Prop where
  nonempty : piece ≠ []
  unseparated : ∀ c ∈ piece, isItemSeparator c = false
  begins : ∀ c ∈ before.getLast?, isItemSeparator c = true
  ends : ∀ c ∈ after.head?, isItemSeparator c = true

/-- A longest piece without separators stands in the text after some number of characters. -/
def IsRunAt (text : List Char) (place : Nat) (piece : List Char) : Prop :=
  ∃ before after, text = before ++ piece ++ after ∧ before.length = place ∧
    IsRun before piece after

namespace IsRun

theorem exists_head (isRun : IsRun before piece after) :
    ∃ c ∈ (piece ++ after).head?, isItemSeparator c = false := by
  obtain ⟨c, others, rfl⟩ := List.exists_cons_of_ne_nil isRun.nonempty
  exact ⟨c, rfl, isRun.unseparated c List.mem_cons_self⟩

theorem of_append (isRun : IsRun (before ++ other) piece after) : IsRun other piece after where
  nonempty := isRun.nonempty
  unseparated := isRun.unseparated
  begins := by
    intro c isLast
    apply isRun.begins
    rw [List.getLast?_append, isLast]
    rfl
  ends := isRun.ends

theorem append_left (isRun : IsRun other piece after) (something : other ≠ []) :
    IsRun (before ++ other) piece after where
  nonempty := isRun.nonempty
  unseparated := isRun.unseparated
  begins := by
    rw [List.getLast?_append_of_ne_nil _ something]
    exact isRun.begins
  ends := isRun.ends

/-- A longest piece does not begin with separators. -/
theorem eq_nil_of_separators (isRun : IsRun before piece after)
    (separators : ∀ c ∈ other, isItemSeparator c = true) (same : piece ++ after = other ++ rest) :
    other = [] := by
  obtain ⟨c, isHead, unseparated⟩ := isRun.exists_head
  rw [same] at isHead
  by_contra something
  rw [List.head?_append_of_ne_nil _ something] at isHead
  rw [separators c (List.mem_of_mem_head? isHead)] at unseparated
  contradiction

/-- If a piece could be made longer at its beginning, it is no longest one. -/
theorem eq_nil_of_unseparated (isRun : IsRun (before ++ other) piece after)
    (unseparated : ∀ c ∈ other, isItemSeparator c = false) : other = [] := by
  by_contra something
  have separates : isItemSeparator (other.getLast something) = true :=
    isRun.of_append.begins _ (List.getLast?_eq_some_getLast something)
  rw [unseparated _ (List.getLast_mem something)] at separates
  contradiction

theorem takeWhile_eq (isRun : IsRun before piece after) :
    (piece ++ after).takeWhile (fun c => !isItemSeparator c) = piece := by
  have noMore : after.takeWhile (fun c => !isItemSeparator c) = [] := by
    cases after with
    | nil => rfl
    | cons c others => exact List.takeWhile_cons_of_neg (by simp [isRun.ends c rfl])
  rw [List.takeWhile_append_of_pos (by simpa using isRun.unseparated), noMore, List.append_nil]

/-- Two longest pieces that begin at the same place are the same. -/
theorem eq_of_append_eq {later : List Char} (isRun : IsRun before piece after)
    (isOther : IsRun gap other later) (same : piece ++ after = other ++ later) : piece = other := by
  rw [← isRun.takeWhile_eq, same, isOther.takeWhile_eq]

end IsRun

theorem not_isRunAt_of_separators (separators : ∀ c ∈ text, isItemSeparator c = true) :
    ¬ IsRunAt text place piece := by
  rintro ⟨before, after, rfl, _, isRun⟩
  rw [List.append_assoc, List.forall_mem_append] at separators
  have nothing : piece ++ after = [] :=
    isRun.eq_nil_of_separators separators.2 (List.append_nil _).symm
  exact isRun.nonempty (List.append_eq_nil_iff.mp nothing).1

/-- A longest piece stands either where an item does or in what follows it. -/
theorem isRunAt_append_iff (separators : ∀ c ∈ gap, isItemSeparator c = true)
    (isItem : IsRun gap item rest) :
    IsRunAt (gap ++ item ++ rest) place piece ↔
      place = gap.length ∧ piece = item ∨
        ∃ later, place = later + (gap ++ item).length ∧ IsRunAt rest later piece := by
  constructor
  · rintro ⟨before, after, whole, rfl, isRun⟩
    -- The piece begins in the gap, inside the item or behind it.
    rw [List.append_assoc, List.append_assoc] at whole
    rcases List.append_eq_append_iff.mp whole with ⟨more, rfl, behind⟩ | ⟨more, rfl, same⟩
    · rcases List.append_eq_append_iff.mp behind with ⟨later, rfl, shape⟩ | ⟨left, rfl, same⟩
      · refine .inr ⟨later.length, ?_, later, after, ?_, rfl, isRun.of_append.of_append⟩
        · simp only [List.length_append]
          omega
        · rw [shape, List.append_assoc]
      · have nothing := isRun.eq_nil_of_unseparated
          fun c inMore => isItem.unseparated c (List.mem_append_left left inMore)
        subst nothing
        rw [List.append_nil]
        exact .inl ⟨rfl, isRun.eq_of_append_eq isItem same⟩
    · have nothing := isRun.eq_nil_of_separators
        (fun c inMore => separators c (List.mem_append_right before inMore)) same
      subst nothing
      rw [List.append_nil] at isItem ⊢
      exact .inl ⟨rfl, isRun.eq_of_append_eq isItem same⟩
  · rintro (⟨rfl, rfl⟩ | ⟨later, rfl, before, after, rfl, rfl, isRun⟩)
    · exact ⟨gap, rest, rfl, rfl, isItem⟩
    · -- What follows the item begins with a separator, so the piece is not the first there.
      have something : before ≠ [] := by
        rintro rfl
        obtain ⟨c, isHead, unseparated⟩ := isRun.exists_head
        rw [isItem.ends c isHead] at unseparated
        contradiction
      refine ⟨gap ++ item ++ before, after, ?_, ?_, isRun.append_left something⟩
      · simp only [List.append_assoc]
      · rw [List.length_append, Nat.add_comm]

/-! ## The items of any text -/

/-- The items are the longest pieces of the text without a comma or a blank, all of them and in
order. -/
structure AreRuns (text : List Char) (found : List (List Char)) : Prop where
  nonempty : ∀ item ∈ found, item ≠ []
  unseparated : ∀ item ∈ found, ∀ c ∈ item, c ≠ ',' ∧ isBlank c = false
  exists_places : ∃ places : List Nat, places.length = found.length ∧ places.Pairwise (· < ·) ∧
    ∀ place piece, (place, piece) ∈ places.zip found ↔ IsRunAt text place piece
  flatten_eq : found.flatten = text.filter fun c => c ≠ ',' ∧ isBlank c = false

theorem HoldsItems.exists_places (holds : HoldsItems text found) :
    ∃ places : List Nat, places.length = found.length ∧ places.Pairwise (· < ·) ∧
      ∀ place piece, (place, piece) ∈ places.zip found ↔ IsRunAt text place piece := by
  induction holds with
  | nil separators =>
      refine ⟨[], rfl, .nil, ?_⟩
      intro place piece
      exact iff_of_false List.not_mem_nil (not_isRunAt_of_separators separators)
  | @cons gap item rest others separators nonempty unseparated ends _ inductionHypothesis =>
      obtain ⟨places, sameLength, ordered, listed⟩ := inductionHypothesis
      have begins : ∀ c ∈ gap.getLast?, isItemSeparator c = true := fun c isLast =>
        separators c (List.mem_of_getLast? isLast)
      -- The item stands behind its gap, and the others behind both.
      refine ⟨gap.length :: places.map (· + (gap ++ item).length), ?_, ?_, ?_⟩
      · rw [List.length_cons, List.length_cons, List.length_map, sameLength]
      · rw [List.pairwise_cons, List.forall_mem_map, List.pairwise_map]
        constructor
        · intro later _
          have someItem := List.length_pos_of_ne_nil nonempty
          rw [List.length_append]
          omega
        · exact ordered.imp fun before => Nat.add_lt_add_right before _
      · intro place piece
        rw [isRunAt_append_iff separators ⟨nonempty, unseparated, begins, ends⟩, List.zip_cons_cons,
          List.mem_cons, Prod.mk.injEq, List.zip_map_left, List.mem_map]
        apply or_congr_right
        constructor
        · rintro ⟨⟨later, other⟩, inRest, same⟩
          cases same
          exact ⟨later, rfl, (listed later other).mp inRest⟩
        · rintro ⟨later, rfl, isRunAt⟩
          exact ⟨(later, piece), (listed later piece).mpr isRunAt, rfl⟩

theorem HoldsItems.flatten_eq (holds : HoldsItems text found) :
    found.flatten = text.filter fun c => !isItemSeparator c := by
  induction holds with
  | nil separators =>
      rw [List.flatten_nil, eq_comm, List.filter_eq_nil_iff]
      simpa using separators
  | @cons gap item rest others separators _ unseparated _ _ inductionHypothesis =>
      have noGap : gap.filter (fun c => !isItemSeparator c) = [] := by
        rw [List.filter_eq_nil_iff]
        simpa using separators
      have wholeItem : item.filter (fun c => !isItemSeparator c) = item := by
        rw [List.filter_eq_self]
        simpa using unseparated
      rw [List.flatten_cons, inductionHypothesis, List.filter_append, List.filter_append, noGap,
        wholeItem, List.nil_append]

theorem areRuns_items (text : List Char) : AreRuns text (items text) := by
  have holds : HoldsItems text (items text) := items_eq_iff.mp rfl
  refine ⟨fun _ => ne_nil_of_mem_items, ?_, holds.exists_places, ?_⟩
  · intro item isItem c inItem
    exact isItemSeparator_eq_false_iff.mp (isItemSeparator_of_mem_items isItem inItem)
  · rw [holds.flatten_eq]
    apply List.filter_congr
    intro c _
    rw [← Bool.coe_iff_coe, Bool.not_eq_true', decide_eq_true_iff, isItemSeparator_eq_false_iff]

/-- Spaced items are read back, and the items of a text are its longest pieces without
separators. -/
theorem items_spacedText_and_areRuns :
    (∀ spaced after, IsSpaced spaced after →
      items (spacedText spaced after) = spaced.map Prod.snd) ∧
      ∀ text, AreRuns text (items text) := by
  constructor
  · intro spaced after isSpaced
    exact isSpaced.holdsItems.items_eq
  · exact areRuns_items

/-- Three items with commas and blanks of several kinds around them. -/
def mixedSpaces : List (List Char × List Char) :=
  [([',', ' '], ['q', '0']), ([' ', ',', '\t', ','], [':']), (['\u00a0'], ['-', 'é'])]

theorem items_mixedSpaces :
    IsSpaced mixedSpaces [' ', ','] ∧
      items (spacedText mixedSpaces [' ', ',']) = [['q', '0'], [':'], ['-', 'é']] := by
  have isSpaced : IsSpaced mixedSpaces [' ', ','] := by
    constructor <;> simp [mixedSpaces, isItemSeparator, isBlank]
  exact ⟨isSpaced, items_spacedText_and_areRuns.1 _ _ isSpaced⟩

end Acceptor.Text
