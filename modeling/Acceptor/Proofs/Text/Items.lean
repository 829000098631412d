import Acceptor.Proofs.Text.Pieces

/-!
What it means for a text to hold items, and that the items found in a text are those it holds.
-/

namespace Acceptor.Text

/-- The text consists of the items, in order, with separators around them.  An item reaches as
far as it can: what follows it is the end of the text or a separator. -/
inductive HoldsItems : List Char → List (List Char) → Prop
  | nil {gap : List Char} (separators : ∀ c ∈ gap, isItemSeparator c = true) : HoldsItems gap []
  | cons {gap item rest : List Char} {others : List (List Char)}
      (separators : ∀ c ∈ gap, isItemSeparator c = true) (nonempty : item ≠ [])
      (unseparated : ∀ c ∈ item, isItemSeparator c = false)
      (ends : ∀ c ∈ rest.head?, isItemSeparator c = true) (holds : HoldsItems rest others) :
      HoldsItems (gap ++ item ++ rest) (item :: others)

variable {text : List Char} {found : List (List Char)}

theorem HoldsItems.items_eq (holds : HoldsItems text found) : items text = found := by
  induction holds with
  | nil separators => rw [items_eq_visiblePieces, visiblePieces_of_separators separators]
  | @cons gap item rest others separators nonempty unseparated ends _ inductionHypothesis =>
      rw [List.append_assoc, items_eq_visiblePieces, visiblePieces_append_left separators,
        ← items_eq_visiblePieces, ← inductionHypothesis]
      cases rest with
      | nil => rw [List.append_nil, items_of_forall nonempty unseparated]; rfl
      | cons separator tail =>
          have separates : isItemSeparator separator = true := ends separator rfl
          rw [items_append_cons separates, items_of_forall nonempty unseparated,
            items_cons separates, List.singleton_append]

theorem HoldsItems.cons_separator {c : Char} (separates : isItemSeparator c = true)
    (holds : HoldsItems text found) : HoldsItems (c :: text) found := by
  cases holds with
  | nil separators => exact .nil (List.forall_mem_cons.mpr ⟨separates, separators⟩)
  | cons separators nonempty unseparated ends holds =>
      exact .cons (List.forall_mem_cons.mpr ⟨separates, separators⟩) nonempty unseparated ends
        holds

theorem HoldsItems.append {item rest : List Char} (nonempty : item ≠ [])
    (unseparated : ∀ c ∈ item, isItemSeparator c = false)
    (ends : ∀ c ∈ rest.head?, isItemSeparator c = true) (holds : HoldsItems rest found) :
    HoldsItems (item ++ rest) (item :: found) :=
  @HoldsItems.cons [] item rest found nofun nonempty unseparated ends holds

/-- Any other character in front belongs to the first item or is an item by itself. -/
theorem HoldsItems.exists_cons {c : Char} (unseparated : isItemSeparator c = false)
    (holds : HoldsItems text found) : ∃ others, HoldsItems (c :: text) others := by
  have alone (ends : ∀ d ∈ text.head?, isItemSeparator d = true) :
      HoldsItems (c :: text) ([c] :: found) :=
    .append (List.cons_ne_nil c []) (List.forall_mem_singleton.mpr unseparated) ends holds
  cases holds with
  | nil separators =>
      exact ⟨_, alone fun d first => separators d (List.mem_of_mem_head? first)⟩
  | @cons gap item rest others separators nonempty clean ends holds =>
      cases gap with
      | nil =>
          -- Nothing keeps the character apart from the item that comes first.
          have longer : ∀ d ∈ c :: item, isItemSeparator d = false :=
            List.forall_mem_cons.mpr ⟨unseparated, clean⟩
          exact ⟨(c :: item) :: others, .append (List.cons_ne_nil c item) longer ends holds⟩
      | cons d gap =>
          refine ⟨_, alone fun e first => ?_⟩
          cases first
          exact separators _ List.mem_cons_self

theorem exists_holdsItems (text : List Char) : ∃ found, HoldsItems text found := by
  induction text with
  | nil => exact ⟨[], .nil nofun⟩
  | cons c rest inductionHypothesis =>
      obtain ⟨found, holds⟩ := inductionHypothesis
      cases separates : isItemSeparator c with
      | true => exact ⟨found, holds.cons_separator separates⟩
      | false => exact holds.exists_cons separates

/-- Items are found exactly where the text holds them. -/
theorem items_eq_iff : items text = found ↔ HoldsItems text found := by
  constructor
  · rintro rfl
    obtain ⟨others, holds⟩ := exists_holdsItems text
    rwa [holds.items_eq]
  · exact HoldsItems.items_eq

end Acceptor.Text
