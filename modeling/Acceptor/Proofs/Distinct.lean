import Mathlib.Data.List.Induction
import Mathlib.Data.List.Nodup

/-!
Lists without repetitions, the places of their items, and what is left of a list without its
later repetitions.
-/

namespace Acceptor

variable {α : Type}

theorem nodup_append_of_fresh {present items : List α} (distinct : present.Nodup)
    (distinctItems : items.Nodup) (fresh : ∀ item ∈ items, item ∉ present) :
    (present ++ items).Nodup := by
  refine List.nodup_append.mpr ⟨distinct, distinctItems, ?_⟩
  rintro item inPresent other inItems rfl
  exact fresh item inItems inPresent

/-- An item that is new may be taken to what is there already. -/
theorem nodup_fresh_cons_iff {present rest : List α} {item : α} (new : item ∉ present) :
    (rest.Nodup ∧ ∀ other ∈ rest, other ∉ present ++ [item]) ↔
      (item :: rest).Nodup ∧ ∀ other ∈ item :: rest, other ∉ present := by
  rw [List.nodup_cons, List.forall_mem_cons]
  constructor
  · rintro ⟨distinct, fresh⟩
    refine ⟨⟨fun inRest => ?_, distinct⟩, new, fun other inRest inPresent => ?_⟩
    · exact fresh item inRest (by simp)
    · exact fresh other inRest (List.mem_append_left [item] inPresent)
  · rintro ⟨⟨itemFresh, distinct⟩, _, fresh⟩
    refine ⟨distinct, fun other inRest inBoth => ?_⟩
    rcases List.mem_append.mp inBoth with inPresent | same
    · exact fresh other inRest inPresent
    · exact itemFresh (List.mem_singleton.mp same ▸ inRest)

theorem nodup_eraseDups [BEq α] [LawfulBEq α] (items : List α) : items.eraseDups.Nodup := by
  match items with
  | [] => simp
  | first :: rest =>
      rw [List.eraseDups_cons]
      refine List.nodup_cons.mpr ⟨fun membership => ?_, nodup_eraseDups _⟩
      simpa using (List.mem_filter.mp (List.mem_eraseDups.mp membership)).2
termination_by items.length
decreasing_by
  exact Nat.lt_succ_of_le (List.length_filter_le _ _)

theorem eraseDups_eq_self [BEq α] [LawfulBEq α] {items : List α} (distinct : items.Nodup) :
    items.eraseDups = items := by
  induction items with
  | nil => rfl
  | cons first rest inductionHypothesis =>
      obtain ⟨fresh, distinctRest⟩ := List.nodup_cons.mp distinct
      have kept : (rest.filter fun item => !item == first) = rest := by
        refine List.filter_eq_self.mpr fun item membership => ?_
        have different : item ≠ first := fun equality => fresh (equality ▸ membership)
        simpa using different
      rw [List.eraseDups_cons, kept, inductionHypothesis distinctRest]

/-! ## First occurrences -/

/-- One item stands somewhere before the other stands anywhere. -/
def OccursBefore (items : List α) (first second : α) : Prop :=
  ∃ before after, items = before ++ first :: after ∧ second ∉ before ++ [first]

/-- The items of a list without later repetitions, in the order in which they first occur. -/
structure AreFirstOccurrences (items kept : List α) : Prop where
  mem_iff : ∀ item, item ∈ kept ↔ item ∈ items
  ordered : kept.Pairwise (OccursBefore items)

theorem OccursBefore.concat {items : List α} {first second : α}
    (occursBefore : OccursBefore items first second) (last : α) :
    OccursBefore (items ++ [last]) first second := by
  obtain ⟨before, after, rfl, later⟩ := occursBefore
  exact ⟨before, after ++ [last], by simp, later⟩

theorem occursBefore_concat_last {items : List α} {first last : α} (membership : first ∈ items)
    (fresh : last ∉ items) : OccursBefore (items ++ [last]) first last := by
  obtain ⟨before, after, rfl⟩ := List.append_of_mem membership
  refine ⟨before, after ++ [last], by simp, fun inBoth => fresh ?_⟩
  rw [← List.singleton_append, ← List.append_assoc]
  exact List.mem_append_left after inBoth

theorem areFirstOccurrences_nil : AreFirstOccurrences ([] : List α) [] :=
  ⟨fun _ => Iff.rfl, .nil⟩

theorem AreFirstOccurrences.concat_of_mem {items kept : List α} {last : α}
    (occurrences : AreFirstOccurrences items kept) (repeated : last ∈ items) :
    AreFirstOccurrences (items ++ [last]) kept where
  mem_iff item := by
    rw [occurrences.mem_iff, List.mem_append, List.mem_singleton]
    exact (or_iff_left_of_imp fun same => same ▸ repeated).symm
  ordered := occurrences.ordered.imp fun before => before.concat last

theorem AreFirstOccurrences.concat_of_not_mem {items kept : List α} {last : α}
    (occurrences : AreFirstOccurrences items kept) (fresh : last ∉ items) :
    AreFirstOccurrences (items ++ [last]) (kept ++ [last]) where
  mem_iff item := by simp [occurrences.mem_iff]
  ordered := by
    refine List.pairwise_append.mpr ⟨?_, List.pairwise_singleton _ _, ?_⟩
    · exact occurrences.ordered.imp fun before => before.concat last
    · intro first isKept second isLast
      rw [List.mem_singleton.mp isLast]
      exact occursBefore_concat_last ((occurrences.mem_iff first).mp isKept) fresh

theorem areFirstOccurrences_eraseDups [BEq α] [LawfulBEq α] (items : List α) :
    AreFirstOccurrences items items.eraseDups := by
  induction items using List.reverseRecOn with
  | nil => exact areFirstOccurrences_nil
  | append_singleton items last inductionHypothesis =>
      rw [List.eraseDups_append]
      by_cases repeated : last ∈ items
      · simpa [List.removeAll, repeated] using inductionHypothesis.concat_of_mem repeated
      · simpa [List.removeAll, repeated, List.eraseDups_cons] using
          inductionHypothesis.concat_of_not_mem repeated

/-! ## Places -/

theorem nodup_map_singleton {symbols : List Char} (distinct : symbols.Nodup) :
    (symbols.map String.singleton).Nodup :=
  List.Pairwise.map _ (fun _ _ different equality =>
    different (String.singleton_inj.mp equality)) distinct

theorem finIdxOf?_eq_some_iff_of_nodup [DecidableEq α] {items : List α}
    (distinct : items.Nodup) {item : α} {place : Fin items.length} :
    items.finIdxOf? item = some place ↔ items.get place = item := by
  rw [List.finIdxOf?_eq_some_iff]
  refine ⟨fun found => found.1, fun equality => ⟨equality, fun other before repeated => ?_⟩⟩
  have same : other = place :=
    Fin.ext ((List.Nodup.getElem_inj_iff distinct).mp (repeated.trans equality.symm))
  rw [same] at before
  exact Nat.lt_irrefl _ before

end Acceptor
