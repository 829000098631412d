import Acceptor.Validation

/-!
The states that chains of rules reach from the start are found, all of them and no others.

Each round of `Draft.spread` that adds a state leaves fewer rules with an unseen target, so
the rounds suffice, and what is seen in the end is closed under the rules.
-/

namespace Acceptor.Draft

variable {rules : List Rule} {seen : List String} {first state : String}

theorem mem_freshTargets_iff :
    state ∈ freshTargets rules seen ↔
      state ∉ seen ∧ ∃ rule ∈ rules, rule.source ∈ seen ∧ rule.target = state := by
  rw [freshTargets, List.mem_eraseDups, List.mem_map]
  simp only [List.mem_filter, decide_eq_true_eq]
  constructor
  · rintro ⟨rule, ⟨isRule, fromSeen, fresh⟩, rfl⟩
    exact ⟨fresh, rule, isRule, fromSeen, rfl⟩
  · rintro ⟨fresh, rule, isRule, fromSeen, rfl⟩
    exact ⟨rule, ⟨isRule, fromSeen, fresh⟩, rfl⟩

/-! ## Closed sets of states -/

/-- No rule leads out of the states seen. -/
def Closed (rules : List Rule) (seen : List String) : Prop :=
  ∀ rule ∈ rules, rule.source ∈ seen → rule.target ∈ seen

theorem closed_of_freshTargets_eq_nil (nothing : freshTargets rules seen = []) :
    Closed rules seen := by
  intro rule isRule fromSeen
  apply Decidable.byContradiction
  intro fresh
  have found : rule.target ∈ freshTargets rules seen :=
    mem_freshTargets_iff.mpr ⟨fresh, rule, isRule, fromSeen, rfl⟩
  rw [nothing] at found
  contradiction

theorem Closed.mem_of_leads (closed : Closed rules seen) (firstSeen : first ∈ seen)
    (leads : Leads rules first state) : state ∈ seen := by
  induction leads with
  | here => exact firstSeen
  | step _ isRule source inductionHypothesis =>
      apply closed _ isRule
      rw [source]
      exact inductionHypothesis

/-! ## Rounds -/

def pending (rules : List Rule) (seen : List String) : Nat :=
  (rules.filter (·.target ∉ seen)).length

theorem pending_append_lt (something : freshTargets rules seen ≠ []) :
    pending rules (seen ++ freshTargets rules seen) < pending rules seen := by
  obtain ⟨state, fresh⟩ := List.exists_mem_of_ne_nil _ something
  obtain ⟨unseen, rule, isRule, _, target⟩ := mem_freshTargets_iff.mp fresh
  have split : rules.filter (·.target ∉ seen ++ freshTargets rules seen) =
      (rules.filter (·.target ∉ seen)).filter (·.target ∉ freshTargets rules seen) := by
    rw [List.filter_filter]
    apply List.filter_congr
    intro other _
    simp only [List.mem_append, not_or, Bool.decide_and, Bool.and_comm]
  rw [pending, split, pending]
  apply List.length_filter_lt_length_iff_exists.mpr
  refine ⟨rule, ?_, ?_⟩
  · rw [List.mem_filter, decide_eq_true_eq, target]
    exact ⟨isRule, unseen⟩
  · rw [decide_eq_true_eq, target]
    exact not_not_intro fresh

theorem subset_spread (rules : List Rule) (rounds : Nat) (seen : List String) :
    seen ⊆ spread rules rounds seen := by
  induction rounds generalizing seen with
  | zero => exact List.Subset.refl seen
  | succ rounds inductionHypothesis =>
      unfold spread
      split
      · exact List.Subset.refl seen
      · exact List.Subset.trans (List.subset_append_left seen _) (inductionHypothesis _)

theorem closed_spread {rounds : Nat} (enough : pending rules seen ≤ rounds) :
    Closed rules (spread rules rounds seen) := by
  induction rounds generalizing seen with
  | zero =>
      -- Without rounds nothing can be pending, and what is fresh would be.
      apply closed_of_freshTargets_eq_nil
      apply Decidable.byContradiction
      intro something
      exact Nat.not_lt_zero _ (Nat.lt_of_lt_of_le (pending_append_lt something) enough)
  | succ rounds inductionHypothesis =>
      unfold spread
      split
      next nothing => exact closed_of_freshTargets_eq_nil nothing
      next something =>
        apply inductionHypothesis
        exact Nat.le_of_lt_succ (Nat.lt_of_lt_of_le (pending_append_lt something) enough)

theorem leads_of_mem_spread {rounds : Nat} (sound : ∀ state ∈ seen, Leads rules first state)
    (membership : state ∈ spread rules rounds seen) : Leads rules first state := by
  induction rounds generalizing seen with
  | zero => exact sound state membership
  | succ rounds inductionHypothesis =>
      unfold spread at membership
      split at membership
      · exact sound state membership
      · apply inductionHypothesis _ membership
        intro other inBoth
        rcases List.mem_append.mp inBoth with inSeen | fresh
        · exact sound other inSeen
        · obtain ⟨_, rule, isRule, fromSeen, rfl⟩ := mem_freshTargets_iff.mp fresh
          exact .step (sound rule.source fromSeen) isRule rfl

theorem mem_spread_iff (rules : List Rule) (first state : String) :
    state ∈ spread rules rules.length [first] ↔ Leads rules first state := by
  constructor
  · apply leads_of_mem_spread
    intro other membership
    rw [List.mem_singleton.mp membership]
    exact .here
  · have closed : Closed rules (spread rules rules.length [first]) :=
      closed_spread (List.length_filter_le _ _)
    exact closed.mem_of_leads (subset_spread _ _ _ List.mem_cons_self)

variable {draft : Draft}

theorem mem_reached_iff (given : draft.start? = some first) :
    state ∈ draft.reached ↔ Leads draft.rules first state := by
  rw [reached, given]
  exact mem_spread_iff draft.rules first state

theorem mem_unreached_iff (given : draft.start? = some first) :
    state ∈ draft.unreached ↔ state ∈ draft.states ∧ ¬ Leads draft.rules first state := by
  rw [unreached, List.mem_filter, decide_eq_true_eq, mem_reached_iff given]

end Acceptor.Draft
