import Acceptor.Proofs.Definition.Descendants
import Acceptor.Proofs.Definition.Describes

/-!
What the two switches of a policy change.

Strictness turns warnings of missing transitions into errors, and the other switch withholds
the warnings of unreachable states.  Neither touches anything else, so what is accepted under
a strict policy is accepted under all.
-/

namespace Acceptor

/-! ## Judgements under all policies -/

/-- What strictness makes of a judgement, for one value of the other switch. -/
inductive Tightens : Except (List Issue) (List Issue) → Except (List Issue) (List Issue) → Prop
    where
  | refused {errors : List Issue} : Tightens (.error errors) (.error errors)
  | complete {warnings : List Issue} :
      (∀ issue ∈ warnings, issue.kind ≠ .incomplete) →
      Tightens (.ok warnings) (.ok warnings)
  | incomplete {warnings : List Issue} :
      (∃ issue ∈ warnings, issue.kind = .incomplete) →
      Tightens (.ok warnings)
        (.error (warnings.filter fun issue => issue.kind = .incomplete))

/-- The judgements of one draft differ by what the switches name. -/
structure HeedsSwitches (judge : Policy → Except (List Issue) (List Issue)) : Prop where
  tightens : ∀ reportUnreachable,
    Tightens (judge { strict := false, reportUnreachable })
      (judge { strict := true, reportUnreachable })
  withholds : ∀ strict,
    judge { strict, reportUnreachable := false } =
      (judge { strict, reportUnreachable := true }).map fun warnings =>
        warnings.filter fun issue => issue.kind ≠ .unreachable

/-- What is loaded under a strict policy is loaded under all, with the same automaton. -/
def LoadsAlike (load : Policy → Except LoadError Loaded) : Prop :=
  ∀ reportUnreachable loaded, load { strict := true, reportUnreachable } = .ok loaded →
    ∀ policy, ∃ other, load policy = .ok other ∧ other.automaton = loaded.automaton

theorem Tightens.eq_of_ok {lenient : Except (List Issue) (List Issue)} {warnings : List Issue}
    (tightens : Tightens lenient (.ok warnings)) : lenient = .ok warnings := by
  cases tightens
  rfl

section
variable {judge : Policy → Except (List Issue) (List Issue)}

theorem HeedsSwitches.exists_ok_iff (heeds : HeedsSwitches judge) {strict : Bool} :
    (∃ warnings, judge { strict, reportUnreachable := false } = .ok warnings) ↔
      ∃ warnings, judge { strict, reportUnreachable := true } = .ok warnings := by
  rw [heeds.withholds]
  cases judge { strict, reportUnreachable := true } <;> simp [Except.map]

/-- What passes under a strict policy passes under all. -/
theorem HeedsSwitches.exists_ok (heeds : HeedsSwitches judge) {reportUnreachable : Bool}
    {warnings : List Issue} (passed : judge { strict := true, reportUnreachable } = .ok warnings)
    (policy : Policy) : ∃ others, judge policy = .ok others := by
  -- The other switch is settled first: it never decides whether a draft passes.
  have strictly : ∀ reports,
      ∃ others, judge { strict := true, reportUnreachable := reports } = .ok others := by
    intro reports
    cases reports <;> cases reportUnreachable
    · exact ⟨warnings, passed⟩
    · exact heeds.exists_ok_iff.mpr ⟨warnings, passed⟩
    · exact heeds.exists_ok_iff.mp ⟨warnings, passed⟩
    · exact ⟨warnings, passed⟩
  obtain ⟨strict, reports⟩ := policy
  obtain ⟨others, passedToo⟩ := strictly reports
  cases strict with
  | true => exact ⟨others, passedToo⟩
  | false =>
      have tightens := heeds.tightens reports
      rw [passedToo] at tightens
      exact ⟨others, tightens.eq_of_ok⟩

end

/-! ## Drafts -/

namespace Draft

variable {descendants : Digraph → String → List String} {draft : Draft}

/-- The warnings of a draft that is not refused, with the given descendants. -/
def warningsBy (descendants : Digraph → String → List String) (policy : Policy)
    (draft : Draft) : List Issue :=
  draft.missingIssues ++
    if policy.reportUnreachable then (draft.unreachedBy descendants).map Issue.unreachable
    else []

/-- The checks refuse a draft under every policy, or leave it to the policy. -/
theorem validateBy_cases (descendants : Digraph → String → List String) (draft : Draft) :
    (∃ errors, ∀ policy, draft.validateBy descendants policy = .error errors) ∨
      ∀ policy, draft.validateBy descendants policy =
        if policy.strict ∧ draft.missing ≠ [] then .error draft.missingIssues
        else .ok (draft.warningsBy descendants policy) := by
  unfold validateBy
  cases draft.failure? with
  | some found => exact .inl ⟨found.2, fun _ => rfl⟩
  | none => exact .inr fun _ => rfl

theorem filter_incomplete_warningsBy (descendants : Digraph → String → List String)
    (policy : Policy) (draft : Draft) :
    (draft.warningsBy descendants policy).filter (fun issue => issue.kind = .incomplete) =
      draft.missingIssues := by
  unfold warningsBy
  split
  · exact filter_incomplete_append (draft.unreachedBy descendants)
  · exact filter_incomplete_append []

theorem exists_incomplete_warningsBy_iff {policy : Policy} :
    (∃ issue ∈ draft.warningsBy descendants policy, issue.kind = .incomplete) ↔
      draft.missing ≠ [] := by
  rw [ne_eq, ← missingIssues_eq_nil_iff,
    ← filter_incomplete_warningsBy descendants policy, List.filter_eq_nil_iff]
  simp

theorem warningsBy_withheld {strict : Bool} :
    draft.warningsBy descendants { strict, reportUnreachable := false } =
      (draft.warningsBy descendants { strict, reportUnreachable := true }).filter
        fun issue => issue.kind ≠ .unreachable := by
  unfold warningsBy
  rw [if_pos rfl, filter_ne_unreachable_append]
  exact List.append_nil _

/-- A list of warnings tightens by the missing transitions that it tells of. -/
theorem tightens_warningsBy (reportUnreachable : Bool) :
    Tightens (.ok (draft.warningsBy descendants { strict := false, reportUnreachable }))
      (if draft.missing ≠ [] then .error draft.missingIssues
        else .ok (draft.warningsBy descendants { strict := true, reportUnreachable })) := by
  split
  next incomplete =>
    rw [← filter_incomplete_warningsBy descendants { strict := false, reportUnreachable }]
    exact .incomplete (exists_incomplete_warningsBy_iff.mpr incomplete)
  next complete =>
    apply Tightens.complete
    intro issue membership kind
    exact complete (exists_incomplete_warningsBy_iff.mp ⟨issue, membership, kind⟩)

theorem heedsSwitches_validateBy (descendants : Digraph → String → List String)
    (draft : Draft) : HeedsSwitches fun policy => draft.validateBy descendants policy := by
  rcases validateBy_cases descendants draft with ⟨errors, refused⟩ | passed
  · constructor
    · intro reportUnreachable
      rw [refused, refused]
      exact .refused
    · intro strict
      rw [refused, refused]
      rfl
  · constructor
    · intro reportUnreachable
      simpa [passed] using tightens_warningsBy reportUnreachable
    · intro strict
      rw [passed, passed]
      split
      · rfl
      · exact congrArg Except.ok warningsBy_withheld

end Draft

/-! ## Texts -/

namespace Definition

variable {descendants : Digraph → String → List String} {marker : CommentMarker} {text : String}

theorem loadBy_eq_ok_iff {policy : Policy} {loaded : Loaded} :
    loadBy descendants marker policy text = .ok loaded ↔
      ∃ draft, Draft.ofText marker text = .ok draft ∧
        draft.validateBy descendants policy = .ok loaded.warnings ∧
        draft.build = .ok loaded.automaton := by
  unfold loadBy
  cases Draft.ofText marker text with
  | error line => simp
  | ok draft =>
      rcases loaded with ⟨automaton, warnings⟩
      simp only [Except.ok.injEq, exists_eq_left']
      cases draft.validateBy descendants policy with
      | error issues => simp
      | ok others => cases draft.build <;> simp [and_comm]

theorem loadsAlike_loadBy (descendants : Digraph → String → List String)
    (marker : CommentMarker) (text : String) :
    LoadsAlike fun policy => loadBy descendants marker policy text := by
  intro reportUnreachable loaded accepted policy
  obtain ⟨draft, read, validated, built⟩ := loadBy_eq_ok_iff.mp accepted
  obtain ⟨warnings, validatedToo⟩ :=
    (Draft.heedsSwitches_validateBy descendants draft).exists_ok validated policy
  exact ⟨⟨loaded.automaton, warnings⟩, loadBy_eq_ok_iff.mpr ⟨draft, read, validatedToo, built⟩,
    rfl⟩

/-- Whatever computes descendants, the switches of a policy change what they name, and a text
that is accepted under a strict policy is accepted under all as the same automaton. -/
theorem heedsSwitches_and_loadsAlike :
    ((∀ draft : Draft, HeedsSwitches fun policy => draft.validate policy) ∧
      ∀ marker text, LoadsAlike fun policy => load marker policy text) ∧
    ∀ descendants,
      (∀ draft : Draft, HeedsSwitches fun policy => draft.validateBy descendants policy) ∧
        ∀ marker text, LoadsAlike fun policy => loadBy descendants marker policy text := by
  refine ⟨⟨fun draft => ?_, fun marker text => ?_⟩, fun descendants =>
    ⟨Draft.heedsSwitches_validateBy descendants, loadsAlike_loadBy descendants⟩⟩
  · have heeds := Draft.heedsSwitches_validateBy Digraph.spreadDescendants draft
    simpa only [Draft.validateBy_eq_validate Digraph.areDescendants_spreadDescendants] using heeds
  · have alike := loadsAlike_loadBy Digraph.spreadDescendants marker text
    simpa only [loadBy_eq_load Digraph.areDescendants_spreadDescendants] using alike

def gappedDraft : Draft where
  states := ["s", "lost"]
  alphabet := ["a"]
  start? := some "s"
  rules := [{ source := "s", symbol := "a", target := "s" }]

example : gappedDraft.validate { strict := false, reportUnreachable := true } =
    .ok [.missing "lost" "a", .unreachable "lost"] := by decide

example : gappedDraft.validate { strict := false, reportUnreachable := false } =
    .ok [.missing "lost" "a"] := by decide

example : gappedDraft.validate { strict := true, reportUnreachable := true } =
    .error [.missing "lost" "a"] := by decide

end Definition

end Acceptor
