import Acceptor.CommandLine.Run

/-!
What is written to the two channels, and how a command ends that fails.
-/

namespace Acceptor.CommandLine

def textOf (lines : List String) : String :=
  String.join (lines.map fun line => line ++ "\n")

theorem textOf_append (first second : List String) :
    textOf (first ++ second) = textOf first ++ textOf second := by
  rw [textOf, List.map_append, String.join_append]
  rfl

section

variable (transcript : Transcript) (lines : List String)

@[simp] theorem stdout_print :
    (transcript.print lines).stdout = transcript.stdout ++ textOf lines := rfl

@[simp] theorem stderr_print : (transcript.print lines).stderr = transcript.stderr := rfl

@[simp] theorem tree_complain : (transcript.complain lines).tree = transcript.tree := rfl

@[simp] theorem stdout_complain : (transcript.complain lines).stdout = transcript.stdout := rfl

@[simp] theorem stderr_complain :
    (transcript.complain lines).stderr = transcript.stderr ++ textOf lines := rfl

end

variable {transcript : Transcript} {notices : List Notice} {failure : Failure}

/-- Nothing is logged unasked but what is urgent. -/
theorem log_of_forall (calm : ∀ notice ∈ notices, notice.isUrgent = false) :
    transcript.log false notices = transcript := by
  have none : (notices.filter fun notice => false || notice.isUrgent) = [] := by
    apply List.filter_eq_nil_iff.mpr
    simpa using calm
  rw [Transcript.log, none, List.map_nil]
  exact congrArg (fun stderr => { transcript with stderr }) String.append_empty

theorem isUrgent_of_mem_ofValidation {policy : Policy} {draft : Draft} {notice : Notice}
    (noted : notice ∈ Notice.ofValidation policy draft) : notice.isUrgent = false := by
  unfold Notice.ofValidation at noted
  split at noted
  · cases List.mem_singleton.mp noted
    rfl
  · split at noted
    · contradiction
    · obtain ⟨warning, _, rfl⟩ := List.mem_map.mp noted
      rfl

theorem isUrgent_of_mem_ofDefinition {marker : CommentMarker} {policy : Policy} {text : String}
    {notice : Notice} (noted : notice ∈ Notice.ofDefinition marker policy text) :
    notice.isUrgent = false := by
  unfold Notice.ofDefinition at noted
  split at noted
  · contradiction
  · rcases List.mem_append.mp noted with reading | judging
    · split at reading
      · contradiction
      · cases List.mem_singleton.mp reading
        rfl
    · exact isUrgent_of_mem_ofValidation judging

theorem isUrgent_of_mem_loadNotices {session : Session} {definition : DefinitionFile}
    {notice : Notice} (noted : notice ∈ session.loadNotices definition) :
    notice.isUrgent = false := by
  rcases List.mem_append.mp noted with judging | loading
  · exact isUrgent_of_mem_ofDefinition judging
  · split at loading
    · contradiction
    · cases List.mem_singleton.mp loading
      rfl

/-! ## Whole lines -/

/-- What has been written to the error output is whole lines. -/
def Transcript.HasWholeLines (transcript : Transcript) : Prop :=
  ∃ lines, transcript.stderr = textOf lines

theorem Transcript.hasWholeLines_start (tree : Tree) : ({ tree } : Transcript).HasWholeLines :=
  ⟨[], rfl⟩

theorem Transcript.HasWholeLines.complain (whole : transcript.HasWholeLines) (lines : List String) :
    (transcript.complain lines).HasWholeLines := by
  obtain ⟨before, written⟩ := whole
  exact ⟨before ++ lines, by rw [stderr_complain, written, textOf_append]⟩

theorem Transcript.HasWholeLines.log (whole : transcript.HasWholeLines) (verbose : Bool)
    (notices : List Notice) : (transcript.log verbose notices).HasWholeLines :=
  whole.complain _

theorem Transcript.HasWholeLines.print (whole : transcript.HasWholeLines) (lines : List String) :
    (transcript.print lines).HasWholeLines :=
  whole

/-! ## Failing -/

/-- A failure is reported with an exit code of its own, or it is not reported at all. -/
theorem conclude_eq (transcript : Transcript) (failure : Failure) :
    conclude transcript failure =
        ⟨.exit 2, transcript.complain [errorLine failure.message]⟩ ∨
      conclude transcript failure = ⟨.failed failure, transcript⟩ := by
  unfold conclude
  split
  · exact .inl rfl
  · exact .inr rfl

@[simp] theorem tree_conclude :
    (conclude transcript failure).transcript.tree = transcript.tree := by
  rcases conclude_eq transcript failure with reported | failed
  · rw [reported, tree_complain]
  · rw [failed]

@[simp] theorem stdout_conclude :
    (conclude transcript failure).transcript.stdout = transcript.stdout := by
  rcases conclude_eq transcript failure with reported | failed
  · rw [reported, stdout_complain]
  · rw [failed]

theorem eq_of_ending_conclude {code : Nat}
    (ended : (conclude transcript failure).ending = .exit code) : code = 2 := by
  rcases conclude_eq transcript failure with reported | failed
  · rw [reported] at ended
    cases ended
    rfl
  · rw [failed] at ended
    cases ended

end Acceptor.CommandLine
