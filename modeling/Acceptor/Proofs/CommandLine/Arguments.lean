import Acceptor.CommandLine.Invocation
import Acceptor.Proofs.Result

/-!
All switches that are read of arguments are switches of the command.

A switch is found among the names of those switches, and each step of the reading passes on what
has been found.  So a command is never given what only another one can be asked for.
-/

namespace Acceptor.CommandLine

section

variable {Key : Type} {switches : List (Switch Key)} {switch : Switch Key} {name : List Char}

/-! ## Finding switches -/

theorem mem_of_mem_named (membership : (name, switch) ∈ named switches) : switch ∈ switches := by
  obtain ⟨other, isSwitch, named⟩ := List.mem_flatMap.mp membership
  obtain ⟨_, _, same⟩ := List.mem_map.mp named
  cases same
  exact isSwitch

theorem mem_of_lookup_named (found : (named switches).lookup name = some switch) :
    switch ∈ switches := by
  obtain ⟨before, after, split, _⟩ := List.lookup_eq_some_iff.mp found
  have membership : (name, switch) ∈ named switches := by
    rw [split]
    exact List.mem_append_right _ List.mem_cons_self
  exact mem_of_mem_named membership

theorem mem_of_mem_candidates {argument : List Char} {attached? : Option (List Char)}
    (membership : (switch, name, attached?) ∈ candidates switches argument) :
    switch ∈ switches := by
  unfold candidates at membership
  split at membership
  · obtain ⟨entry, isEntry, same⟩ := List.mem_map.mp membership
    cases same
    exact mem_of_mem_named (List.mem_filter.mp isEntry).1
  · obtain ⟨⟨known, other⟩, isEntry, same⟩ := List.mem_filterMap.mp membership
    have isSwitch := mem_of_mem_named isEntry
    dsimp only at same
    split at same
    · cases same
      exact isSwitch
    · split at same
      · cases same
        exact isSwitch
      · contradiction

/-- If the argument is taken for a switch, then for one of the command. -/
def Reading.IsOf (switches : List (Switch Key)) : Reading Key → Prop
  | .switch switch _ _ => switch ∈ switches
  | _ => True

theorem isOf_of_classify {argument : List Char} {reading : Reading Key}
    (classified : classify switches argument = .ok reading) : reading.IsOf switches := by
  unfold classify at classified
  split at classified
  next =>
    split at classified
    next found =>
      cases classified
      exact mem_of_lookup_named found
    next =>
      simp only at classified
      split at classified
      next found =>
        cases classified
        exact mem_of_lookup_named found
      next =>
        split at classified
        next only =>
          cases classified
          apply mem_of_mem_candidates
          rw [only]
          exact List.mem_singleton_self _
        next =>
          split at classified <;>
          · cases classified
            trivial
        · contradiction
  next =>
    cases classified
    trivial

theorem isOf_of_classifyAll {arguments : List String} {readings : List (String × Reading Key)}
    (classified : classifyAll switches arguments = .ok readings) :
    ∀ entry ∈ readings, entry.2.IsOf switches := by
  induction arguments generalizing readings with
  | nil =>
      cases classified
      exact List.forall_mem_nil _
  | cons argument rest inductionHypothesis =>
      unfold classifyAll at classified
      split at classified
      next =>
        cases classified
        refine List.forall_mem_cons.mpr ⟨trivial, ?_⟩
        intro entry membership
        obtain ⟨operand, _, rfl⟩ := List.mem_map.mp membership
        trivial
      next =>
        obtain ⟨reading, first, classified⟩ := Except.bind_eq_ok_iff.mp classified
        obtain ⟨others, later, classified⟩ := Except.bind_eq_ok_iff.mp classified
        cases classified
        exact List.forall_mem_cons.mpr ⟨isOf_of_classify first, inductionHypothesis later⟩

/-! ## Switches written together -/

/-- All switches of the argument are switches of the command. -/
structure Cluster.IsOf (switches : List (Switch Key)) (cluster : Cluster Key) : Prop where
  first_subset : cluster.first ⊆ switches
  last_mem : cluster.last ∈ switches

theorem Cluster.IsOf.alone {attached? : Option (List Char)} (isSwitch : switch ∈ switches) :
    Cluster.IsOf switches { last := switch, attached? } :=
  ⟨List.nil_subset _, isSwitch⟩

theorem isOf_of_readTail {text : List Char} {cluster : Cluster Key} (isSwitch : switch ∈ switches)
    (read : readTail switches switch text = .ok cluster) : cluster.IsOf switches := by
  induction text generalizing switch cluster with
  | nil =>
      cases read
      exact .alone isSwitch
  | cons c rest inductionHypothesis =>
      unfold readTail at read
      split at read
      next =>
        cases read
        exact .alone isSwitch
      next =>
        split at read
        · contradiction
        next found =>
          obtain ⟨tail, readTail, rfl⟩ := Except.map_eq_ok_iff.mp read
          have others := inductionHypothesis (mem_of_lookup_named found) readTail
          exact ⟨List.cons_subset.mpr ⟨isSwitch, others.first_subset⟩, others.last_mem⟩

theorem isOf_of_readCluster {attached? : Option (List Char)} {cluster : Cluster Key}
    (isSwitch : switch ∈ switches)
    (read : readCluster switches switch name attached? = .ok cluster) :
    cluster.IsOf switches := by
  unfold readCluster at read
  split at read
  next =>
    cases read
    exact .alone isSwitch
  next =>
    split at read
    next =>
      cases read
      exact .alone isSwitch
    next =>
      split at read
      · contradiction
      · exact isOf_of_readTail isSwitch read

/-! ## Whole commands -/

/-- All switches noted so far are switches of the command. -/
def Parsed.IsOf (switches : List (Switch Key)) (parsed : Parsed Key) : Prop :=
  ∀ entry ∈ parsed.switches, ∃ switch ∈ switches, switch.key = entry.1

variable {parsed after : Parsed Key} {value? : Option String}

theorem Parsed.IsOf.addSwitch (isOf : parsed.IsOf switches) (isSwitch : switch ∈ switches)
    (added : parsed.addSwitch switch value? = .ok after) : after.IsOf switches := by
  have extended : ∀ entry ∈ parsed.switches ++ [(switch.key, value?)],
      ∃ switch ∈ switches, switch.key = entry.1 := by
    exact List.forall_mem_append.mpr
      ⟨isOf, List.forall_mem_singleton.mpr ⟨switch, isSwitch, rfl⟩⟩
  unfold Parsed.addSwitch at added
  simp only at added
  split at added
  next =>
    cases added
    exact isOf
  next =>
    split at added
    next =>
      split at added
      next =>
        cases added
        exact extended
      · contradiction
    next =>
      cases added
      exact extended

theorem Parsed.IsOf.foldlM_addSwitch {others : List (Switch Key)} (isOf : parsed.IsOf switches)
    (subset : others ⊆ switches)
    (added : others.foldlM (fun parsed switch => parsed.addSwitch switch none) parsed = .ok after) :
    after.IsOf switches := by
  induction others generalizing parsed with
  | nil =>
      cases added
      exact isOf
  | cons switch others inductionHypothesis =>
      obtain ⟨isSwitch, othersSubset⟩ := List.cons_subset.mp subset
      obtain ⟨next, addedNext, addedOthers⟩ := Except.bind_eq_ok_iff.mp added
      exact inductionHypothesis (isOf.addSwitch isSwitch addedNext) othersSubset addedOthers

theorem Parsed.IsOf.addCluster {cluster : Cluster Key} (isOf : parsed.IsOf switches)
    (clusterIsOf : cluster.IsOf switches)
    (added : parsed.addCluster cluster value? = .ok after) : after.IsOf switches := by
  obtain ⟨middle, addedFirst, addedLast⟩ := Except.bind_eq_ok_iff.mp added
  have middleIsOf := isOf.foldlM_addSwitch clusterIsOf.first_subset addedFirst
  exact middleIsOf.addSwitch clusterIsOf.last_mem addedLast

theorem Parsed.IsOf.consume {wanted : List String} {before : Neighbour}
    {readings : List (String × Reading Key)} (isOf : parsed.IsOf switches)
    (readingsAreOf : ∀ entry ∈ readings, entry.2.IsOf switches)
    (consumed : CommandLine.consume switches parsed wanted before readings = .ok after) :
    after.IsOf switches := by
  -- A switch may take the argument after it as its value, so more than one may go at once.
  induction count : readings.length using Nat.strongRecOn
    generalizing parsed wanted before readings with
  | ind total inductionHypothesis =>
  rcases readings with _ | ⟨⟨argument, reading⟩, rest⟩
  · unfold CommandLine.consume at consumed
    split at consumed
    · cases consumed
      exact isOf
    · contradiction
  obtain ⟨readingIsOf, restAreOf⟩ := List.forall_mem_cons.mp readingsAreOf
  have shorter : rest.length < total := by simp [← count]
  have onRest {parsed : Parsed Key} {wanted : List String} {before : Neighbour}
      (consumed : CommandLine.consume switches parsed wanted before rest = .ok after)
      (isOf : parsed.IsOf switches) : after.IsOf switches :=
    inductionHypothesis _ shorter isOf restAreOf consumed rfl
  cases reading with
  | operand =>
      unfold CommandLine.consume at consumed
      split at consumed
      · exact onRest consumed isOf
      · exact onRest consumed isOf
  | divider =>
      unfold CommandLine.consume at consumed
      split at consumed
      · exact onRest consumed isOf
      · split at consumed
        · exact onRest consumed isOf
        · exact onRest consumed isOf
  | unknownSwitch =>
      unfold CommandLine.consume at consumed
      exact onRest consumed isOf
  | switch switch name attached? =>
      unfold CommandLine.consume at consumed
      obtain ⟨cluster, read, consumed⟩ := Except.bind_eq_ok_iff.mp consumed
      have clusterIsOf := isOf_of_readCluster readingIsOf read
      split at consumed
      next =>
        split at consumed
        next others _ =>
          obtain ⟨middle, added, consumed⟩ := Except.bind_eq_ok_iff.mp consumed
          have middleIsOf := isOf.addCluster clusterIsOf added
          split at consumed
          · cases consumed
            exact middleIsOf
          · have othersAreOf := (List.forall_mem_cons.mp restAreOf).2
            have shorterStill : others.length < total := by
              rw [List.length_cons] at shorter
              omega
            exact inductionHypothesis _ shorterStill middleIsOf othersAreOf consumed rfl
        · contradiction
      next =>
        obtain ⟨middle, added, consumed⟩ := Except.bind_eq_ok_iff.mp consumed
        have middleIsOf := isOf.addCluster clusterIsOf added
        split at consumed
        · cases consumed
          exact middleIsOf
        · exact onRest consumed middleIsOf

theorem isOf_of_parse {operands arguments : List String}
    (parsed : parse switches operands arguments = .ok after) : after.IsOf switches := by
  obtain ⟨readings, classified, consumed⟩ := Except.bind_eq_ok_iff.mp parsed
  have empty : Parsed.IsOf switches {} := List.forall_mem_nil _
  exact empty.consume (isOf_of_classifyAll classified) consumed

end

/-! ## What `check` cannot be asked for -/

theorem workers?_ofSwitches {entries : List (Key × Option String)}
    (absent : ∀ entry ∈ entries, entry.1 ≠ .workers) :
    (Options.ofSwitches entries).workers? = some 1 := by
  suffices folded : ∀ options : Options,
      (entries.foldl Options.add options).workers? = options.workers? from folded {}
  induction entries with
  | nil => exact fun _ => rfl
  | cons entry rest inductionHypothesis =>
      obtain ⟨absentHere, absentLater⟩ := List.forall_mem_cons.mp absent
      intro options
      rw [List.foldl_cons, inductionHypothesis absentLater]
      obtain ⟨key, value?⟩ := entry
      cases key <;> first | rfl | contradiction

theorem refuseExtras_eq_ok_iff {extras : List String} {invocation result : Invocation} :
    refuseExtras extras invocation = .ok result ↔ extras = [] ∧ invocation = result := by
  unfold refuseExtras
  split <;> simp [*]

theorem workers?_of_readCommand {extras arguments : List String} {command definition : String}
    {options : Options}
    (read : readCommand extras command arguments = .ok ⟨.check definition, options⟩) :
    options.workers? = some 1 := by
  unfold readCommand at read
  dsimp only at read
  split at read
  next =>
    obtain ⟨parsed, wasParsed, read⟩ := Except.bind_eq_ok_iff.mp read
    have isOf := isOf_of_parse (Except.mapError_eq_ok_iff.mp wasParsed)
    split at read
    next =>
      obtain ⟨_, same⟩ := refuseExtras_eq_ok_iff.mp read
      cases same
      apply workers?_ofSwitches
      intro entry membership isWorkers
      obtain ⟨switch, isCommon, sameKey⟩ := isOf entry membership
      have noWorkers : ∀ switch ∈ commonSwitches, switch.key ≠ .workers := by decide
      exact noWorkers switch isCommon (sameKey.trans isWorkers)
    · contradiction
  next =>
    obtain ⟨parsed, _, read⟩ := Except.bind_eq_ok_iff.mp read
    split at read
    next =>
      obtain ⟨_, same⟩ := refuseExtras_eq_ok_iff.mp read
      cases same
    · contradiction
  · contradiction

/-- The number of workers cannot be chosen for `check`. -/
theorem workers?_of_ofArguments {arguments : List String} {definition : String}
    {options : Options}
    (read : Invocation.ofArguments arguments = .ok ⟨.check definition, options⟩) :
    options.workers? = some 1 := by
  suffices ∀ extras, readArguments extras arguments = .ok ⟨.check definition, options⟩ →
      options.workers? = some 1 from this [] read
  clear read
  induction arguments with
  | nil =>
      intro extras read
      cases read
  | cons argument rest inductionHypothesis =>
      intro extras read
      unfold readArguments at read
      split at read
      · split at read <;> contradiction
      · split at read
        · contradiction
        · split at read <;> contradiction
        · exact inductionHypothesis _ read
        · exact workers?_of_readCommand read

end Acceptor.CommandLine
