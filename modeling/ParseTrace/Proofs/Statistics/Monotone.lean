import ParseTrace.Proofs.Statistics.Tables
import ParseTrace.Proofs.Store.Appended

/-!
# Nothing is taken back

Of two moments of a run, the later one answers at least what the earlier one answered: the same rules
and the same nodes, with more children behind the old ones, and tallies that count at least as much.
A table that is refused because of its totals is refused at every later moment, too, since totals
never decrease.
-/

namespace ParseTrace

open Statistics (ruleTally ruleRows byRule byRule_eq Tally RuleRow)

namespace Store

variable {label : String} {header : Header} {earlier later : Store}

namespace PersistsIn

theorem ruleTally_mono (persists : earlier.PersistsIn later) (id : RuleId) :
    (ruleTally earlier id).invocations ≤ (ruleTally later id).invocations ∧
      (ruleTally earlier id).successes ≤ (ruleTally later id).successes ∧
      (ruleTally earlier id).totalNanos ≤ (ruleTally later id).totalNanos :=
  Tally.ofNodes_mono (persists.nodes.filter _)

theorem getRules (persists : earlier.PersistsIn later) (isOpen : later.closed = false)
    {rules : List Rule} (got : earlier.getRules = .ok rules) :
    ∃ laterRules, later.getRules = .ok laterRules ∧ ∀ rule ∈ rules, rule ∈ laterRules := by
  rw [Store.getRules, whenOpen_of_open (persists.isOpen isOpen)] at got
  obtain rfl := Except.ok.inj got
  refine ⟨_, whenOpen_of_open isOpen _, ?_⟩
  intro rule listed
  rw [List.mem_mergeSort] at listed ⊢
  exact persists.rules.subset listed

theorem getNode (persists : earlier.PersistsIn later) (soundEarlier : earlier.Sound)
    (sound : later.Sound) (isOpen : later.closed = false) {id : NodeId} {node : Node}
    (got : earlier.getNode id = .ok node) :
    ∃ children, later.getNode id = .ok { node with children } ∧ node.children <+: children := by
  have wasOpen := persists.isOpen isOpen
  rcases soundEarlier.tree.exists_of_getNode wasOpen got with ⟨stored, found, _⟩
  rcases nodeAt?_eq_some_iff.mp found with ⟨place, rfl, present⟩
  rcases soundEarlier.getNode_eq wasOpen present with ⟨rule, declared, named, gotEarlier⟩
  rcases sound.getNode_eq isOpen (persists.getElem?_eq_some present) with
    ⟨other, otherDeclared, otherNamed, gotLater⟩
  obtain rfl := sound.eq_of_id_eq (persists.rules.subset declared) otherDeclared
    (named.trans otherNamed.symm)
  obtain rfl := Except.ok.inj (got.symm.trans gotEarlier)
  exact ⟨later.childIds place, gotLater, persists.childIds place⟩

/-- A table that is shown was shown before, with rows that counted no more. -/
theorem byRule (persists : earlier.PersistsIn later) (isOpen : later.closed = false)
    {laterRows : List RuleRow} (shown : Statistics.byRule later = .ok laterRows) :
    ∃ rows, Statistics.byRule earlier = .ok rows ∧ ∀ row ∈ rows, ∃ tally,
      ⟨row.rule, tally⟩ ∈ laterRows ∧ row.tally.invocations ≤ tally.invocations ∧
        row.tally.successes ≤ tally.successes ∧ row.tally.totalNanos ≤ tally.totalNanos := by
  rw [byRule_eq isOpen] at shown
  split at shown
  next fits =>
    obtain rfl := Except.ok.inj shown
    -- A total that is in range now was in range before, so the earlier table was not refused.
    have fitted : ∀ rule ∈ earlier.rules,
        (ruleTally earlier rule.id).totalNanos ≤ maxStoredNanos := by
      intro rule declared
      have total := (persists.ruleTally_mono rule.id).2.2
      exact Nat.le_trans total (fits rule (persists.rules.subset declared))
    rw [byRule_eq (persists.isOpen isOpen), if_pos fitted]
    refine ⟨_, rfl, ?_⟩
    intro row listed
    simp only [List.mem_mergeSort, ruleRows, List.mem_map] at listed ⊢
    rcases listed with ⟨rule, declared, rfl⟩
    exact ⟨ruleTally later rule.id, ⟨rule, persists.rules.subset declared, rfl⟩,
      persists.ruleTally_mono rule.id⟩
  next => cases shown

end PersistsIn

/-- Two moments of a run before the store is closed, in the middle of a load or between operations.
All that was read at the earlier one is read at the later one: every rule, every node with its
fields and its children and perhaps with further children behind them, and every row of the table of
rules with numbers that are not smaller. The counters of the load do not decrease either. -/
theorem stored_data_only_grows (reached : Reaches (create label header) earlier)
    (goesOn : Reaches earlier later) (isOpen : later.closed = false)
    (few : later.nodes.size < 2 ^ 31) :
    (∀ rules, earlier.getRules = .ok rules →
      ∃ laterRules, later.getRules = .ok laterRules ∧ ∀ rule ∈ rules, rule ∈ laterRules) ∧
    (∀ id node, earlier.getNode id = .ok node →
      ∃ children, later.getNode id = .ok { node with children } ∧ node.children <+: children) ∧
    (∀ id children, earlier.getChildren id = .ok children →
      ∃ laterChildren, later.getChildren id = .ok laterChildren ∧ children <+: laterChildren) ∧
    earlier.tracker.rules ≤ later.tracker.rules ∧ earlier.tracker.nodes ≤ later.tracker.nodes ∧
    ∀ laterRows, byRule later = .ok laterRows →
      ∃ rows, byRule earlier = .ok rows ∧ ∀ row ∈ rows, ∃ tally,
        ⟨row.rule, tally⟩ ∈ laterRows ∧ row.tally.invocations ≤ tally.invocations ∧
          row.tally.successes ≤ tally.successes ∧ row.tally.totalNanos ≤ tally.totalNanos := by
  have persists := goesOn.persistsIn
  have wasOpen := persists.isOpen isOpen
  have soundEarlier := (sound_create label header).reaches reached
    (Nat.lt_of_le_of_lt persists.size_le few)
  have sound := soundEarlier.reaches goesOn few
  refine ⟨?_, ?_, ?_, ?_, ?_, ?_⟩
  · intro rules got
    exact persists.getRules isOpen got
  · intro id node got
    exact persists.getNode soundEarlier sound isOpen got
  · intro id children got
    rcases (getChildren_eq_ok_iff wasOpen).mp got with ⟨⟨node, found⟩, rfl⟩
    rcases nodeAt?_eq_some_iff.mp found with ⟨place, rfl, present⟩
    exact ⟨_, getChildren_of_stored isOpen (persists.getElem?_eq_some present),
      persists.childIds place⟩
  · simpa [soundEarlier.ruleCount_eq, sound.ruleCount_eq] using persists.rules.length_le
  · simpa [soundEarlier.nodeCount_eq, sound.nodeCount_eq] using persists.size_le
  · intro laterRows shown
    exact persists.byRule isOpen shown

theorem second_child_goes_behind :
    let earlier := Operation.runAll (.ofString "12") sample [.append ⟨some 0, 1, 7, true, 0, 1, 40⟩]
    let later := Operation.runAll (.ofString "12") earlier [.append ⟨some 0, 1, 7, false, 1, 2, 30⟩]
    earlier.getChildren 0 = .ok [1] ∧
      ∃ children, later.getChildren 0 = .ok children ∧ [1] <+: children := by
  intro earlier later
  have reached : Reaches sample earlier := Operation.reaches_runAll (by decide)
  have goesOn : Reaches earlier later := Operation.reaches_runAll (by decide)
  have grows := stored_data_only_grows (reaches_sample.trans reached) goesOn (by decide) (by decide)
  have got : earlier.getChildren 0 = .ok [1] := by decide
  exact ⟨got, grows.2.2.1 0 [1] got⟩

end Store

end ParseTrace
