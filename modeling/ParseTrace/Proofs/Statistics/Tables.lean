import ParseTrace.Proofs.Store.Reading
import ParseTrace.Statistics.Report

/-!
# What the tables show

A tally counts invocations and successes and adds up times. The table of the rules shows every rule
with the tally of the stored invocations that name it, and the table of the classes every class name
with the tally of the invocations whose rule is of that class. A table with a total that is no signed
integer of 64 bits is refused as a whole, and for no other reason.
-/

namespace ParseTrace.Statistics

namespace Tally

theorem foldl_add (nodes : List StoredNode) (tally : Tally) :
    nodes.foldl add tally =
      ⟨tally.invocations + nodes.length, tally.successes + nodes.countP (fun node => node.success),
        tally.totalNanos + (nodes.map fun node => node.nanos).sum⟩ := by
  induction nodes generalizing tally with
  | nil => simp
  | cons node rest ih =>
      rw [List.foldl_cons, ih]
      simp only [add, List.length_cons, List.countP_cons, List.map_cons, List.sum_cons,
        Tally.mk.injEq]
      omega

theorem ofNodes_eq (nodes : List StoredNode) :
    ofNodes nodes =
      ⟨nodes.length, nodes.countP (fun node => node.success),
        (nodes.map fun node => node.nanos).sum⟩ := by
  simp [ofNodes, foldl_add, zero]

theorem ofNodes_mono {first second : List StoredNode} (isPrefix : first <+: second) :
    (ofNodes first).invocations ≤ (ofNodes second).invocations ∧
      (ofNodes first).successes ≤ (ofNodes second).successes ∧
      (ofNodes first).totalNanos ≤ (ofNodes second).totalNanos := by
  rcases isPrefix with ⟨others, rfl⟩
  simp [ofNodes_eq]

end Tally

variable {store : Store}

/-- The tally of the invocations that name a rule. -/
def ruleTally (store : Store) (id : RuleId) : Tally :=
  .ofNodes (store.nodes.toList.filter fun node => node.rule == id)

/-- The tally of the invocations whose rule is of a class. -/
def classTally (store : Store) (className : String) : Tally :=
  .ofNodes (store.nodes.toList.filter fun node =>
    (store.rule? node.rule).map Rule.className == some className)

/-- The table of the rules in the order in which they were declared. -/
def ruleRows (store : Store) : List RuleRow :=
  store.rules.map fun rule => ⟨rule, ruleTally store rule.id⟩

/-- The table of the classes in the order in which they first appear. -/
def classRows (store : Store) : List ClassRow :=
  (classNames store.rules).map fun className => ⟨className, classTally store className⟩

theorem checkTotals_eq {κ : Type} (table : List (κ × Tally)) :
    checkTotals table =
      if ∀ row ∈ table, row.2.totalNanos ≤ Store.maxStoredNanos then .ok table
      else .error (.storage .sumOverflow) := by
  simp only [checkTotals, List.all_eq_true, Tally.fits, decide_eq_true_eq]

theorem tabulate_rules (store : Store) :
    tabulate (store.rules.map Rule.id) (fun node => some node.rule) store.nodes.toList =
      store.rules.map fun rule => (rule.id, ruleTally store rule.id) := by
  simp [tabulate_eq, ruleTally]

theorem tabulate_classes (store : Store) :
    tabulate (classNames store.rules) (fun node => (store.rule? node.rule).map Rule.className)
        store.nodes.toList =
      (classNames store.rules).map fun className => (className, classTally store className) := by
  simp [tabulate_eq, classTally]

/-- The table of the rules, unless the total of one of them is too large. -/
theorem byRule_eq (isOpen : store.closed = false) :
    byRule store =
      if ∀ rule ∈ store.rules, (ruleTally store rule.id).totalNanos ≤ Store.maxStoredNanos then
        .ok ((ruleRows store).mergeSort RuleRow.precedes)
      else .error (.storage .sumOverflow) := by
  have rows : ((store.rules.zip
      (store.rules.map fun rule => (rule.id, ruleTally store rule.id))).map
        fun entry => (⟨entry.1, entry.2.2⟩ : RuleRow)) = ruleRows store := by
    simp [ruleRows, List.zip_eq_zipWith, List.zipWith_map_right, List.zipWith_self]
  rw [byRule, Store.whenOpen_of_open isOpen, tabulate_rules, checkTotals_eq]
  simp only [List.forall_mem_map]
  split
  · rw [← rows]
    rfl
  · rfl

/-- The table of the classes, unless the total of one of them is too large. -/
theorem byClass_eq (isOpen : store.closed = false) :
    byClass store =
      if ∀ className ∈ classNames store.rules,
          (classTally store className).totalNanos ≤ Store.maxStoredNanos then
        .ok ((classRows store).mergeSort ClassRow.precedes)
      else .error (.storage .sumOverflow) := by
  have rows : ((classNames store.rules).map
      fun className => (className, classTally store className)).map
        (fun entry => (⟨entry.1, entry.2⟩ : ClassRow)) = classRows store := by
    simp [classRows]
  rw [byClass, Store.whenOpen_of_open isOpen, tabulate_classes, checkTotals_eq]
  simp only [List.forall_mem_map]
  split
  · rw [← rows]
    rfl
  · rfl

/-- A table is refused for its totals only. -/
theorem refused_iff {α : Type} {fits : Prop} [Decidable fits] {table : α} {cause : TraceError} :
    (if fits then .ok table else .error (.storage .sumOverflow) : Except TraceError α) =
        .error cause ↔
      cause = .storage .sumOverflow ∧ ¬fits := by
  split
  next inRange => simp [inRange]
  next tooLarge => simp [tooLarge, eq_comm]

end ParseTrace.Statistics
