import Mathlib.Data.Prod.Lex
import Mathlib.Order.OrderDual
import ParseTrace.Proofs.Statistics.Tables
import ParseTrace.Proofs.Store.Exhaustion
import ParseTrace.Proofs.Text.ByteOrder

/-!
# The table of the rules

Every declared rule has one row, with what the stored nodes that name it add up to. The rows are ranked
by a key of three parts: the number of invocations, the greater the earlier, then the name, then the
identifier. Identifiers differ, so keys do, and no two rows can change places.
-/

namespace ParseTrace.Statistics

section Ranking

variable {Row Key : Type} [LinearOrder Key] {key : Row → Key} {rows : List Row}
  {before : Row → Row → Bool}

/-- Rows with different keys are sorted strictly. -/
theorem pairwise_lt_mergeSort (before_iff : ∀ row other, before row other ↔ key row ≤ key other)
    (different : (rows.map key).Nodup) :
    (rows.mergeSort before).Pairwise fun row other => key row < key other := by
  have sorted : (rows.mergeSort before).Pairwise fun row other => before row other := by
    apply List.pairwise_mergeSort
    · intro first second third
      simp only [before_iff]
      exact le_trans
    · intro first second
      rw [Bool.or_eq_true, before_iff, before_iff]
      exact le_total _ _
  have distinct : ((rows.mergeSort before).map key).Nodup :=
    ((List.mergeSort_perm rows before).map key).nodup_iff.mpr different
  refine sorted.imp₂ ?_ (List.pairwise_map.mp distinct)
  intro row other inOrder unequal
  exact lt_of_le_of_ne ((before_iff row other).mp inOrder) unequal

end Ranking

namespace RuleRow

/-- What the rows of the rules are ranked by. -/
def rank (row : RuleRow) : ℕᵒᵈ ×ₗ String ×ₗ RuleId :=
  toLex (OrderDual.toDual row.tally.invocations, toLex (row.rule.name, row.rule.id))

theorem precedes_iff (row other : RuleRow) : row.precedes other ↔ row.rank ≤ other.rank := by
  simp [precedes, rank, Prod.Lex.toLex_le_toLex]

/-- Whether a row stands in front of another one: it counts more invocations, or as many under a name
whose bytes come first, or under the same name and a smaller identifier. -/
def RanksBefore (row other : RuleRow) : Prop :=
  other.tally.invocations < row.tally.invocations ∨
    row.tally.invocations = other.tally.invocations ∧
      (Utf8.encode row.rule.name < Utf8.encode other.rule.name ∨
        row.rule.name = other.rule.name ∧ row.rule.id < other.rule.id)

theorem ranksBefore_of_rank_lt {row other : RuleRow} (less : row.rank < other.rank) :
    row.RanksBefore other := by
  simp only [rank, Prod.Lex.toLex_lt_toLex, OrderDual.toDual_lt_toDual, OrderDual.toDual_inj] at less
  rcases less with busier | ⟨same, named | sameName⟩
  · exact Or.inl busier
  · exact Or.inr ⟨same, Or.inl (Utf8.encode_lt_encode named)⟩
  · exact Or.inr ⟨same, Or.inr sameName⟩

end RuleRow

variable {store : Store} {label : String} {header : Header}

/-- The stored nodes that name a rule. -/
def invocationsOf (store : Store) (id : RuleId) : List StoredNode :=
  store.nodes.toList.filter fun node => node.rule = id

/-- The time that the stored nodes of a rule took. -/
def nanosOf (store : Store) (id : RuleId) : Nat :=
  ((invocationsOf store id).map fun node => node.nanos).sum

/-- A row tells of a rule what its stored nodes are. -/
structure RuleRow.Describes (row : RuleRow) (store : Store) : Prop where
  invocations_eq : row.tally.invocations = (invocationsOf store row.rule.id).length
  successes_eq :
    row.tally.successes = ((invocationsOf store row.rule.id).filter fun node => node.success).length
  totalNanos_eq : row.tally.totalNanos = nanosOf store row.rule.id
  averageNanos_eq : row.tally.averageNanos =
    if row.tally.invocations = 0 then 0 else row.tally.totalNanos / row.tally.invocations
  successes_le : row.tally.successes ≤ row.tally.invocations

theorem ruleTally_eq_ofNodes (store : Store) (id : RuleId) :
    ruleTally store id = .ofNodes (invocationsOf store id) := by
  simp [ruleTally, invocationsOf, beq_eq_decide]

theorem ruleTally_eq (store : Store) (id : RuleId) :
    ruleTally store id =
      ⟨(invocationsOf store id).length,
        ((invocationsOf store id).filter fun node => node.success).length, nanosOf store id⟩ := by
  rw [ruleTally_eq_ofNodes, Tally.ofNodes_eq, List.countP_eq_length_filter, nanosOf]

theorem describes_of_mem {row : RuleRow} (listed : row ∈ ruleRows store) : row.Describes store := by
  rcases List.mem_map.mp listed with ⟨rule, _, rfl⟩
  rw [ruleTally_eq]
  exact ⟨rfl, rfl, rfl, rfl, List.length_filter_le _ _⟩

theorem map_rule_ruleRows (store : Store) :
    (ruleRows store).map RuleRow.rule = store.rules := by
  simp [ruleRows, Function.comp_def]

theorem byRule_eq_error_iff (isOpen : store.closed = false) {cause : TraceError} :
    byRule store = .error cause ↔
      cause = .storage .sumOverflow ∧ ∃ rule ∈ store.rules, 2 ^ 63 - 1 < nanosOf store rule.id := by
  have maximum : Store.maxStoredNanos = 2 ^ 63 - 1 := rfl
  rw [byRule_eq isOpen, refused_iff]
  simp only [ruleTally_eq, maximum, not_forall, Nat.not_le, exists_prop]

/-- What the table of the rules is at any moment of a run of an open store, however many nodes there
are. It is refused if and only if the stored nodes of one rule took longer than a signed integer of
64 bits can tell. Otherwise it has one row for every declared rule, invoked or not, and each row tells
of its rule how often it was invoked, how often it succeeded and how long that took, altogether and
on average; and every row ranks before all that follow it. -/
theorem table_of_rules (reached : Store.Reaches (.create label header) store)
    (isOpen : store.closed = false) :
    (∀ cause, byRule store = .error cause ↔
      cause = .storage .sumOverflow ∧ ∃ rule ∈ store.rules, 2 ^ 63 - 1 < nanosOf store rule.id) ∧
    ((∀ rule ∈ store.rules, nanosOf store rule.id ≤ 2 ^ 63 - 1) → ∃ rows,
      byRule store = .ok rows ∧ (rows.map RuleRow.rule).Perm store.rules ∧
      (rows.map fun row => row.rule.id).Nodup ∧ (∀ row ∈ rows, row.Describes store) ∧
      rows.Pairwise RuleRow.RanksBefore) := by
  refine ⟨fun _ => byRule_eq_error_iff isOpen, ?_⟩
  intro fits
  have shown : byRule store = .ok ((ruleRows store).mergeSort RuleRow.precedes) := by
    rw [byRule_eq isOpen, if_pos]
    intro rule declared
    rw [ruleTally_eq]
    exact fits rule declared
  have permuted := List.mergeSort_perm (ruleRows store) RuleRow.precedes
  have ids : ((ruleRows store).map fun row => row.rule.id).Nodup := by
    have declared := ((Store.sound_create label header).declares.reaches reached).ids_nodup
    rw [← map_rule_ruleRows, List.map_map] at declared
    exact declared
  refine ⟨_, shown, ?_, ?_, ?_, ?_⟩
  · rw [← map_rule_ruleRows store]
    exact permuted.map RuleRow.rule
  · exact (permuted.map _).nodup_iff.mpr ids
  · intro row listed
    exact describes_of_mem (permuted.mem_iff.mp listed)
  · -- A key holds the identifier, so keys differ as identifiers do.
    have ranks : ((ruleRows store).map RuleRow.rank).Nodup := by
      apply List.Nodup.of_map fun rank => (ofLex (ofLex rank).2).2
      rw [List.map_map]
      exact ids
    apply (pairwise_lt_mergeSort RuleRow.precedes_iff ranks).imp
    exact RuleRow.ranksBefore_of_rank_lt

/-- The sample store with two more rules, of which none is invoked. -/
def threeRules : Store :=
  (Store.sample.appendRules [⟨3, "CharMatcher", .terminal, "é"⟩, ⟨5, "CharMatcher", .terminal, "z"⟩]).2

theorem uninvokedRules_are_ranked : ∃ rows, byRule threeRules = .ok rows ∧
    rows.length = 3 ∧ rows.Pairwise RuleRow.RanksBefore ∧
    ∀ row ∈ rows, row.rule.id = 3 → row.tally.invocations = 0 := by
  have reached : Store.Reaches (.create "sample" ⟨0, 1, 3, 2⟩) threeRules :=
    Store.reaches_sample.tail (.appendRules _ (by decide))
  rcases (table_of_rules reached (by decide)).2 (by decide) with
    ⟨rows, shown, permuted, _, described, ranked⟩
  refine ⟨rows, shown, ?_, ranked, ?_⟩
  · rw [← List.length_map, permuted.length_eq]
    rfl
  · intro row listed third
    rw [(described row listed).invocations_eq, third]
    rfl

end ParseTrace.Statistics
