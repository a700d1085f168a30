import ParseTrace.Statistics.Tally
import ParseTrace.Store.Lookup

/-!
# Statistics of a trace

Three views count the stored invocations: by rule, by the class of the rule and by its kind. Rules
and classes are listed whether they were invoked or not, the busiest first; kinds are listed in
their own order and only if they were invoked. Names are compared character by character, in the
order of code points. A total that is no signed integer of 64 bits makes the view fail that sums
it up.
-/

namespace ParseTrace.Statistics

/-- The tally of one rule. -/
structure RuleRow where
  rule : Rule
  tally : Tally
  deriving DecidableEq, Repr

/-- The tally of all rules of one class. -/
structure ClassRow where
  className : String
  tally : Tally
  deriving DecidableEq, Repr

namespace RuleRow

/-- More invocations come first, then names in order, then identifiers in order. -/
def precedes (left right : RuleRow) : Bool :=
  decide (right.tally.invocations < left.tally.invocations) ||
    (left.tally.invocations == right.tally.invocations &&
      (decide (left.rule.name < right.rule.name) ||
        (left.rule.name == right.rule.name && decide (left.rule.id ≤ right.rule.id))))

end RuleRow

namespace ClassRow

/-- More invocations come first, then names in order. -/
def precedes (left right : ClassRow) : Bool :=
  decide (right.tally.invocations < left.tally.invocations) ||
    (left.tally.invocations == right.tally.invocations &&
      (decide (left.className < right.className) || left.className == right.className))

end ClassRow

/-- The distinct class names of the given rules. -/
def classNames (rules : List Rule) : List String :=
  (rules.map Rule.className).eraseDups

/-- A table whose totals are all in range. -/
def checkTotals (table : List (κ × Tally)) : Except TraceError (List (κ × Tally)) :=
  if table.all fun row => row.2.fits then .ok table else .error (.storage .sumOverflow)

/-- Invocations by rule. -/
def byRule (store : Store) : Except TraceError (List RuleRow) :=
  store.whenOpen do
    let table ← checkTotals <|
      tabulate (store.rules.map Rule.id) (fun node => some node.rule) store.nodes.toList
    let rows := (store.rules.zip table).map fun (rule, row) => (⟨rule, row.2⟩ : RuleRow)
    return rows.mergeSort RuleRow.precedes

/-- Invocations by class. -/
def byClass (store : Store) : Except TraceError (List ClassRow) :=
  store.whenOpen do
    let table ← checkTotals <|
      tabulate (classNames store.rules) (fun node => (store.rule? node.rule).map Rule.className)
        store.nodes.toList
    let rows := table.map fun (className, tally) => (⟨className, tally⟩ : ClassRow)
    return rows.mergeSort ClassRow.precedes

/-- Invocations by kind, for the kinds that were invoked. -/
def byKind (store : Store) : Except TraceError (List (RuleKind × Nat)) :=
  store.whenOpen <| .ok <|
    let table := tabulate RuleKind.all (fun node => (store.rule? node.rule).map Rule.kind)
      store.nodes.toList
    (table.map fun (kind, tally) => (kind, tally.invocations)).filter fun row => row.2 != 0

/-- The time spent in the first invocation, which is the whole parse. -/
def totalParseTime (store : Store) : Except TraceError Nat :=
  store.whenOpen <|
    match store.node? rootNode with
    | some node => .ok node.nanos
    | none => .error (.notFound rootNode)

end ParseTrace.Statistics
