import ParseTrace.Statistics.Rate
import ParseTrace.Store.Append

/-!
# Counting invocations by a key

A table has one tally for every key of a given list, and one pass over the invocations of a trace
adds each of them to the tally of its key. The main statement says that the pass gives every key
the tally of the invocations that have it.
-/

namespace ParseTrace.Statistics

/-- What is counted of a group of invocations. -/
structure Tally where
  invocations : Nat
  successes : Nat
  totalNanos : Nat
  deriving DecidableEq, Repr

namespace Tally

/-- The tally of no invocation. -/
def zero : Tally := ⟨0, 0, 0⟩

/-- Counts one more invocation. -/
def add (tally : Tally) (node : StoredNode) : Tally where
  invocations := tally.invocations + 1
  successes := tally.successes + (if node.success then 1 else 0)
  totalNanos := tally.totalNanos + node.nanos

/-- The tally of the given invocations. -/
def ofNodes (nodes : List StoredNode) : Tally :=
  nodes.foldl add zero

/-- The share of successes. -/
def successRate (tally : Tally) : Numeral.Binary64 :=
  Statistics.successRate tally.successes tally.invocations

/-- The average time of an invocation. -/
def averageNanos (tally : Tally) : Nat :=
  Statistics.averageNanos tally.totalNanos tally.invocations

/-- Whether the total is still a signed integer of 64 bits. -/
def fits (tally : Tally) : Bool :=
  tally.totalNanos ≤ Store.maxStoredNanos

end Tally

/-- Adds an invocation to the tally of its key. -/
def record [BEq κ] (key : StoredNode → Option κ) (table : List (κ × Tally)) (node : StoredNode) :
    List (κ × Tally) :=
  match key node with
  | none => table
  | some found => table.map fun row => if row.1 == found then (row.1, row.2.add node) else row

/-- The tallies of the given keys over the given invocations. -/
def tabulate [BEq κ] (keys : List κ) (key : StoredNode → Option κ) (nodes : List StoredNode) :
    List (κ × Tally) :=
  nodes.foldl (record key) (keys.map fun key => (key, Tally.zero))

/-- Every key gets the tally of the invocations that have it. -/
theorem tabulate_eq [BEq κ] [LawfulBEq κ] (keys : List κ) (key : StoredNode → Option κ)
    (nodes : List StoredNode) :
    tabulate keys key nodes =
      keys.map fun wanted => (wanted, Tally.ofNodes (nodes.filter (key · == some wanted))) := by
  have general : ∀ (start : κ → Tally),
      nodes.foldl (record key) (keys.map fun wanted => (wanted, start wanted)) =
        keys.map fun wanted =>
          (wanted, (nodes.filter (key · == some wanted)).foldl Tally.add (start wanted)) := by
    induction nodes with
    | nil => intro start; rfl
    | cons node rest ih =>
      intro start
      have step : record key (keys.map fun wanted => (wanted, start wanted)) node =
          keys.map fun wanted =>
            (wanted,
              if key node == some wanted then (start wanted).add node else start wanted) := by
        unfold record
        cases found : key node with
        | none => simp
        | some value =>
          simp only [List.map_map]
          apply List.map_congr_left
          intro wanted _
          simp only [Function.comp_apply]
          by_cases same : wanted = value
          · subst same
            simp
          · have different : ¬(some value == some wanted) = true := by
              simpa using fun equal => same equal.symm
            have unequal : (wanted == value) = false := by simpa using same
            simp [different, unequal]
      rw [List.foldl_cons, step, ih]
      apply List.map_congr_left
      intro wanted _
      by_cases found : (key node == some wanted) = true
      · simp [found]
      · simp [found]
  exact general fun _ => Tally.zero

end ParseTrace.Statistics
