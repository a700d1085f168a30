/-!
# Cutting a list into batches

A list is cut into batches of a size, and what is left over at its end is too short for a full
batch. Where what is left over makes a part of its own, the list is cut into chunks. Either way the
parts in order are the list.
-/

namespace ParseTrace.Store

/-- The full batches of a list and what is left over. -/
def batches (size : Nat) (items : List α) : List (List α) × List α :=
  if 0 < size ∧ size ≤ items.length then
    let (full, rest) := batches size (items.drop size)
    (items.take size :: full, rest)
  else ([], items)
termination_by items.length
decreasing_by simp only [List.length_drop]; omega

theorem batches_flatten (size : Nat) (items : List α) :
    (batches size items).1.flatten ++ (batches size items).2 = items := by
  fun_induction batches size items with
  | case1 items fits full rest split ih =>
      rw [split] at ih
      rw [List.flatten_cons, List.append_assoc, ih, List.take_append_drop]
  | case2 items => rfl

/-- Cuts a list into chunks, behind a chunk that is begun, last element first. -/
def chunksBehind (size : Nat) (begun : List α) : List α → List (List α)
  | [] => if begun.isEmpty then [] else [begun.reverse]
  | item :: rest =>
      if begun.length + 1 < size then chunksBehind size (item :: begun) rest
      else (item :: begun).reverse :: chunksBehind size [] rest

/-- Cuts a list into chunks of a size, of which the last may be shorter. -/
def chunks (size : Nat) (items : List α) : List (List α) :=
  chunksBehind size [] items

theorem chunksBehind_flatten (size : Nat) (begun items : List α) :
    (chunksBehind size begun items).flatten = begun.reverse ++ items := by
  induction items generalizing begun with
  | nil =>
      rw [chunksBehind]
      cases begun <;> simp
  | cons item rest ih =>
      rw [chunksBehind]
      split
      · simp [ih]
      · simp [ih]

theorem chunks_flatten (size : Nat) (items : List α) : (chunks size items).flatten = items :=
  chunksBehind_flatten size [] items

/-- How many rows one statement reads or stores. -/
def chunkSize : Nat := 500

end ParseTrace.Store
