import ParseTrace.Proofs.Capture.Delivery
import ParseTrace.Proofs.Store.Persistence
import ParseTrace.Proofs.Store.Writing

/-!
# Runs of a store

A step that stays in the range of the numbers of nodes keeps a store sound, and no step takes nodes
away. So a store is sound at every moment of a run that does not leave this range, and between the
steps of a load as well.
-/

namespace ParseTrace

open Numeral (IntegerRange)

namespace Store

variable {store after : Store}

namespace Sound

theorem of_appendRules (sound : store.Sound) {rules : List Rule}
    (inRange : ∀ rule ∈ rules, IntegerRange.signed32.Contains rule.id) :
    (store.appendRules rules).2.Sound := by
  rcases sound.described with ⟨writer, written, _⟩
  cases isClosed : store.closed with
  | true =>
      rw [appendRules_of_closed isClosed]
      exact sound
  | false =>
      rw [sound.appendRules_eq written isClosed]
      split
      next allNew => exact sound.withRules written allNew inRange
      · exact sound

theorem of_appendBatch (sound : store.Sound) {invocations : List Invocation}
    (room : (store.appendBatch invocations).2.nodes.size < 2 ^ 31) :
    (store.appendBatch invocations).2.Sound := by
  rcases sound.described with ⟨writer, written, _⟩
  cases isClosed : store.closed with
  | true =>
      rw [appendBatch_of_closed isClosed]
      exact sound
  | false =>
      rcases appendBatch_cases store invocations with
        ⟨cause, refused⟩ | ⟨rows, _, _, size, grown⟩
      · rw [refused]
        exact sound
      · simp only [grown, Array.size_append, size] at room
        rw [sound.appendBatch_eq written isClosed room]
        split
        · exact sound
        next growth taken => exact sound.withNodes written room taken

/-- A step keeps a store sound. -/
theorem step (sound : store.Sound) (step : Step store after) (room : after.nodes.size < 2 ^ 31) :
    after.Sound := by
  cases step with
  | appendRules rules inRange => exact sound.of_appendRules inRange
  | appendBatch invocations => exact sound.of_appendBatch room
  | load state => exact sound.congr rfl rfl rfl rfl rfl
  | breakStorage => exact sound.congr rfl rfl rfl rfl rfl
  | close =>
      rw [close_snd]
      exact sound.congr rfl rfl rfl rfl rfl

/-- Steps keep a store sound, since the last of them has the most nodes. -/
theorem reaches (sound : store.Sound) (reaches : Reaches store after)
    (room : after.nodes.size < 2 ^ 31) : after.Sound := by
  induction reaches with
  | refl => exact sound
  | tail _ step ih => exact (ih (Nat.lt_of_le_of_lt step.persistsIn.size_le room)).step step room

end Sound

end Store

end ParseTrace
