import Mathlib.Data.List.Basic

/-!
# What has lasted since it began

A history is a list of events, the last one at its end. Something holds now if one of the events
made it begin and all events behind that one let it last. Another event at the end either makes it
begin or lets it last.
-/

namespace ParseTrace

variable {α : Type} {begins lasts : α → Prop} {history : List α} {event : α}

/-- One of the events begins something, and all behind it let it last. -/
def HoldsSince (begins lasts : α → Prop) (history : List α) : Prop :=
  ∃ before first after, history = before ++ first :: after ∧ begins first ∧
    ∀ later ∈ after, lasts later

theorem holdsSince_concat_iff :
    HoldsSince begins lasts (history ++ [event]) ↔
      begins event ∨ (HoldsSince begins lasts history ∧ lasts event) := by
  constructor
  · rintro ⟨before, first, after, whole, begun, lasted⟩
    rcases after.eq_nil_or_concat' with rfl | ⟨rest, last, rfl⟩
    · obtain ⟨rfl, rfl⟩ := List.append_singleton_inj.mp whole
      exact Or.inl begun
    · rw [← List.cons_append, ← List.append_assoc] at whole
      obtain ⟨rfl, rfl⟩ := List.append_singleton_inj.mp whole
      refine Or.inr ⟨⟨before, first, rest, rfl, begun, ?_⟩, lasted _ (by simp)⟩
      intro later inRest
      exact lasted later (List.mem_append_left _ inRest)
  · rintro (begun | ⟨⟨before, first, after, rfl, begun, lasted⟩, lastsOn⟩)
    · exact ⟨history, event, [], rfl, begun, List.forall_mem_nil _⟩
    · refine ⟨before, first, after ++ [event], by simp, begun, ?_⟩
      simpa [or_imp, forall_and] using ⟨lasted, lastsOn⟩

theorem not_holdsSince_nil : ¬HoldsSince begins lasts [] := by
  rintro ⟨before, first, after, whole, _⟩
  cases before <;> cases whole

theorem holdsSince_cons_iff :
    HoldsSince begins lasts (event :: history) ↔
      (begins event ∧ ∀ later ∈ history, lasts later) ∨ HoldsSince begins lasts history := by
  constructor
  · rintro ⟨before, first, after, whole, begun, lasted⟩
    cases before with
    | nil =>
        obtain ⟨rfl, rfl⟩ := List.cons.inj whole
        exact Or.inl ⟨begun, lasted⟩
    | cons earlier rest =>
        obtain ⟨rfl, rfl⟩ := List.cons.inj whole
        exact Or.inr ⟨rest, first, after, rfl, begun, lasted⟩
  · rintro (⟨begun, lasted⟩ | ⟨before, first, after, rfl, begun, lasted⟩)
    · exact ⟨[], event, history, rfl, begun, lasted⟩
    · exact ⟨event :: before, first, after, rfl, begun, lasted⟩

theorem HoldsSince.exists_mem (holds : HoldsSince begins lasts history) :
    ∃ first ∈ history, begins first := by
  rcases holds with ⟨before, first, after, rfl, begun, _⟩
  exact ⟨first, by simp, begun⟩

instance HoldsSince.decidable [DecidablePred begins] [DecidablePred lasts] :
    (history : List α) → Decidable (HoldsSince begins lasts history)
  | [] => .isFalse not_holdsSince_nil
  | event :: history =>
      have : Decidable (HoldsSince begins lasts history) := HoldsSince.decidable history
      decidable_of_iff
        ((begins event ∧ ∀ later ∈ history, lasts later) ∨ HoldsSince begins lasts history)
        holdsSince_cons_iff.symm

end ParseTrace
