import Mathlib.Data.List.Forall2
import ParseTrace.Proofs.Store.Interruption

/-!
# Loading a capture again

A store that has taken a capture does not take it a second time. The first rules that come, in
whatever batches, are declared already, so nothing is stored and the load ends with an error. A
capture without rules has no invocations either, so loading it again stores nothing. Either way the
store is as it was, and what holds of the second load holds of all further ones.
-/

namespace ParseTrace

namespace Store

open Numeral (IntegerRange)

variable {store after : Store} {capture : Capture} {size batchSize : Nat} {cancelled : Bool}

/-- Loads a capture again and again, each time in batches of the given size and possibly cancelled
beforehand. -/
def reload (store : Store) (capture : Capture) :
    List (Nat × Bool) → List (Outcome LoadSummary) × Store
  | [] => ([], store)
  | (batchSize, cancelled) :: rest =>
      let (result, store) := store.ingest capture batchSize cancelled
      let (results, store) := store.reload capture rest
      (result :: results, store)

/-- Rules that are declared already cannot be declared with different identifiers. -/
theorem eq_nil_of_declared {declared rules : List Rule}
    (nodup : ((declared ++ rules).map Rule.id).Nodup) (known : ∀ rule ∈ rules, rule ∈ declared) :
    rules = [] := by
  rw [List.map_append, List.nodup_append] at nodup
  apply List.eq_nil_iff_forall_not_mem.mpr
  intro rule comes
  exact nodup.2.2 rule.id (List.mem_map_of_mem (known rule comes)) rule.id
    (List.mem_map_of_mem comes) rfl

/-- If all rules of a capture are declared already none is stored, wherever its batches end. -/
theorem Sound.ingestRules_of_declared {delivery : Delivery Rule} (sound : store.Sound)
    (isOpen : store.closed = false)
    (inRange : ∀ rule ∈ delivery.items, IntegerRange.signed32.Contains rule.id)
    (hasRules : delivery.items ≠ []) (known : ∀ rule ∈ delivery.items, rule ∈ store.rules) :
    ∃ error, store.ingestRules delivery size false = (.error error, store) := by
  rcases sound.described with ⟨writer, written, _⟩
  rcases outcome : store.ingestRules delivery size false with ⟨result, next⟩
  cases result with
  | ok count =>
      rcases (ingestRules_eq_ok_iff sound written isOpen inRange).mp outcome with ⟨_, nodup, _, _⟩
      exact absurd (eq_nil_of_declared nodup known) hasRules
  | error error =>
      -- The whole batches that are left are declared already too, so there are none.
      rcases ingestRules_leaves sound written isOpen inRange outcome with ⟨count, _, nodup, left⟩
      have stored := eq_nil_of_declared nodup fun rule taken =>
        known rule (List.mem_of_mem_take taken)
      rw [stored, sound.withRules_nil written] at left
      exact ⟨error, by rw [left]⟩

/-- A capture whose rules are declared already is refused. -/
theorem Sound.ingest_of_declared (sound : store.Sound) (isOpen : store.closed = false)
    (hasRules : capture.readRules.items ≠ [])
    (known : ∀ rule ∈ capture.readRules.items, rule ∈ store.rules)
    (fits : max batchSize 1 ≤ maxBatch) :
    ∃ error, store.ingest capture batchSize cancelled = (.error error, store) := by
  cases cancelled with
  | true => exact ingest_of_cancelled fits
  | false =>
      rcases sound.ingestRules_of_declared isOpen capture.ids_inRange hasRules known with
        ⟨error, refused⟩
      refine ⟨error, ?_⟩
      dsimp only [ingest]
      rw [if_neg (Nat.not_lt.mpr fits), refused]

@[simp]
theorem batches_nil {α : Type} (size : Nat) : batches size ([] : List α) = ([], []) := by
  rw [batches, if_neg]
  rintro ⟨positive, fits⟩
  exact absurd positive (Nat.not_lt.mpr fits)

/-- Where there are no rules none is stored. -/
theorem Sound.ingestRules_snd_of_nothing {delivery : Delivery Rule} (sound : store.Sound)
    (isOpen : store.closed = false) (nothing : delivery.items = []) :
    (store.ingestRules delivery size cancelled).2 = store := by
  rcases sound.described with ⟨writer, written, _⟩
  have kept : store.appendRules [] = (.ok (), store) := by
    refine (sound.appendRules_eq_ok_iff written isOpen).mpr ⟨?_, ?_⟩
    · simpa using sound.ids_nodup
    · exact (sound.withRules_nil written).symm
  simp only [ingestRules, nothing, batches_nil, storeRuleBatches, kept]
  cases delivery.ending with
  | error error => rfl
  | ok _ => cases cancelled <;> rfl

/-- Where there are no invocations none is stored. -/
theorem ingestNodes_snd_of_nothing {delivery : Delivery (NodeId × Invocation)}
    (nothing : delivery.items = []) :
    (store.ingestNodes delivery size cancelled).2 = store := by
  simp only [ingestNodes, nothing, splitListed, batches_nil, storeNodeBatches, List.isEmpty_nil]
  cases delivery.ending <;> rfl

/-- A capture that delivers nothing has nothing to store. -/
theorem Sound.ingest_snd_of_nothing (sound : store.Sound) (isOpen : store.closed = false)
    (noRules : capture.readRules.items = []) (noNodes : capture.readInvocations.items = []) :
    (store.ingest capture batchSize cancelled).2 = store := by
  have unruled : (store.ingestRules capture.readRules (max batchSize 1) cancelled).2 = store :=
    sound.ingestRules_snd_of_nothing isOpen noRules
  dsimp only [ingest]
  split
  · rfl
  split
  next error next stored =>
    rw [stored] at unruled
    exact unruled
  next count next stored =>
    rw [stored] at unruled
    obtain rfl : next = store := unruled
    exact ingestNodes_snd_of_nothing noNodes

/-- A tree over no rules has no nodes. -/
theorem noNodes_of_noRules (loadable : capture.Loadable)
    (noRules : capture.readRules.items = []) : capture.readInvocations.items = [] := by
  have tree := loadable.tree
  rw [noRules] at tree
  apply List.eq_nil_iff_forall_not_mem.mpr
  intro item recorded
  rcases List.mem_iff_getElem?.mp recorded with ⟨place, found⟩
  have placed := tree place (listedNode item) (by simp [Capture.recorded, found])
  rcases placed.rule_declared with ⟨rule, declared, _⟩
  cases declared

/-- A store that has taken a capture is not changed by taking it again. If the capture has rules, an
attempt for which there is room is refused. -/
theorem ingest_again {label : String} {header : Header} {firstSize : Nat} {summary : LoadSummary}
    (batchSize : Nat) (cancelled : Bool)
    (few : capture.nodes.records.length < 2 ^ 31)
    (loaded : (create label header).ingest capture firstSize false = (.ok summary, after)) :
    (after.ingest capture batchSize cancelled).2 = after ∧
      (capture.readRules.items ≠ [] → max batchSize 1 ≤ maxBatch →
        ∃ error, (after.ingest capture batchSize cancelled).1 = .error error) := by
  -- There was room for the first load, because otherwise it would have ended with a crash.
  have firstFits : max firstSize 1 ≤ maxBatch := by
    by_contra tooLarge
    rw [ingest_of_noRoom (Nat.not_le.mp tooLarge)] at loaded
    cases loaded
  have loadable : capture.Loadable :=
    ((ingest_eq_ok_iff (sound_create label header) rfl rfl rfl rfl firstFits few).mp loaded).1
  rcases contents_of_ingest_create firstFits few loaded with ⟨sound, isOpen, rules, _⟩
  have known : ∀ rule ∈ capture.readRules.items, rule ∈ after.rules := by
    rw [rules]
    exact fun rule declared => declared
  rcases Nat.lt_or_ge maxBatch (max batchSize 1) with tooLarge | fits
  · rw [ingest_of_noRoom tooLarge]
    exact ⟨rfl, fun _ fits => absurd tooLarge (Nat.not_lt.mpr fits)⟩
  by_cases noRules : capture.readRules.items = []
  · have noNodes := noNodes_of_noRules loadable noRules
    exact ⟨sound.ingest_snd_of_nothing isOpen noRules noNodes,
      fun hasRules => absurd noRules hasRules⟩
  · rcases sound.ingest_of_declared isOpen noRules known fits with ⟨error, refused⟩
    rw [refused]
    exact ⟨rfl, fun _ _ => ⟨error, rfl⟩⟩

/-- A store that has taken a capture stays as it is however often it is given the capture again, in
batches of whatever size. If the capture has rules, every attempt for whose batches there is room
is refused with an error. Where there is none, an attempt crashes. -/
theorem loading_again_changes_nothing (label : String) (header : Header) (capture : Capture)
    (firstSize : Nat) (summary : LoadSummary) (after : Store)
    (few : capture.nodes.records.length < 2 ^ 31)
    (loaded : (create label header).ingest capture firstSize false = (.ok summary, after))
    (attempts : List (Nat × Bool)) :
    (after.reload capture attempts).2 = after ∧
      (capture.readRules.items ≠ [] →
        List.Forall₂
          (fun attempt result => max attempt.1 1 ≤ maxBatch → ∃ error, result = .error error)
          attempts (after.reload capture attempts).1) ∧
      List.Forall₂
        (fun attempt result => maxBatch < max attempt.1 1 → result = .crash .capacity)
        attempts (after.reload capture attempts).1 := by
  induction attempts with
  | nil => exact ⟨rfl, fun _ => List.Forall₂.nil, List.Forall₂.nil⟩
  | cons attempt rest ih =>
      rcases attempt with ⟨batchSize, cancelled⟩
      rcases ih with ⟨unchangedOn, refusedOn, crashedOn⟩
      rcases ingest_again batchSize cancelled few loaded with ⟨unchanged, refused⟩
      have crashed (tooLarge : maxBatch < max batchSize 1) :
          (after.ingest capture batchSize cancelled).1 = .crash .capacity := by
        rw [ingest_of_noRoom tooLarge]
      rcases outcome : after.ingest capture batchSize cancelled with ⟨result, next⟩
      rw [outcome] at unchanged refused crashed
      obtain rfl : next = after := unchanged
      rw [reload, outcome]
      exact ⟨unchangedOn,
        fun hasRules => List.Forall₂.cons (refused hasRules) (refusedOn hasRules),
        List.Forall₂.cons crashed crashedOn⟩

theorem tripleCapture_loaded_again :
    ∃ after first second,
      (create "trace" ⟨0, 3, 3, 2⟩).ingest tripleCapture 2 false = (.ok ⟨3, 3⟩, after) ∧
      after.rules.length = 3 ∧
      after.reload tripleCapture [(1, false), (3, false)] =
        ([.error first, .error second], after) := by
  obtain ⟨after, loaded⟩ : ∃ after,
      (create "trace" ⟨0, 3, 3, 2⟩).ingest tripleCapture 2 false = (.ok ⟨3, 3⟩, after) :=
    ⟨_, Prod.ext (by decide +kernel) rfl⟩
  have few : tripleCapture.nodes.records.length < 2 ^ 31 := by
    decide +kernel
  have three : tripleCapture.readRules.items.length = 3 := by decide +kernel
  rcases contents_of_ingest_create (by decide) few loaded with ⟨_, _, rules, _⟩
  rcases loading_again_changes_nothing "trace" ⟨0, 3, 3, 2⟩ tripleCapture 2 ⟨3, 3⟩ after few loaded
    [(1, false), (3, false)] with ⟨unchanged, refused, _⟩
  rcases again : after.reload tripleCapture [(1, false), (3, false)] with ⟨results, last⟩
  rw [again] at unchanged refused
  obtain rfl : last = after := unchanged
  have hasRules : tripleCapture.readRules.items ≠ [] := List.ne_nil_of_length_pos (by omega)
  rcases refused hasRules with _ | ⟨firstRefused, _ | ⟨secondRefused, ⟨⟩⟩⟩
  rcases firstRefused (by decide) with ⟨first, rfl⟩
  rcases secondRefused (by decide) with ⟨second, rfl⟩
  exact ⟨last, first, second, loaded, by rw [rules, three], again⟩

/-- A capture of what the sample store holds. -/
def sampleCapture : Capture where
  header := ⟨0, 1, 1, 1⟩
  rules := .ofText "7;AnyMatcher;TERMINAL;Digit"
  nodes := .ofText "-1;0;0;1;7;0;2;500"
  input := .ofText ""

/-- Without room for its batches a second load is no error, whatever the store holds. -/
theorem loaded_again_without_room :
    ∃ after,
      (create "sample" ⟨0, 1, 1, 1⟩).ingest sampleCapture 1 false = (.ok ⟨1, 1⟩, after) ∧
      sampleCapture.readRules.items ≠ [] ∧
      ¬∃ error, (after.ingest sampleCapture 18446744073709551615 false).1 = .error error := by
  refine ⟨_, Prod.ext (by decide +kernel) rfl, by decide +kernel, ?_⟩
  rintro ⟨error, refused⟩
  rw [ingest_of_noRoom (by decide)] at refused
  cases refused

end Store

end ParseTrace
