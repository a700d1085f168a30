import Mathlib.Data.List.Nodup
import Mathlib.Data.List.Range
import ParseTrace.Proofs.Since
import ParseTrace.Subscription

/-!
# Subscribers are those who subscribed and have not been removed since

What is asked of a list of subscribers and answered determines who is subscribed: of all
subscriptions those whose number was not removed afterwards, in the order in which they were made.
The list itself keeps a counter and its entries instead, and these follow every request. As long as
the counter does not start again no number is given twice, so that a number that was removed stays
without effect.
-/

namespace ParseTrace.Subscribers

variable {α : Type} {subscribers : Subscribers α} {history : List (Entry α)} {id : Nat}

section History

/-- The number and the subscriber of a subscription. -/
def Entry.subscription? : Entry α → Option (Nat × α)
  | ⟨.subscribe subscriber, .subscribed id⟩ => some (id, subscriber)
  | _ => none

/-- All subscriptions, in order. -/
def subscriptions (history : List (Entry α)) : List (Nat × α) :=
  history.filterMap Entry.subscription?

/-- All numbers given so far, in order. -/
def issued (history : List (Entry α)) : List Nat :=
  (subscriptions history).map Prod.fst

namespace Request

/-- Whether a request subscribes somebody. -/
def subscribes : Request α → Bool
  | .subscribe _ => true
  | .unsubscribe _ | .clear => false

/-- Whether a request takes the subscriber with a number away, if there is one. -/
def removes (id : Nat) : Request α → Bool
  | .subscribe _ => false
  | .unsubscribe removed => removed == id
  | .clear => true

end Request

/-- The number was given and not removed since. -/
def Live (history : List (Entry α)) (id : Nat) : Prop :=
  HoldsSince (fun entry => entry.subscription?.map Prod.fst = some id)
    (fun entry => entry.request.removes id = false) history

instance : Decidable (Live history id) := HoldsSince.decidable history

/-- The subscriptions that were not removed since, in order. -/
def liveSubscriptions (history : List (Entry α)) : List (Nat × α) :=
  (subscriptions history).filter fun subscription => Live history subscription.1

variable {entry : Entry α} {request : Request α}

@[simp]
theorem issued_nil : issued ([] : List (Entry α)) = [] := rfl

theorem subscriptions_concat :
    subscriptions (history ++ [entry]) = subscriptions history ++ entry.subscription?.toList := by
  rw [subscriptions, List.filterMap_append]
  cases subscribed : entry.subscription? <;> simp [subscriptions, subscribed]

theorem issued_append {later : List (Entry α)} :
    issued (history ++ later) = issued history ++ issued later := by
  rw [issued, subscriptions, List.filterMap_append, List.map_append]
  rfl

theorem live_concat_iff : Live (history ++ [entry]) id ↔
    entry.subscription?.map Prod.fst = some id ∨
      (Live history id ∧ entry.request.removes id = false) :=
  holdsSince_concat_iff

theorem Live.mem_issued (live : Live history id) : id ∈ issued history := by
  rcases HoldsSince.exists_mem live with ⟨entry, present, given⟩
  rcases Option.map_eq_some_iff.mp given with ⟨subscription, subscribed, rfl⟩
  exact List.mem_map_of_mem (List.mem_filterMap.mpr ⟨entry, present, subscribed⟩)

/-- A number that is live was so before all that did not give it. -/
theorem Live.of_append {later : List (Entry α)} (live : Live (history ++ later) id)
    (notGiven : id ∉ issued later) : Live history id := by
  induction later using List.reverseRecOn with
  | nil => rwa [List.append_nil] at live
  | append_singleton later entry ih =>
      rw [issued_append, List.mem_append, not_or] at notGiven
      rw [← List.append_assoc, live_concat_iff] at live
      rcases live with given | ⟨earlier, _⟩
      · have isGiven : Live [entry] id := ⟨[], entry, [], rfl, given, List.forall_mem_nil _⟩
        exact absurd isGiven.mem_issued notGiven.2
      · exact ih earlier notGiven.1

/-- A request that gives no number leaves the subscriptions that it does not remove. -/
theorem liveSubscriptions_concat_of_none (givesNone : entry.subscription? = none) :
    liveSubscriptions (history ++ [entry]) =
      (liveSubscriptions history).filter fun subscription =>
        !entry.request.removes subscription.1 := by
  rw [liveSubscriptions, subscriptions_concat, givesNone, Option.toList_none, List.append_nil,
    liveSubscriptions, List.filter_filter]
  apply List.filter_congr
  intro subscription _
  simp only [live_concat_iff, givesNone, Option.map_none, reduceCtorEq, false_or,
    Bool.decide_and, Bool.and_comm, Bool.decide_eq_false]

/-- A number that was not given before adds its subscriber behind the others. -/
theorem liveSubscriptions_concat_of_new {subscriber : α} (isNew : id ∉ issued history) :
    liveSubscriptions (history ++ [⟨.subscribe subscriber, .subscribed id⟩]) =
      liveSubscriptions history ++ [(id, subscriber)] := by
  have others : ∀ subscription ∈ subscriptions history, id ≠ subscription.1 := by
    rintro subscription present rfl
    exact isNew (List.mem_map_of_mem present)
  rw [liveSubscriptions, subscriptions_concat, List.filter_append]
  congr 1
  · apply List.filter_congr
    intro subscription present
    simp [live_concat_iff, Entry.subscription?, Request.removes, others subscription present]
  · simp [live_concat_iff, Entry.subscription?]

end History

section Runs

variable {requests more : List (Request α)} {request : Request α}

theorem transcript_cons :
    subscribers.transcript (request :: requests) =
      ⟨request, (subscribers.run request).1⟩ ::
        (subscribers.run request).2.transcript requests := rfl

theorem transcript_append :
    subscribers.transcript (requests ++ more) =
      subscribers.transcript requests ++ (subscribers.runAll requests).transcript more := by
  induction requests generalizing subscribers with
  | nil => rfl
  | cons request rest ih =>
      rw [List.cons_append, transcript_cons, transcript_cons, ih]
      rfl

/-- Every subscription is given a number. -/
theorem length_issued_transcript (subscribers : Subscribers α) (requests : List (Request α)) :
    (issued (subscribers.transcript requests)).length = requests.countP Request.subscribes := by
  induction requests generalizing subscribers with
  | nil => rfl
  | cons request rest ih =>
      have later := ih (subscribers.run request).2
      simp only [issued, subscriptions, List.length_map] at later ⊢
      rw [transcript_cons, List.countP_cons, ← later]
      cases request with
      | subscribe subscriber => rfl
      | unsubscribe id => rfl
      | clear => rfl

end Runs

section Faithfulness

theorem filter_of_absent {entries : List (Nat × α)} (absent : ∀ entry ∈ entries, entry.1 ≠ id) :
    entries.filter (·.1 != id) = entries :=
  List.filter_eq_self.mpr fun entry present => bne_iff_ne.mpr (absent entry present)

/-- The counter and the entries of a list are those of which its history speaks. -/
structure Follows (subscribers : Subscribers α) (history : List (Entry α)) : Prop where
  next : subscribers.next = (issued history).length % countLimit
  consecutive : issued history = List.range (issued history).length
  entries : subscribers.entries = liveSubscriptions history

namespace Follows

variable {request : Request α} {subscriber : α}

theorem nodup_issued (follows : subscribers.Follows history) : (issued history).Nodup := by
  rw [follows.consecutive]
  exact List.nodup_range

/-- The next number is how many were given, so it was not given before. -/
theorem next_eq (follows : subscribers.Follows history)
    (few : (issued history).length < countLimit) :
    subscribers.next = (issued history).length := by
  rw [follows.next, Nat.mod_eq_of_lt few]

theorem next_notMem_issued (follows : subscribers.Follows history)
    (few : (issued history).length < countLimit) : subscribers.next ∉ issued history := by
  rw [follows.next_eq few, follows.consecutive, List.mem_range, List.length_range]
  exact Nat.lt_irrefl _

theorem subscribe (follows : subscribers.Follows history)
    (few : (issued history).length < countLimit) :
    (subscribers.subscribe subscriber).2.Follows
      (history ++ [⟨.subscribe subscriber, .subscribed subscribers.next⟩]) := by
  have grown : issued (history ++ [⟨.subscribe subscriber, .subscribed subscribers.next⟩]) =
      issued history ++ [subscribers.next] := by
    rw [issued, subscriptions_concat, List.map_append]
    rfl
  refine ⟨?_, ?_, ?_⟩
  · rw [grown, List.length_append, List.length_singleton, ← follows.next_eq few]
    rfl
  · rw [grown, List.length_append, List.length_singleton, List.range_succ, ← follows.consecutive,
      follows.next_eq few]
  · rw [liveSubscriptions_concat_of_new (follows.next_notMem_issued few), ← follows.entries]
    rfl

/-- What follows from a request that gives no number. -/
theorem concat {after : Subscribers α} {entry : Entry α} (follows : subscribers.Follows history)
    (givesNone : entry.subscription? = none) (next : after.next = subscribers.next)
    (entries : after.entries =
      subscribers.entries.filter fun subscription => !entry.request.removes subscription.1) :
    after.Follows (history ++ [entry]) := by
  have same : issued (history ++ [entry]) = issued history := by
    rw [issued, subscriptions_concat, givesNone, Option.toList_none, List.append_nil, issued]
  refine ⟨?_, ?_, ?_⟩
  · rw [same, next, follows.next]
  · rw [same]
    exact follows.consecutive
  · rw [liveSubscriptions_concat_of_none givesNone, ← follows.entries, entries]

theorem run (follows : subscribers.Follows history)
    (few : (issued history).length < countLimit) (request : Request α) :
    (subscribers.run request).2.Follows (history ++ [⟨request, (subscribers.run request).1⟩]) := by
  cases request with
  | subscribe subscriber => exact follows.subscribe few
  | unsubscribe removed =>
      refine follows.concat rfl rfl (List.filter_congr ?_)
      intro subscription _
      rw [Request.removes, Bool.beq_comm]
      rfl
  | clear => exact follows.concat rfl rfl (by simp [Subscribers.run, clear, Request.removes])

theorem runAll {requests : List (Request α)} (follows : subscribers.Follows history)
    (few : (issued history).length + requests.countP Request.subscribes < countLimit) :
    (subscribers.runAll requests).Follows (history ++ subscribers.transcript requests) := by
  induction requests generalizing subscribers history with
  | nil => simpa [Subscribers.runAll, transcript] using follows
  | cons request rest ih =>
      have counted := length_issued_transcript subscribers [request]
      rw [List.countP_cons] at few
      rw [transcript_cons, List.append_cons]
      refine ih (follows.run (by omega) request) ?_
      rw [issued_append, List.length_append]
      change _ + (issued (subscribers.transcript [request])).length + _ < _
      rw [counted, List.countP_singleton]
      omega

theorem unsubscribe_of_not_live (follows : subscribers.Follows history)
    (notLive : ¬Live history id) : subscribers.unsubscribe id = (false, subscribers) := by
  have others : ∀ entry ∈ subscribers.entries, entry.1 ≠ id := by
    rintro entry stored rfl
    rw [follows.entries] at stored
    exact notLive (by simpa using (List.mem_filter.mp stored).2)
  have absent : subscribers.entries.any (·.1 == id) = false :=
    List.any_eq_false.mpr fun entry stored => by simpa using others entry stored
  rw [unsubscribe, filter_of_absent others, absent]

/-- Exactly one entry has a number that is live, and it is the one that is removed. -/
theorem unsubscribe_of_live (follows : subscribers.Follows history) (live : Live history id) :
    ∃ front subscriber back, subscribers.entries = front ++ (id, subscriber) :: back ∧
      subscribers.unsubscribe id = (true, { subscribers with entries := front ++ back }) := by
  have different : (subscribers.entries.map Prod.fst).Nodup := by
    rw [follows.entries]
    exact follows.nodup_issued.sublist (List.filter_sublist.map _)
  have listed : id ∈ subscribers.entries.map Prod.fst := by
    rcases List.mem_map.mp live.mem_issued with ⟨subscription, given, rfl⟩
    rw [follows.entries]
    exact List.mem_map_of_mem (List.mem_filter.mpr ⟨given, by simpa using live⟩)
  rcases List.mem_map.mp listed with ⟨⟨number, subscriber⟩, stored, same⟩
  obtain rfl : id = number := same.symm
  rcases List.append_of_mem stored with ⟨front, back, entries⟩
  rw [entries, List.map_append, List.map_cons, List.nodup_middle, List.nodup_cons,
    ← List.map_append] at different
  have others : ∀ entry ∈ front ++ back, entry.1 ≠ id := by
    intro entry present same
    exact different.1 (List.mem_map.mpr ⟨entry, present, same⟩)
  have kept := filter_of_absent others
  rw [List.filter_append] at kept
  refine ⟨front, subscriber, back, entries, ?_⟩
  simp [unsubscribe, entries, kept]

end Follows

theorem follows_new : (new : Subscribers α).Follows [] := ⟨rfl, rfl, rfl⟩

/-- After any run that gives out fewer than `2 ^ 64` numbers: no number was given twice, nor is the
next one; the number that is asked to be removed is found exactly if it is live, and then its entry
is removed and no other; those subscribed are the ones whose numbers are live, in the order in which
they subscribed; and a number that was removed stays without effect, whatever is asked for
afterwards. -/
theorem subscribed_are_exactly_the_live (requests : List (Request α))
    (few : requests.countP Request.subscribes < countLimit) :
    let subscribers := new.runAll requests
    let history := new.transcript requests
    ((issued history).length = requests.countP Request.subscribes ∧ (issued history).Nodup ∧
      ∀ subscriber, (subscribers.subscribe subscriber).1 ∉ issued history) ∧
    (∀ id, Live history id →
      ∃ front subscriber back, subscribers.entries = front ++ (id, subscriber) :: back ∧
        subscribers.unsubscribe id = (true, { subscribers with entries := front ++ back })) ∧
    (∀ id, ¬Live history id → subscribers.unsubscribe id = (false, subscribers)) ∧
    (subscribers.snapshot = (liveSubscriptions history).map Prod.snd ∧
      subscribers.size = subscribers.snapshot.length ∧
      (subscribers.isEmpty = true ↔ subscribers.snapshot = [])) ∧
    ∀ id ∈ issued history, ¬Live history id →
      ∀ more, (requests ++ more).countP Request.subscribes < countLimit →
        (new.runAll (requests ++ more)).unsubscribe id = (false, new.runAll (requests ++ more)) := by
  intro subscribers history
  have counted := length_issued_transcript new requests
  have follows : subscribers.Follows history := follows_new.runAll (by simpa using few)
  refine ⟨⟨counted, follows.nodup_issued, ?_⟩, ?_, ?_, ⟨?_, ?_, ?_⟩, ?_⟩
  · intro subscriber
    exact follows.next_notMem_issued (by rwa [counted])
  · exact fun id => follows.unsubscribe_of_live
  · exact fun id => follows.unsubscribe_of_not_live
  · rw [snapshot, follows.entries]
  · rw [size, snapshot, List.length_map]
  · rw [isEmpty, size, beq_iff_eq, List.length_eq_zero_iff, snapshot, List.map_eq_nil_iff]
  · intro id given notLive more stillFew
    have goesOn : (new.runAll (requests ++ more)).Follows
        (history ++ subscribers.transcript more) := by
      rw [← transcript_append]
      exact follows_new.runAll (by simpa using stillFew)
    have onlyOnce := goesOn.nodup_issued
    rw [issued_append, List.nodup_append] at onlyOnce
    apply goesOn.unsubscribe_of_not_live
    intro live
    exact notLive (live.of_append fun again => onlyOnce.2.2 id given id again rfl)

/-- Two subscribe and one of them is removed, all are removed, and another one subscribes. -/
def clearedBetween : List (Request String) :=
  [.subscribe "tree", .subscribe "rules", .unsubscribe 0, .clear, .subscribe "depth"]

theorem clearedBetween_leaves_last :
    let subscribers := new.runAll clearedBetween
    subscribers.snapshot = ["depth"] ∧
      subscribers.unsubscribe 2 = (true, { subscribers with entries := [] }) ∧
      ∀ id ∈ [0, 1, 7], subscribers.unsubscribe id = (false, subscribers) := by
  rcases subscribed_are_exactly_the_live clearedBetween (by decide) with
    ⟨_, _, unknown, ⟨shown, _⟩, _⟩
  refine ⟨shown.trans (by decide), by decide, ?_⟩
  intro id stale
  have notLive : ∀ id ∈ [0, 1, 7], ¬Live (new.transcript clearedBetween) id := by decide
  exact unknown id (notLive id stale)

end Faithfulness

end ParseTrace.Subscribers
