import Mathlib.Data.Set.Card
import ParseTrace.Proofs.Session.Closing
import ParseTrace.Proofs.Since
import ParseTrace.Session.Registry

/-!
# The registry finds what was opened and not closed since

What is asked of a registry and answered determines the numbers that can be found: those that were
issued and not closed since. The registry itself keeps a counter and two lists instead, and these
follow every request as long as fewer sessions are opened than there are numbers; after so many the
counter starts again. Closed sessions are kept apart from those that can be found, and they stay
closed whatever is asked of them.
-/

namespace ParseTrace

namespace Registry

variable {files : FileTree CaptureFile} {registry : Registry} {history more : List Entry}
  {entry : Entry} {number other : Nat} {session : Session}

section History

namespace Entry

/-- The number that is issued by a successful opening. -/
def opened? (entry : Entry) : Option Nat :=
  match entry.reply with
  | .ok (.opened number) => some number
  | _ => none

end Entry

/-- Whether a request closes the session with a number, if there is one. -/
def Request.Closes (number : Nat) : Request → Prop
  | .close closed => closed = number
  | .closeAll => True
  | _ => False

/-- All numbers issued so far, in order. -/
def issued (history : List Entry) : List Nat :=
  history.filterMap Entry.opened?

/-- Fewer sessions were opened than there are numbers. -/
def Few (history : List Entry) : Prop :=
  (issued history).length < countLimit

/-- The number was issued and not closed since. -/
def Live (history : List Entry) (number : Nat) : Prop :=
  ∃ before opening after, history = before ++ opening :: after ∧ opening.opened? = some number ∧
    ∀ entry ∈ after, ¬entry.request.Closes number

theorem issued_concat :
    issued (history ++ [entry]) = issued history ++ entry.opened?.toList := by
  rw [issued, List.filterMap_append]
  cases opened : entry.opened? <;> simp [issued, opened]

theorem issued_append : issued (history ++ more) = issued history ++ issued more :=
  List.filterMap_append

theorem Few.of_append (few : Few (history ++ more)) : Few history := by
  rw [Few, issued_append, List.length_append] at few
  exact Nat.lt_of_le_of_lt (Nat.le_add_right _ _) few

theorem live_concat_iff : Live (history ++ [entry]) number ↔
    entry.opened? = some number ∨ (Live history number ∧ ¬entry.request.Closes number) :=
  holdsSince_concat_iff

theorem Live.mem_issued (live : Live history number) : number ∈ issued history := by
  rcases HoldsSince.exists_mem live with ⟨opening, present, opened⟩
  exact List.mem_filterMap.mpr ⟨opening, present, opened⟩

end History

section LookUp

theorem mem_of_find?_eq_some {entries : List (Nat × Session)}
    (found : (entries.find? (·.1 == number)).map Prod.snd = some session) :
    (number, session) ∈ entries := by
  rcases Option.map_eq_some_iff.mp found with ⟨⟨key, value⟩, first, rfl⟩
  obtain rfl : key = number := by simpa using List.find?_some first
  exact List.mem_of_find?_eq_some first

/-- Among entries with different numbers, each is found under its own. -/
theorem find?_eq_some_iff {entries : List (Nat × Session)}
    (different : (entries.map Prod.fst).Nodup) :
    (entries.find? (·.1 == number)).map Prod.snd = some session ↔ (number, session) ∈ entries := by
  refine ⟨mem_of_find?_eq_some, ?_⟩
  intro stored
  have present : (entries.find? (·.1 == number)).isSome :=
    List.find?_isSome.mpr ⟨_, stored, by simp⟩
  rcases Option.isSome_iff_exists.mp present with ⟨⟨key, value⟩, first⟩
  obtain rfl : key = number := by simpa using List.find?_some first
  have same := List.inj_on_of_nodup_map different (List.mem_of_find?_eq_some first) stored rfl
  rw [first, same]
  rfl

/-- All sessions ever opened, those that are closed first. -/
def known (registry : Registry) : List (Nat × Session) :=
  registry.released ++ registry.sessions

theorem opened?_eq_some_iff (different : (registry.known.map Prod.fst).Nodup) :
    registry.opened? number = some session ↔ (number, session) ∈ registry.known := by
  have sorted : registry.history.Perm registry.known := List.mergeSort_perm _ _
  rw [opened?, find?_eq_some_iff ((sorted.map Prod.fst).nodup_iff.mpr different), sorted.mem_iff]

theorem isSome_get?_iff : (registry.get? number).isSome ↔ number ∈ registry.numbers := by
  rw [get?, Option.isSome_map, List.find?_isSome, numbers, List.mem_map]
  simp

theorem isSome_close_iff : (registry.close number).1.isSome ↔ number ∈ registry.numbers := by
  rw [← isSome_get?_iff, close]
  cases registry.get? number <;> simp

end LookUp

section Requests

/-- Opening adds a session under the next number, or it fails and leaves the registry as it is. -/
theorem openFile_cases (registry : Registry) (files : FileTree CaptureFile) (path : String) :
    (∃ session, Session.openFile files registry.settings path = .ok session ∧
      registry.openFile files path = (.ok registry.next, registry.add session)) ∨
    ((∀ number, (registry.openFile files path).1 ≠ .ok number) ∧
      (registry.openFile files path).2 = registry) := by
  rw [openFile]
  cases opened : Session.openFile files registry.settings path with
  | ok session => exact Or.inl ⟨session, rfl, rfl⟩
  | error cause => exact Or.inr ⟨nofun, rfl⟩
  | crash cause => exact Or.inr ⟨nofun, rfl⟩

@[simp]
theorem settings_add : (registry.add session).settings = registry.settings := rfl

/-- A number above all others goes behind them. -/
theorem enter_of_above {entries : List (Nat × Session)}
    (above : ∀ entry ∈ entries, entry.1 < number) :
    enter number session entries = entries ++ [(number, session)] := by
  have all : entries.filter (·.1 < number) = entries :=
    List.filter_eq_self.mpr fun entry entered => decide_eq_true (above entry entered)
  have none : entries.filter (number < ·.1) = [] := by
    rw [List.filter_eq_nil_iff]
    intro entry entered
    simpa using Nat.le_of_lt (above entry entered)
  rw [enter, all, none]

/-- Whatever is entered, all that can be found afterwards was there before. -/
theorem forall_mem_enter {property : Nat × Session → Prop} {entries : List (Nat × Session)}
    (all : ∀ entry ∈ entries, property entry) (entered : property (number, session)) :
    ∀ entry ∈ enter number session entries, property entry := by
  rw [enter, List.forall_mem_append, List.forall_mem_cons]
  exact ⟨fun entry kept => all entry (List.mem_of_mem_filter kept), entered,
    fun entry kept => all entry (List.mem_of_mem_filter kept)⟩

theorem close_of_unknown (unknown : number ∉ registry.numbers) :
    registry.close number = (none, registry) := by
  rw [← isSome_get?_iff, Option.not_isSome_iff_eq_none] at unknown
  rw [close, unknown]

theorem close_of_found (found : registry.get? number = some session) :
    registry.close number = (some session.close.1,
      { registry with
        sessions := registry.sessions.filter (·.1 != number)
        released := registry.released ++ [(number, session.close.2)] }) := by
  rw [close, found]

theorem closeAll_eq (registry : Registry) :
    registry.closeAll.2 =
      { registry with
        sessions := []
        released := registry.released ++
          registry.sessions.map fun entry => (entry.1, entry.2.close.2) } := by
  simp [closeAll, Function.comp_def]

theorem run_ask_of_unknown {request : Session.Request} (unknown : registry.opened? number = none) :
    registry.run files (.ask number request) = (.ok (.answered none), registry) := by
  rw [run, unknown]

theorem run_ask_of_opened {request : Session.Request}
    (opened : registry.opened? number = some session) :
    registry.run files (.ask number request) =
      ((session.run request).1.map fun reply => .answered (some reply),
        registry.replace number (session.run request).2) := by
  rw [run, opened]

theorem map_fst_put (entries : List (Nat × Session)) :
    (put number session entries).map Prod.fst = entries.map Prod.fst := by
  rw [put, List.map_map]
  apply List.map_congr_left
  intro entry _
  by_cases same : entry.1 = number <;> simp [same]

theorem numbers_replace : (registry.replace number session).numbers = registry.numbers :=
  map_fst_put registry.sessions

theorem known_replace :
    (registry.replace number session).known = put number session registry.known :=
  List.map_append.symm

theorem forall_mem_put (property : Session → Prop) {entries : List (Nat × Session)}
    (all : ∀ entry ∈ entries, property entry.2)
    (put : ∀ entry ∈ entries, entry.1 = number → property session) :
    ∀ entry ∈ Registry.put number session entries, property entry.2 := by
  rw [Registry.put, List.forall_mem_map]
  intro entry stored
  by_cases same : entry.1 = number
  · rw [if_pos (beq_iff_eq.mpr same)]
    exact put entry stored same
  · rw [if_neg (mt beq_iff_eq.mp same)]
    exact all entry stored

end Requests

section Numbers

/-- The numbers of a registry are those that its history speaks of. -/
structure Follows (registry : Registry) (history : List Entry) : Prop where
  next : registry.next = ((issued history).length + 1) % countLimit
  consecutive : issued history = List.range' 1 (issued history).length
  known : (registry.known.map Prod.fst).Perm (issued history)
  live : ∀ number, number ∈ registry.numbers ↔ Live history number
  sorted : registry.numbers.Pairwise (· < ·)

namespace Follows

variable {after : Registry}

theorem different (follows : registry.Follows history) : (registry.known.map Prod.fst).Nodup := by
  rw [follows.known.nodup_iff, follows.consecutive]
  exact List.nodup_range'

/-- As long as there are numbers left, the next one is above all others. -/
theorem lt_next (follows : registry.Follows history)
    (left : (issued history).length + 1 < countLimit) :
    ∀ entry ∈ registry.sessions, entry.1 < registry.next := by
  intro entry stored
  have inRange := ((follows.live entry.1).mp (List.mem_map_of_mem stored)).mem_issued
  rw [follows.consecutive, List.mem_range'_1] at inRange
  rw [follows.next, Nat.mod_eq_of_lt left]
  omega

/-- What follows from a request that issues no number. -/
theorem concat (follows : registry.Follows history) (issuesNone : entry.opened? = none)
    (next : after.next = registry.next)
    (known : (after.known.map Prod.fst).Perm (registry.known.map Prod.fst))
    (fewer : after.numbers.Sublist registry.numbers)
    (left : ∀ number,
      number ∈ after.numbers ↔ number ∈ registry.numbers ∧ ¬entry.request.Closes number) :
    after.Follows (history ++ [entry]) := by
  have same : issued (history ++ [entry]) = issued history := by
    rw [issued_concat, issuesNone]
    exact List.append_nil _
  refine ⟨?_, ?_, ?_, ?_, follows.sorted.sublist fewer⟩
  · rw [same, next, follows.next]
  · rw [same]
    exact follows.consecutive
  · rw [same]
    exact known.trans follows.known
  · intro number
    rw [left, follows.live, live_concat_iff, issuesNone]
    simp

theorem unchanged (follows : registry.Follows history) (issuesNone : entry.opened? = none)
    (closesNone : ∀ number ∈ registry.numbers, ¬entry.request.Closes number) :
    registry.Follows (history ++ [entry]) :=
  follows.concat issuesNone rfl (List.Perm.refl _) (List.Sublist.refl _) fun number =>
    (and_iff_left_of_imp (closesNone number)).symm

theorem add (follows : registry.Follows history) (path : String) (session : Session)
    (left : (issued history).length + 1 < countLimit) :
    (registry.add session).Follows
      (history ++ [⟨.openFile path, .ok (.opened registry.next)⟩]) := by
  have grown : issued (history ++ [⟨.openFile path, .ok (.opened registry.next)⟩]) =
      issued history ++ [registry.next] :=
    issued_concat
  have next : registry.next = (issued history).length + 1 := by
    rw [follows.next, Nat.mod_eq_of_lt left]
  have entered : (registry.add session).sessions =
      registry.sessions ++ [(registry.next, session)] :=
    enter_of_above (follows.lt_next left)
  refine ⟨?_, ?_, ?_, ?_, ?_⟩
  · rw [grown, List.length_append, Registry.add, next]
    rfl
  · rw [grown, List.length_append, List.length_singleton, List.range'_1_concat,
      ← follows.consecutive, next, Nat.add_comm]
  · rw [grown, Registry.known, entered]
    simpa [Registry.known, Registry.add] using follows.known.append_right [registry.next]
  · intro number
    rw [live_concat_iff, ← follows.live, numbers, entered]
    simp [numbers, Request.Closes, Entry.opened?, or_comm, eq_comm]
  · rw [numbers, entered, List.map_append, List.pairwise_append]
    refine ⟨follows.sorted, List.pairwise_singleton _ _, ?_⟩
    intro earlier found last isLast
    obtain rfl : last = registry.next := by simpa using isLast
    rcases List.mem_map.mp found with ⟨entry, stored, rfl⟩
    exact follows.lt_next left entry stored

theorem openFile (follows : registry.Follows history) (files : FileTree CaptureFile)
    (path : String)
    (few : Few (history ++ [⟨.openFile path, (registry.openFile files path).1.map .opened⟩])) :
    (registry.openFile files path).2.Follows
      (history ++ [⟨.openFile path, (registry.openFile files path).1.map .opened⟩]) := by
  rcases registry.openFile_cases files path with ⟨session, _, added⟩ | ⟨failed, same⟩
  · rw [added] at few ⊢
    rw [Few, issued_concat, List.length_append] at few
    exact follows.add path session few
  · rw [same]
    apply follows.unchanged
    · cases outcome : (registry.openFile files path).1 with
      | ok number => exact absurd outcome (failed number)
      | error cause => rfl
      | crash cause => rfl
    · exact fun _ _ => id

theorem close (follows : registry.Follows history) (number : Nat)
    (reply : Option Session.Closing) :
    (registry.close number).2.Follows (history ++ [⟨.close number, .ok (.closed reply)⟩]) := by
  by_cases found : number ∈ registry.numbers
  · rcases Option.isSome_iff_exists.mp (isSome_get?_iff.mpr found) with ⟨session, isThere⟩
    have rest : (registry.sessions.filter (·.1 != number)).map Prod.fst =
        registry.numbers.erase number := by
      rw [follows.sorted.nodup.erase_eq_filter, numbers, List.filter_map]
      rfl
    rw [close_of_found isThere]
    refine follows.concat rfl rfl ?_ ?_ ?_
    · have moved := (List.perm_cons_erase found).append_left (registry.released.map Prod.fst)
      simpa [Registry.known, rest, numbers] using moved.symm
    · rw [numbers, rest]
      exact List.erase_sublist
    · intro other
      rw [numbers, rest, follows.sorted.nodup.mem_erase_iff, and_comm]
      exact and_congr_right fun _ => ne_comm
  · rw [close_of_unknown found]
    apply follows.unchanged rfl
    rintro other isThere rfl
    exact found isThere

theorem closeAll (follows : registry.Follows history) (reply : List Session.Closing) :
    registry.closeAll.2.Follows (history ++ [⟨.closeAll, .ok (.allClosed reply)⟩]) := by
  rw [closeAll_eq]
  refine follows.concat rfl rfl ?_ (List.nil_sublist _) ?_
  · simp [Registry.known, Function.comp_def]
  · intro number
    simp [numbers, Request.Closes]

theorem ask (follows : registry.Follows history) (files : FileTree CaptureFile) (number : Nat)
    (request : Session.Request) :
    (registry.run files (.ask number request)).2.Follows
      (history ++ [⟨.ask number request, (registry.run files (.ask number request)).1⟩]) := by
  cases opened : registry.opened? number with
  | none =>
      rw [run_ask_of_unknown opened]
      exact follows.unchanged rfl fun _ _ => id
  | some session =>
      rw [run_ask_of_opened opened]
      apply follows.concat
      · cases (session.run request).1 <;> rfl
      · rfl
      · rw [known_replace, map_fst_put]
      · rw [numbers_replace]
      · intro other
        rw [numbers_replace]
        exact (and_iff_left id).symm

theorem run (follows : registry.Follows history) (files : FileTree CaptureFile)
    (request : Request) (few : Few (history ++ [⟨request, (registry.run files request).1⟩])) :
    (registry.run files request).2.Follows
      (history ++ [⟨request, (registry.run files request).1⟩]) := by
  cases request with
  | openFile path => exact follows.openFile files path few
  | close number => exact follows.close number _
  | closeAll => exact follows.closeAll _
  | ask number request => exact follows.ask files number request

end Follows

end Numbers

section Sessions

/-- Each session is closed together with its store, and those that cannot be found are closed. -/
structure Sound (registry : Registry) : Prop where
  joined : ∀ entry ∈ registry.known, entry.2.Joined
  closed : ∀ entry ∈ registry.released, entry.2.closed = true

namespace Sound

theorem openFile (sound : registry.Sound) (files : FileTree CaptureFile) (path : String) :
    (registry.openFile files path).2.Sound := by
  rcases registry.openFile_cases files path with ⟨session, opened, added⟩ | ⟨_, same⟩
  · rw [added]
    have joined := List.forall_mem_append.mp sound.joined
    refine ⟨?_, sound.closed⟩
    rw [known, List.forall_mem_append]
    exact ⟨joined.1, forall_mem_enter joined.2 (Session.joined_of_openFile opened)⟩
  · rw [same]
    exact sound

theorem close (sound : registry.Sound) (number : Nat) : (registry.close number).2.Sound := by
  cases found : registry.get? number with
  | none =>
      rw [Registry.close, found]
      exact sound
  | some session =>
      have stored : (number, session) ∈ registry.sessions := mem_of_find?_eq_some found
      rw [close_of_found found]
      have joined := List.forall_mem_append.mp sound.joined
      constructor
      · rw [known, List.forall_mem_append, List.forall_mem_append, List.forall_mem_singleton]
        refine ⟨⟨joined.1, (joined.2 _ stored).close⟩, ?_⟩
        intro entry kept
        exact joined.2 entry (List.mem_of_mem_filter kept)
      · rw [List.forall_mem_append, List.forall_mem_singleton]
        exact ⟨sound.closed, session.closed_close⟩

theorem closeAll (sound : registry.Sound) : registry.closeAll.2.Sound := by
  rw [closeAll_eq]
  have joined := List.forall_mem_append.mp sound.joined
  constructor
  · rw [known, List.append_nil, List.forall_mem_append, List.forall_mem_map]
    exact ⟨joined.1, fun entry stored => (joined.2 entry stored).close⟩
  · rw [List.forall_mem_append, List.forall_mem_map]
    exact ⟨sound.closed, fun entry _ => entry.2.closed_close⟩

theorem ask (sound : registry.Sound) (different : (registry.known.map Prod.fst).Nodup)
    (files : FileTree CaptureFile) (number : Nat) (request : Session.Request) :
    (registry.run files (.ask number request)).2.Sound := by
  cases opened : registry.opened? number with
  | none =>
      rw [run_ask_of_unknown opened]
      exact sound
  | some session =>
      have stored := (opened?_eq_some_iff different).mp opened
      rw [run_ask_of_opened opened]
      constructor
      · rw [known_replace]
        exact forall_mem_put _ sound.joined fun _ _ _ => (sound.joined _ stored).run request
      · apply forall_mem_put (·.closed = true) sound.closed
        intro entry released same
        have isEntry : entry = (number, session) :=
          List.inj_on_of_nodup_map different (List.mem_append_left _ released) stored same
        rw [isEntry] at released
        exact Session.closed_run (sound.closed _ released) request

theorem run (sound : registry.Sound) (different : (registry.known.map Prod.fst).Nodup)
    (files : FileTree CaptureFile) (request : Request) : (registry.run files request).2.Sound := by
  cases request with
  | openFile path => exact sound.openFile files path
  | close number => exact sound.close number
  | closeAll => exact sound.closeAll
  | ask number request => exact sound.ask different files number request

end Sound

theorem mem_released_run (released : number ∈ registry.released.map Prod.fst)
    (files : FileTree CaptureFile) (request : Request) :
    number ∈ (registry.run files request).2.released.map Prod.fst := by
  cases request with
  | openFile path =>
      rcases registry.openFile_cases files path with ⟨session, _, added⟩ | ⟨_, same⟩
      · rw [run, added]
        exact released
      · rw [run, same]
        exact released
  | close closed =>
      rw [run, close]
      cases registry.get? closed with
      | none => exact released
      | some session =>
          rw [List.map_append]
          exact List.mem_append_left _ released
  | closeAll =>
      rw [run, closeAll, List.map_append]
      exact List.mem_append_left _ released
  | ask asked request =>
      cases opened : registry.opened? asked with
      | none =>
          rw [run_ask_of_unknown opened]
          exact released
      | some session =>
          rw [run_ask_of_opened opened, replace, map_fst_put]
          exact released

end Sessions

section Runs

variable {calls earlier later : List Call}

theorem runAll_append (registry : Registry) :
    registry.runAll (earlier ++ later) = (registry.runAll earlier).runAll later :=
  List.foldl_append

theorem append_transcript_cons (history : List Entry) (registry : Registry) (call : Call)
    (rest : List Call) :
    history ++ registry.transcript (call :: rest) =
      history ++ [⟨call.request, (registry.run call.files call.request).1⟩] ++
        (registry.run call.files call.request).2.transcript rest := by
  simp [transcript]

theorem transcript_append (registry : Registry) :
    registry.transcript (earlier ++ later) =
      registry.transcript earlier ++ (registry.runAll earlier).transcript later := by
  induction earlier generalizing registry with
  | nil => rfl
  | cons call rest ih => exact congrArg (List.cons _) (ih _)

theorem length_transcript (registry : Registry) (calls : List Call) :
    (registry.transcript calls).length = calls.length := by
  induction calls generalizing registry with
  | nil => rfl
  | cons call rest ih => exact congrArg (· + 1) (ih _)

/-- A run of few requests opens few sessions. -/
theorem few_transcript (registry : Registry) (short : calls.length < countLimit) :
    Few (registry.transcript calls) := by
  have opened : (issued (registry.transcript calls)).length ≤ calls.length := by
    rw [← registry.length_transcript calls]
    exact List.length_filterMap_le _ _
  exact Nat.lt_of_le_of_lt opened short

theorem Follows.runAll (follows : registry.Follows history) (calls : List Call)
    (few : Few (history ++ registry.transcript calls)) :
    (registry.runAll calls).Follows (history ++ registry.transcript calls) := by
  induction calls generalizing registry history with
  | nil =>
      rw [transcript, List.append_nil]
      exact follows
  | cons call rest ih =>
      rw [append_transcript_cons] at few ⊢
      exact ih (follows.run call.files call.request few.of_append) few

theorem Sound.runAll (sound : registry.Sound) (follows : registry.Follows history)
    (calls : List Call) (few : Few (history ++ registry.transcript calls)) :
    (registry.runAll calls).Sound := by
  induction calls generalizing registry history with
  | nil => exact sound
  | cons call rest ih =>
      rw [append_transcript_cons] at few
      exact ih (sound.run follows.different call.files call.request)
        (follows.run call.files call.request few.of_append) few

theorem mem_released_runAll (released : number ∈ registry.released.map Prod.fst)
    (calls : List Call) : number ∈ (registry.runAll calls).released.map Prod.fst := by
  induction calls generalizing registry with
  | nil => exact released
  | cons call rest ih => exact ih (mem_released_run released call.files call.request)

theorem follows_new (settings : Settings) : (new settings).Follows [] :=
  ⟨rfl, rfl, List.Perm.refl _, by simp [numbers, new, Live], List.Pairwise.nil⟩

theorem sound_new (settings : Settings) : (new settings).Sound :=
  ⟨List.forall_mem_nil _, List.forall_mem_nil _⟩

end Runs

section Faithfulness

theorem opened?_of_closes {request : Request} (closes : request.Closes number) :
    Entry.opened? ⟨request, (registry.run files request).1⟩ = none := by
  cases request with
  | close closed => rfl
  | closeAll => rfl
  | openFile path => exact closes.elim
  | ask asked request => exact closes.elim

namespace Follows

theorem ncard_live (follows : registry.Follows history) :
    {number | Live history number}.ncard = registry.size := by
  have found : {number | Live history number} = (registry.numbers.toFinset : Set Nat) := by
    ext number
    simp [follows.live]
  rw [found, Set.ncard_coe_finset, List.toFinset_card_of_nodup follows.sorted.nodup, numbers,
    List.length_map, size]

theorem get?_eq_some_iff (follows : registry.Follows history) :
    registry.get? number = some session ↔ (number, session) ∈ registry.sessions :=
  find?_eq_some_iff follows.sorted.nodup

theorem opened?_of_get? (follows : registry.Follows history)
    (found : registry.get? number = some session) : registry.opened? number = some session := by
  rw [opened?_eq_some_iff follows.different]
  exact List.mem_append_right _ (follows.get?_eq_some_iff.mp found)

theorem mem_known_of_issued (follows : registry.Follows history)
    (wasIssued : number ∈ issued history) : number ∈ registry.known.map Prod.fst :=
  follows.known.mem_iff.mpr wasIssued

theorem mem_known_runAll (follows : registry.Follows history)
    (isKnown : number ∈ registry.known.map Prod.fst) (calls : List Call)
    (few : Few (history ++ registry.transcript calls)) :
    number ∈ (registry.runAll calls).known.map Prod.fst := by
  apply (follows.runAll calls few).mem_known_of_issued
  rw [issued_append]
  exact List.mem_append_left _ (follows.known.mem_iff.mp isKnown)

/-- What is closed lies among the closed sessions then, also if it was closed before. -/
theorem mem_released_of_closes (follows : registry.Follows history) (few : Few history)
    (isKnown : number ∈ registry.known.map Prod.fst) {request : Request}
    (closes : request.Closes number) (files : FileTree CaptureFile) :
    number ∈ (registry.run files request).2.released.map Prod.fst := by
  have stillFew : Few (history ++ [⟨request, (registry.run files request).1⟩]) := by
    rw [Few, issued_concat, opened?_of_closes closes, Option.toList_none, List.append_nil]
    exact few
  have next := follows.run files request stillFew
  have stillKnown : number ∈ (registry.run files request).2.known.map Prod.fst :=
    follows.mem_known_runAll isKnown [⟨files, request⟩] stillFew
  have notFound : number ∉ (registry.run files request).2.numbers := by
    rw [next.live, live_concat_iff, opened?_of_closes closes]
    simp [closes]
  rw [Registry.known, List.map_append, List.mem_append] at stillKnown
  exact stillKnown.resolve_right notFound

theorem exists_shut (follows : registry.Follows history) (sound : registry.Sound)
    (released : number ∈ registry.released.map Prod.fst) :
    ∃ session, registry.opened? number = some session ∧ session.Shut := by
  rcases List.mem_map.mp released with ⟨⟨number, session⟩, isReleased, rfl⟩
  have stored : (number, session) ∈ registry.known := List.mem_append_left _ isReleased
  exact ⟨session, (opened?_eq_some_iff follows.different).mpr stored,
    (sound.joined _ stored).shut (sound.closed _ isReleased)⟩

theorem shut_of_closes (follows : registry.Follows history) (sound : registry.Sound)
    (found : number ∈ registry.numbers) {closing : Call} (closes : closing.request.Closes number)
    (before after : List Call)
    (few : Few (history ++ registry.transcript (before ++ closing :: after))) :
    ∃ session, (registry.runAll (before ++ closing :: after)).opened? number = some session ∧
      session.Shut := by
  have isKnown : number ∈ registry.known.map Prod.fst := by
    rw [Registry.known, List.map_append]
    exact List.mem_append_right _ found
  have fewBefore : Few (history ++ registry.transcript before) := by
    rw [transcript_append, ← List.append_assoc] at few
    exact few.of_append
  have released := (follows.runAll before fewBefore).mem_released_of_closes fewBefore
    (follows.mem_known_runAll isKnown before fewBefore) closes closing.files
  apply (follows.runAll _ few).exists_shut (sound.runAll follows _ few)
  rw [runAll_append]
  exact mem_released_runAll released after

/-- Closing a session leaves all others as they are. -/
theorem close_of_ne (follows : registry.Follows history) (different : other ≠ number) :
    (registry.close number).2.get? other = registry.get? other ∧
      (registry.close number).2.opened? other = registry.opened? other := by
  have closed := follows.close number none
  cases found : registry.get? number with
  | none =>
      rw [Registry.close, found]
      exact ⟨rfl, rfl⟩
  | some session =>
      rw [close_of_found found] at closed ⊢
      constructor
      · ext other
        rw [closed.get?_eq_some_iff, follows.get?_eq_some_iff, List.mem_filter]
        simp [different]
      · ext other
        rw [opened?_eq_some_iff closed.different, opened?_eq_some_iff follows.different]
        simp [Registry.known, different]

end Follows

/-- After any run of a registry in which fewer sessions are opened than there are numbers: the numbers
issued are one, two, three and so on; an attempt to open a session that fails changes nothing; a number
is found, listed and can be closed exactly if it was issued and not closed since; the numbers are
counted, and listed in increasing order; a session that is found is the one opened under its number, and
once its number or all sessions were closed it is closed for good, whatever happens before and after, if
the sessions opened by then are few as well; and closing a number leaves the sessions of others as they
are. -/
theorem finds_exactly_the_live (settings : Settings) (calls : List Call)
    (few : Few ((new settings).transcript calls)) :
    let registry := (new settings).runAll calls
    let history := (new settings).transcript calls
    issued history = List.range' 1 (issued history).length ∧
    (∀ files path, (∀ number, (registry.openFile files path).1 ≠ .ok number) →
      (registry.openFile files path).2 = registry) ∧
    (∀ number, ((registry.get? number).isSome ↔ Live history number) ∧
      (number ∈ registry.numbers ↔ Live history number) ∧
      ((registry.close number).1.isSome ↔ Live history number)) ∧
    registry.size = {number | Live history number}.ncard ∧
    registry.numbers.Pairwise (· < ·) ∧
    (∀ number session, registry.get? number = some session →
      registry.opened? number = some session ∧
      ∀ (before : List Call) (closing : Call) (after : List Call),
        closing.request = .close number ∨ closing.request = .closeAll →
        Few (history ++ registry.transcript (before ++ closing :: after)) →
        ∃ now, (registry.runAll (before ++ closing :: after)).opened? number = some now ∧ now.Shut) ∧
    ∀ number other, other ≠ number →
      (registry.close number).2.get? other = registry.get? other ∧
        (registry.close number).2.opened? other = registry.opened? other := by
  intro registry history
  have follows : registry.Follows history := (follows_new settings).runAll calls few
  have sound : registry.Sound := (sound_new settings).runAll (follows_new settings) calls few
  refine ⟨follows.consecutive, ?_, ?_, follows.ncard_live.symm, follows.sorted, ?_, ?_⟩
  · intro files path failed
    rcases registry.openFile_cases files path with ⟨session, _, added⟩ | ⟨_, same⟩
    · rw [added] at failed
      exact absurd rfl (failed registry.next)
    · exact same
  · intro number
    rw [isSome_get?_iff, isSome_close_iff]
    exact ⟨follows.live number, follows.live number, follows.live number⟩
  · intro number session found
    refine ⟨follows.opened?_of_get? found, ?_⟩
    intro before closing after closes stillFew
    have listed : number ∈ registry.numbers := isSome_get?_iff.mp (Option.isSome_of_eq_some found)
    have covers : closing.request.Closes number := by
      rcases closes with same | all
      · rw [same]
        exact rfl
      · rw [all]
        trivial
    exact follows.shut_of_closes sound listed covers before after stillFew
  · intro number other different
    exact follows.close_of_ne different

/-- A capture without records that can be opened under the name "t". -/
def emptyTrace : FileTree CaptureFile :=
  Session.singleFile
    { info := some (.ofText "0;0;0;0\n"), rules := some (.ofText "")
      nodes := some (.ofText ""), input := some (.ofText "") }

theorem exists_emptyTrace :
    ∃ session, Session.openFile emptyTrace .defaults "t" = .ok session ∧
      session.closed = false := by
  have readable : Capture.openHeader (.ofText "0;0;0;0\n") = .ok ⟨0, 0, 0, 0⟩ := by
    decide +kernel
  rcases Session.exists_of_singleFile readable (by decide) "" "" "" (by decide) with
    ⟨session, opened, _⟩
  rcases Session.exists_of_openFile opened with ⟨_, _, _, _, _, _, _, isOpen⟩
  exact ⟨session, opened, isOpen⟩

/-- The capture is opened twice, and in between something that is not there. -/
def twoOpenings : List Call :=
  [⟨emptyTrace, .openFile "t"⟩, ⟨emptyTrace, .openFile ""⟩, ⟨emptyTrace, .openFile "t"⟩]

theorem first_of_twoOpenings_is_closed :
    let registry := (new .defaults).runAll twoOpenings
    registry.numbers = [1, 2] ∧
    (∃ session, registry.get? 1 = some session ∧ session.closed = false) ∧
    (∃ session, (registry.runAll [⟨emptyTrace, .close 1⟩]).opened? 1 = some session ∧
      session.Shut) ∧
    (registry.close 1).2.get? 2 = registry.get? 2 := by
  intro registry
  rcases exists_emptyTrace with ⟨session, opened, isOpen⟩
  have missing : Session.openFile emptyTrace .defaults "" = .error (.fileNotFound "") := rfl
  have both : registry.sessions = [(1, session), (2, session)] := by
    simp only [registry, twoOpenings, runAll, List.foldl_cons, List.foldl_nil, run, openFile, new,
      settings_add, opened, missing]
    rfl
  have found : registry.get? 1 = some session := by
    rw [get?, both]
    rfl
  have few : Few ((new .defaults).transcript twoOpenings) := few_transcript _ (by decide)
  have stillFew : Few ((new .defaults).transcript twoOpenings ++
      registry.transcript [⟨emptyTrace, .close 1⟩]) := by
    rw [← transcript_append]
    exact few_transcript _ (by decide)
  rcases finds_exactly_the_live .defaults twoOpenings few with ⟨_, _, _, _, _, shut, untouched⟩
  refine ⟨?_, ⟨session, found, isOpen⟩, ?_, (untouched 1 2 (by decide)).1⟩
  · rw [numbers, both]
    rfl
  · exact (shut 1 session found).2 [] ⟨emptyTrace, .close 1⟩ [] (Or.inl rfl) stillFew

end Faithfulness

section Exhaustion

variable {path : String}

/-- Opening the same file again and again issues numbers in order, which start again behind the
last. -/
theorem issued_replicate_openFile (inRange : registry.next < countLimit)
    (opened : Session.openFile files registry.settings path = .ok session) (count : Nat) :
    issued (registry.transcript (List.replicate count ⟨files, .openFile path⟩)) =
      (List.range count).map fun index => (registry.next + index) % countLimit := by
  induction count generalizing registry with
  | zero => rfl
  | succ count ih =>
      have added : registry.run files (.openFile path) =
          (.ok (.opened registry.next), registry.add session) := by
        rw [run, openFile, opened]
        rfl
      have nextInRange : (registry.add session).next < countLimit :=
        Nat.mod_lt _ (Nat.zero_lt_of_lt inRange)
      rw [List.replicate_succ, transcript, added]
      change registry.next :: issued ((registry.add session).transcript _) = _
      rw [ih nextInRange opened, List.range_succ_eq_map, List.map_cons, List.map_map, Nat.add_zero,
        Nat.mod_eq_of_lt inRange]
      refine congrArg _ (List.map_congr_left fun index _ => ?_)
      simp only [Registry.add, Function.comp_apply, Nat.mod_add_mod, Nat.add_assoc,
        Nat.succ_eq_add_one, Nat.add_comm 1]

/-- If one session more is opened than there are numbers, the first number is issued again. -/
theorem numbers_start_again :
    let calls : List Call := List.replicate (countLimit + 1) ⟨emptyTrace, .openFile "t"⟩
    let history := (new .defaults).transcript calls
    ¬(issued history).Nodup ∧ issued history ≠ List.range' 1 (issued history).length := by
  intro calls history
  rcases exists_emptyTrace with ⟨session, opened, _⟩
  have start : (new .defaults).next < countLimit := by decide
  have numbered : issued history =
      (List.range (countLimit + 1)).map fun index => (1 + index) % countLimit :=
    issued_replicate_openFile start opened _
  have repeated : ¬(issued history).Nodup := by
    intro different
    rw [numbered, List.nodup_iff_getElem?_ne_getElem?] at different
    apply different 0 countLimit (by decide) (by simp)
    simp [countLimit]
  refine ⟨repeated, fun consecutive => repeated ?_⟩
  rw [consecutive]
  exact List.nodup_range'

end Exhaustion

end Registry

end ParseTrace
