import ParseTrace.CommandLine.Run
import ParseTrace.Proofs.Load.Watching
import ParseTrace.Proofs.Session.Requests
import ParseTrace.Proofs.Statistics.Tables
import ParseTrace.Proofs.Store.Reach

/-!
# Reports on a loaded trace

A trace that opens and is loaded to its end is reported on. What is left to fail are the questions
that a report asks. The time of the whole parse is that of the first invocation, so a trace without
invocations has none; and a table is refused if the total of one of its rows is too large.
-/

namespace ParseTrace

variable {files : FileTree CaptureFile} {settings : Settings} {trace : String}
  {session : Session} {store : Store}

namespace Session

theorem watchLoad_of_ready (ready : session.store.tracker.state = .ready) (bound : Nat) :
    (session.watchLoad bound).1 = .ended .alreadyReady := by
  rw [watchLoad, Watch.poll_of_ready bound ready]

end Session

namespace Statistics

theorem exists_byKind (isOpen : store.closed = false) : ∃ rows, byKind store = .ok rows :=
  ⟨_, Store.whenOpen_of_open isOpen _⟩

theorem exists_totalParseTime (isOpen : store.closed = false) (invoked : 0 < store.nodes.size) :
    ∃ nanos, totalParseTime store = .ok nanos := by
  have found : store.node? rootNode = some store.nodes[0] := by
    simp [Store.node?, Store.nodeAt?, rootNode, invoked]
  rw [totalParseTime, Store.whenOpen_of_open isOpen, found]
  exact ⟨_, rfl⟩

theorem totalParseTime_of_empty (isOpen : store.closed = false) (empty : store.nodes.size = 0) :
    totalParseTime store = .error (.notFound rootNode) := by
  have absent : store.node? rootNode = none := by
    simp [Store.node?, Store.nodeAt?, rootNode, empty]
  rw [totalParseTime, Store.whenOpen_of_open isOpen, absent]

end Statistics

namespace CommandLine

open Statistics (ruleTally classTally classNames byRule_eq byClass_eq)

/-- The exit of a command that printed what it was asked for. -/
def Exit.Succeeds (exit : Exit) : Prop :=
  ∃ output, exit = ⟨0, output, none⟩

theorem Exit.not_succeeds {exit : Exit} {message : String}
    (failed : exit = ⟨1, "", some message⟩) : ¬exit.Succeeds := by
  rintro ⟨output, succeeded⟩
  rw [failed] at succeeded
  cases succeeded

section Present

variable {α : Type} {format : Format} {answer : Except TraceError α} {asJson asText : α → String}

/-- Shows an answer in one of two forms. -/
def present (format : Format) (answer : Except TraceError α) (asJson asText : α → String) :
    Except TraceError String := do
  let value ← answer
  if format.json then return asJson value
  return asText value

theorem present_of_ok (format : Format) (asJson asText : α → String) {value : α}
    (got : answer = .ok value) : ∃ text, present format answer asJson asText = .ok text := by
  simp only [present, got, bind, Except.bind]
  split
  · exact ⟨_, rfl⟩
  · exact ⟨_, rfl⟩

theorem present_of_error {cause : TraceError} (refused : answer = .error cause) :
    present format answer asJson asText = .error cause := by
  simp only [present, refused, bind, Except.bind]

theorem infoView_eq_present (format : Format) (session : Session) :
    ∃ asJson asText, infoView format session =
      present format (Statistics.totalParseTime session.store) asJson asText :=
  ⟨_, _, rfl⟩

theorem typesView_eq_present (format : Format) (session : Session) :
    ∃ asJson asText, typesView format session =
      present format (Statistics.byKind session.store) asJson asText :=
  ⟨_, _, rfl⟩

theorem rulesView_eq_present (format : Format) (session : Session) :
    ∃ asJson asText, rulesView format session =
      present format (Statistics.byRule session.store) asJson asText :=
  ⟨_, _, rfl⟩

theorem classesView_eq_present (format : Format) (session : Session) :
    ∃ asJson asText, classesView format session =
      present format (Statistics.byClass session.store) asJson asText :=
  ⟨_, _, rfl⟩

end Present

section Loaded

variable {α : Type} {view : Session → Except TraceError String} {answer : Except TraceError α}
  {styled : Bool} {arguments : List String} {command : Command} {json : Bool}

/-- Behind a load that has ended well a command prints what it has to show. -/
theorem run_eq_of_shown (opened : Session.openFile files settings trace = .ok session)
    (ready : session.store.tracker.state = .ready)
    (request : readRequest arguments = .run command json)
    (runs : runCommand files settings ⟨json, styled⟩ command =
      withSession files settings trace view)
    {text : String} (shown : view session = .ok text) :
    run files settings styled arguments = ⟨0, text, none⟩ := by
  -- Opening and loading are settled, so nothing but the view is left to fail.
  simp only [run, request, runs, withSession, opened, Session.watchLoad_of_ready ready, shown,
    Ending.exit]

theorem run_of_shown (opened : Session.openFile files settings trace = .ok session)
    (ready : session.store.tracker.state = .ready)
    (request : readRequest arguments = .run command json)
    (runs : runCommand files settings ⟨json, styled⟩ command =
      withSession files settings trace view)
    {text : String} (shown : view session = .ok text) :
    (run files settings styled arguments).Succeeds :=
  ⟨text, run_eq_of_shown opened ready request runs shown⟩

/-- A command that presents an answer succeeds if there is one. -/
theorem run_of_ok (opened : Session.openFile files settings trace = .ok session)
    (ready : session.store.tracker.state = .ready)
    (request : readRequest arguments = .run command json)
    (runs : runCommand files settings ⟨json, styled⟩ command =
      withSession files settings trace view)
    (presents : ∃ asJson asText, view session = present ⟨json, styled⟩ answer asJson asText)
    {value : α} (got : answer = .ok value) : (run files settings styled arguments).Succeeds := by
  rcases presents with ⟨asJson, asText, presented⟩
  rcases present_of_ok ⟨json, styled⟩ asJson asText got with ⟨text, shown⟩
  exact run_of_shown opened ready request runs (presented.trans shown)

theorem run_of_error (opened : Session.openFile files settings trace = .ok session)
    (ready : session.store.tracker.state = .ready)
    (request : readRequest arguments = .run command json)
    (runs : runCommand files settings ⟨json, styled⟩ command =
      withSession files settings trace view)
    (presents : ∃ asJson asText, view session = present ⟨json, styled⟩ answer asJson asText)
    {cause : TraceError} (refused : answer = .error cause) :
    run files settings styled arguments = ⟨1, "", some ("Error: " ++ cause.message)⟩ := by
  rcases presents with ⟨asJson, asText, presented⟩
  simp only [run, request, runs, withSession, opened, Session.watchLoad_of_ready ready, presented,
    present_of_error refused, Ending.exit]
  rfl

end Loaded

/-- Reports on a trace that opened and is loaded to its end, for all ways to ask for them. The kinds
are always shown. The summary is shown if there is an invocation, and otherwise the missing root is
named. A table is shown if the total time of each of its rows is a signed integer of 64 bits. -/
theorem loaded_trace_is_reported (opened : Session.openFile files settings trace = .ok session)
    (ready : session.store.tracker.state = .ready) (styled : Bool) (arguments : List String)
    (json : Bool) :
    (readRequest arguments = .run (.types trace) json →
      (run files settings styled arguments).Succeeds) ∧
    (readRequest arguments = .run (.info trace) json →
      ((run files settings styled arguments).Succeeds ↔ 0 < session.store.nodes.size) ∧
      (session.store.nodes.size = 0 →
        run files settings styled arguments = ⟨1, "", some "Error: Node 0 not found"⟩)) ∧
    (readRequest arguments = .run (.rules trace false) json →
      (∀ rule ∈ session.store.rules,
        (ruleTally session.store rule.id).totalNanos ≤ Store.maxStoredNanos) →
      (run files settings styled arguments).Succeeds) ∧
    (readRequest arguments = .run (.rules trace true) json →
      (∀ className ∈ classNames session.store.rules,
        (classTally session.store className).totalNanos ≤ Store.maxStoredNanos) →
      (run files settings styled arguments).Succeeds) := by
  have isOpen := Session.isOpen_of_openFile opened
  refine ⟨?_, ?_, ?_, ?_⟩
  · intro request
    rcases Statistics.exists_byKind isOpen with ⟨rows, got⟩
    exact run_of_ok opened ready request rfl (typesView_eq_present _ session) got
  · intro request
    have empty : session.store.nodes.size = 0 →
        run files settings styled arguments = ⟨1, "", some "Error: Node 0 not found"⟩ := by
      intro none
      exact run_of_error opened ready request rfl (infoView_eq_present _ session)
        (Statistics.totalParseTime_of_empty isOpen none)
    refine ⟨⟨?_, ?_⟩, empty⟩
    · intro succeeded
      apply Nat.pos_of_ne_zero
      intro none
      exact Exit.not_succeeds (empty none) succeeded
    · intro invoked
      rcases Statistics.exists_totalParseTime isOpen invoked with ⟨nanos, got⟩
      exact run_of_ok opened ready request rfl (infoView_eq_present _ session) got
  · intro request fits
    have got := byRule_eq isOpen
    rw [if_pos fits] at got
    exact run_of_ok opened ready request rfl (rulesView_eq_present _ session) got
  · intro request fits
    have got := byClass_eq isOpen
    rw [if_pos fits] at got
    exact run_of_ok opened ready request rfl (classesView_eq_present _ session) got

/-- One archive with the given entries and a short input. -/
def traceFiles (header rules nodes : String) : FileTree CaptureFile :=
  Session.singleFile
    { info := some (.ofText header), rules := some (.ofText rules)
      nodes := some (.ofText nodes), input := some (.ofText "ab") }

/-- What is loaded from these entries. -/
def traceStore (header : Header) (rules nodes : String) : Store :=
  ((Store.create "t" header).load
    ⟨header, .ofText rules, .ofText nodes, .ofText "ab"⟩
    Settings.defaults.batchSize).2

theorem exists_opened (header rules nodes : String) {parsed : Header}
    (readable : Capture.openHeader (.ofText header) = .ok parsed)
    (few : ¬countLimit ≤ parsed.ruleCount + parsed.nodeCount) :
    ∃ session, Session.openFile (traceFiles header rules nodes) .defaults "t" = .ok session ∧
      session.store = traceStore parsed rules nodes := by
  rcases Session.exists_of_singleFile readable few rules nodes "ab" (by decide) with
    ⟨session, opened, _, store⟩
  exact ⟨session, opened, store⟩

/-- A trace with no rule and no invocation. -/
def emptyTrace : FileTree CaptureFile := traceFiles "0;0;0;0\n" "" ""

/-- The record of a rule. -/
def letter : String := "0;CharMatcher;TERMINAL;Letter\n"

/-- The records of two invocations of this rule, which took the given times. -/
def calls (first second : String) : String :=
  "-1;0;0;1;0;0;2;" ++ first ++ "\n0;1;1;1;0;0;1;" ++ second ++ "\n"

/-- A trace with two invocations. -/
def twoCalls (first second : String) : FileTree CaptureFile :=
  traceFiles "0;1;2;2\n" letter (calls first second)

theorem exists_twoCalls (first second : String) :
    ∃ session, Session.openFile (twoCalls first second) .defaults "t" = .ok session ∧
      session.store = traceStore ⟨0, 1, 2, 2⟩ letter (calls first second) :=
  exists_opened "0;1;2;2\n" letter (calls first second) (by decide +kernel) (by decide)

theorem twoCalls_are_reported :
    (run (twoCalls "5" "3") .defaults true ["types", "--json", "t"]).Succeeds ∧
    (run (twoCalls "5" "3") .defaults true ["info", "t"]).Succeeds ∧
    (run (twoCalls "5" "3") .defaults true ["rules", "t"]).Succeeds ∧
    (run (twoCalls "5" "3") .defaults true ["rules", "--by-class", "t"]).Succeeds := by
  rcases exists_twoCalls "5" "3" with ⟨session, opened, store⟩
  have ready : session.store.tracker.state = .ready := by
    rw [store]
    decide +kernel
  have reported := loaded_trace_is_reported opened ready true
  refine ⟨?_, ?_, ?_, ?_⟩
  · exact (reported ["types", "--json", "t"] true).1 (by decide +kernel)
  · apply ((reported ["info", "t"] false).2.1 (by decide +kernel)).1.mpr
    rw [store]
    decide +kernel
  · apply (reported ["rules", "t"] false).2.2.1 (by decide +kernel)
    rw [store]
    decide +kernel
  · apply (reported ["rules", "--by-class", "t"] false).2.2.2 (by decide +kernel)
    rw [store]
    decide +kernel

/-- A trace without invocations is loaded, and then its summary is refused. So are the tables of a
trace in which each time is a signed integer of 64 bits, but not their sum. -/
theorem loaded_traces_are_refused :
    (∃ session, Session.openFile emptyTrace .defaults "t" = .ok session ∧
      session.store.tracker.state = .ready ∧
      ¬(run emptyTrace .defaults false ["info", "t"]).Succeeds) ∧
    ∃ session, Session.openFile (twoCalls "9223372036854775807" "1") .defaults "t" = .ok session ∧
      session.store.tracker.state = .ready ∧
      ¬(run (twoCalls "9223372036854775807" "1") .defaults false ["rules", "t"]).Succeeds ∧
      ¬(run (twoCalls "9223372036854775807" "1") .defaults false
        ["rules", "--by-class", "t"]).Succeeds := by
  constructor
  · have readable : Capture.openHeader (.ofText "0;0;0;0\n") = .ok ⟨0, 0, 0, 0⟩ := by
      decide +kernel
    rcases exists_opened "0;0;0;0\n" "" "" readable (by decide) with ⟨session, opened, store⟩
    have ready : session.store.tracker.state = .ready := by
      rw [store]
      decide +kernel
    have none : Statistics.totalParseTime session.store = .error (.notFound rootNode) := by
      rw [store]
      decide +kernel
    have request : readRequest ["info", "t"] = .run (.info "t") false := by decide +kernel
    refine ⟨session, opened, ready, ?_⟩
    exact Exit.not_succeeds
      (run_of_error opened ready request rfl (infoView_eq_present _ session) none)
  · rcases exists_twoCalls "9223372036854775807" "1" with ⟨session, opened, store⟩
    have ready : session.store.tracker.state = .ready := by
      rw [store]
      decide +kernel
    have rules : Statistics.byRule session.store = .error (.storage .sumOverflow) := by
      rw [store]
      decide +kernel
    have classes : Statistics.byClass session.store = .error (.storage .sumOverflow) := by
      rw [store]
      decide +kernel
    have request : readRequest ["rules", "t"] = .run (.rules "t" false) false := by decide +kernel
    have classRequest : readRequest ["rules", "--by-class", "t"] = .run (.rules "t" true) false := by
      decide +kernel
    refine ⟨session, opened, ready, ?_, ?_⟩
    · exact Exit.not_succeeds
        (run_of_error opened ready request rfl (rulesView_eq_present _ session) rules)
    · exact Exit.not_succeeds
        (run_of_error opened ready classRequest rfl (classesView_eq_present _ session) classes)

end CommandLine

end ParseTrace
