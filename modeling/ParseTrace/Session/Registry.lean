import ParseTrace.Session.Request

/-!
# The registry of sessions

A registry opens sessions and hands out a number for each, by which it is found until it is closed.
Numbers start at one, and an attempt to open a session that fails uses none up. Numbers have 64
bits; only after the last of them do they start again, now from zero. Who still holds a closed
session can go on asking it, so the registry remembers those, but no longer finds them.
-/

namespace ParseTrace

/-- Sessions by number. -/
structure Registry where
  settings : Settings
  /-- The number of the next session. -/
  next : Nat
  /-- The sessions that can be found, in the order of their numbers. -/
  sessions : List (Nat × Session)
  /-- The sessions that were closed here. -/
  released : List (Nat × Session)

namespace Registry

/-- A registry without sessions. -/
def new (settings : Settings) : Registry := ⟨settings, 1, [], []⟩

/-- Enters a session under a number, where entries are kept in the order of their numbers. A session
that was entered under the same number before is forgotten. -/
def enter (number : Nat) (session : Session) (entries : List (Nat × Session)) :
    List (Nat × Session) :=
  entries.filter (·.1 < number) ++ (number, session) :: entries.filter (number < ·.1)

/-- Adds a session under the next number. -/
def add (registry : Registry) (session : Session) : Registry :=
  { registry with
    next := (registry.next + 1) % countLimit
    sessions := enter registry.next session registry.sessions }

/-- Opens a session and returns its number. -/
def openFile (registry : Registry) (files : FileTree CaptureFile) (path : String) :
    Outcome Nat × Registry :=
  match Session.openFile files registry.settings path with
  | .ok session => (.ok registry.next, registry.add session)
  | .error cause => (.error cause, registry)
  | .crash cause => (.crash cause, registry)

/-- The session with a number. -/
def get? (registry : Registry) (number : Nat) : Option Session :=
  (registry.sessions.find? (·.1 == number)).map Prod.snd

/-- The numbers of all sessions that can be found. -/
def numbers (registry : Registry) : List Nat :=
  registry.sessions.map Prod.fst

/-- How many sessions can be found. -/
def size (registry : Registry) : Nat :=
  registry.sessions.length

/-- Puts another session under a number that is in use. -/
def put (number : Nat) (session : Session) (entries : List (Nat × Session)) :
    List (Nat × Session) :=
  entries.map fun entry => if entry.1 == number then (number, session) else entry

/-- Replaces the session that was opened under a number, closed or not. -/
def replace (registry : Registry) (number : Nat) (session : Session) : Registry :=
  { registry with
    sessions := put number session registry.sessions
    released := put number session registry.released }

/-- Closes the session with a number and forgets the number. The answer says whether there was
one, and what its closing came to. -/
def close (registry : Registry) (number : Nat) : Option Session.Closing × Registry :=
  match registry.get? number with
  | none => (none, registry)
  | some session =>
      let (closing, session) := session.close
      (some closing,
        { registry with
          sessions := registry.sessions.filter (·.1 != number)
          released := registry.released ++ [(number, session)] })

/-- Closes all sessions, in the order of their numbers. -/
def closeAll (registry : Registry) : List Session.Closing × Registry :=
  let closed := registry.sessions.map fun (number, session) =>
    let (closing, session) := session.close
    (closing, number, session)
  (closed.map Prod.fst,
    { registry with sessions := [], released := registry.released ++ closed.map Prod.snd })

/-- All sessions ever opened, in the order of their numbers. -/
def history (registry : Registry) : List (Nat × Session) :=
  (registry.released ++ registry.sessions).mergeSort fun left right => left.1 ≤ right.1

/-- The session that was opened under a number, closed or not. -/
def opened? (registry : Registry) (number : Nat) : Option Session :=
  (registry.history.find? (·.1 == number)).map Prod.snd

/-- Requests that open, close or use sessions. -/
inductive Request where
  | openFile (path : String)
  | close (number : Nat)
  | closeAll
  /-- Asks the session that was opened under a number, closed or not. -/
  | ask (number : Nat) (request : Session.Request)
  deriving Repr

/-- What such requests are answered with. -/
inductive Reply where
  | opened (number : Nat)
  | closed (closing : Option Session.Closing)
  | allClosed (closings : List Session.Closing)
  /-- The answer of the session, if there is one. -/
  | answered (reply : Option Session.Reply)
  deriving Repr

/-- The answer to a request and the registry that it leaves behind. -/
def run (files : FileTree CaptureFile) (registry : Registry) : Request → Outcome Reply × Registry
  | .openFile path =>
      let (result, registry) := registry.openFile files path
      (result.map .opened, registry)
  | .close number =>
      let (closing, registry) := registry.close number
      (.ok (.closed closing), registry)
  | .closeAll =>
      let (closings, registry) := registry.closeAll
      (.ok (.allClosed closings), registry)
  | .ask number request =>
      match registry.opened? number with
      | none => (.ok (.answered none), registry)
      | some session =>
          let (reply, session) := session.run request
          (reply.map fun reply => .answered (some reply), registry.replace number session)

/-- A request together with the files that there are when it is made. -/
structure Call where
  files : FileTree CaptureFile
  request : Request

/-- The registry after a run. -/
def runAll (registry : Registry) (calls : List Call) : Registry :=
  calls.foldl (fun registry call => (registry.run call.files call.request).2) registry

/-- A request with its answer. -/
structure Entry where
  request : Request
  reply : Outcome Reply

/-- What is asked and answered in a run. -/
def transcript (registry : Registry) : List Call → List Entry
  | [] => []
  | call :: rest =>
      let (reply, registry) := registry.run call.files call.request
      ⟨call.request, reply⟩ :: transcript registry rest

/-- How a number is shown. -/
def showNumber (number : Nat) : String :=
  s!"#{number}"

/-- The registry in one line. -/
def describe (registry : Registry) : String :=
  let handles := registry.numbers.map fun number => s!"SessionHandle({number})"
  s!"SessionManager \x7b sessions: [" ++ ", ".intercalate handles ++ "] \x7d"

end Registry

end ParseTrace
