import ParseTrace.Trace.Error

/-!
# Background queries

A runner carries out jobs on workers of its own. A job sees which runner's worker it is on, and a
runner that is asked from one of its own workers to wait for all jobs does not wait, because it
would wait for the asking job too.
-/

namespace ParseTrace

/-- Carries out jobs on a number of workers. -/
structure Runner where
  id : Nat
  workers : Nat
  deriving DecidableEq, Repr

/-- Where code runs: on a worker of some runner, or on none. -/
abbrev Site := Option Nat

/-- A job, and what it does. -/
inductive Job (α : Type) where
  /-- Succeeds with a value. -/
  | succeed (value : α)
  | fail (error : TraceError)
  /-- Asks its own runner and another one whether it is on their workers. -/
  | locate
  /-- Waits for its own runner. -/
  | join
  /-- Submits a further job. -/
  | submit
  /-- Has another runner ask both the same. -/
  | locateElsewhere
  deriving DecidableEq, Repr

/-- What a job leaves behind. -/
inductive JobResult (α : Type) where
  | succeeded (value : α)
  | failed (error : TraceError)
  | located (first second : Bool)
  | joined
  | outer
  | inner
  deriving DecidableEq, Repr

namespace Runner

/-- A runner with at least one worker. -/
def create (id workers : Nat) : Runner :=
  ⟨id, max workers 1⟩

/-- The site of this runner's jobs. -/
def site (runner : Runner) : Site :=
  some runner.id

/-- Whether a site is one of this runner's workers. -/
def owns (runner : Runner) (site : Site) : Bool :=
  site == runner.site

/-- What a job submitted to a runner leaves behind, in the order in which it does. -/
def carryOut (runner other : Runner) : Job α → List (JobResult α)
  | .succeed value => [.succeeded value]
  | .fail error => [.failed error]
  | .locate => [.located (runner.owns runner.site) (other.owns runner.site)]
  | .join => [.joined]
  | .submit => [.outer, .inner]
  | .locateElsewhere => [.located (runner.owns other.site) (other.owns other.site)]

/-- What all jobs leave behind, each under the place of the job. -/
def carryOutAll (runner other : Runner) (jobs : List (Job α)) : List (Nat × JobResult α) :=
  let results := jobs.mapIdx fun index job =>
    (runner.carryOut other job).map fun result => (index, result)
  results.flatten

end Runner

end ParseTrace
