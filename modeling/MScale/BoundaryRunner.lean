import MScale.HydraBackend
import Mathlib.Data.List.AList

/-!
# The boundary runner

`BoundaryRunnerBase` runs a test with one of its options set to a given value,
remembers the result for that value, retries a test that raises, and passes the
result through a result function.  This file embeds the class.  The test itself
belongs to a subclass and is given as a `Runner`.
-/

namespace MScale

namespace BoundaryRunnerBase

/-- The attributes of an options object. -/
abbrev Options (Val : Type) := String → Val

/-- `setattr(options, name, value)`. -/
def setattr {Val : Type} (options : Options Val) (name : String) (value : Val) :
    Options Val :=
  Function.update options name value

/-- The methods of the subclass that `boundary_run` calls, with the options in
force at the call. -/
inductive TestCall (Val : Type)
  | runTest (options : Options Val)
  | rerunTest (options : Options Val)
  | deleteAllLaunchedApps

/-- How a test ended, and whether it called `boundary_setup` on the way. -/
structure TestReply (Res : Type) where
  setsUp : Bool
  outcome : Except PyError Res

/-- The subclass.  What a method does may depend on all earlier calls. -/
structure Runner (Val Res : Type) where
  runTest : List (TestCall Val) → Options Val → TestReply Res
  rerunTest : List (TestCall Val) → Options Val → TestReply Res
  deleteAllLaunchedApps : List (TestCall Val) → Except PyError Unit

/-- The attributes of `BoundaryRunnerBase`, and the calls made so far. -/
structure State (Val Res : Type) where
  boundaryOptions : Options Val
  boundaryArg1name : String
  boundaryRunResult : AList (fun _ : Val => Res)
  boundaryFirstRun : Bool
  calls : List (TestCall Val)

abbrev BoundaryM (Val Res : Type) := EStateM PyError (State Val Res)

section Run

variable {Val Res Answer : Type}

/-- `boundary_setup`; the result function is a parameter of `boundary_run`. -/
def boundarySetup (options : Options Val) (arg1name : String)
    (state : State Val Res) : State Val Res :=
  { state with
    boundaryOptions := options
    boundaryArg1name := arg1name
    boundaryRunResult := ∅ }

/-- Set the tuned option. -/
def setArg1 (arg1 : Val) (state : State Val Res) : State Val Res :=
  { state with
    boundaryOptions :=
      setattr state.boundaryOptions state.boundaryArg1name arg1 }

/-- Call a test.  A test that calls `boundary_setup` passes the options and the
name it was set up with before. -/
def callTest (call : TestCall Val) (reply : List (TestCall Val) → TestReply Res) :
    BoundaryM Val Res Res := fun state =>
  let reply := reply state.calls
  let state := { state with calls := state.calls ++ [call] }
  let state :=
    if reply.setsUp then
      boundarySetup state.boundaryOptions state.boundaryArg1name state
    else state
  match reply.outcome with
  | .ok res => .ok res state
  | .error error => .error error state

variable (runner : Runner Val Res)

/-- The `try` block of `boundary_run`, with its exception if it raises. -/
def tryTest (arg1 : Val) : BoundaryM Val Res (Except PyError Res) :=
  try
    let state ← get
    if state.boundaryFirstRun then
      let options := state.boundaryOptions
      let res ← callTest (.runTest options) (runner.runTest · options)
      modify fun state => { state with boundaryFirstRun := false }
      pure (.ok res)
    else
      modify (setArg1 arg1)
      let options := (← get).boundaryOptions
      let res ← callTest (.rerunTest options) (runner.rerunTest · options)
      pure (.ok res)
  catch error => pure (.error error)

/-- The `except` block of `boundary_run` up to the count of the tries. -/
def cleanUp : BoundaryM Val Res Unit := do
  let state ← get
  set { state with
    calls := state.calls ++ [TestCall.deleteAllLaunchedApps] }
  match runner.deleteAllLaunchedApps state.calls with
  | .ok _ => modify fun state => { state with boundaryFirstRun := true }
  | .error error => throw error

/-- The retry loop of `boundary_run`, with the number of retries left. -/
def attempts (arg1 : Val) : Nat → BoundaryM Val Res Res
  | 0 => do
      match ← tryTest runner arg1 with
      | .ok res => pure res
      | .error error =>
          cleanUp runner
          throw error
  | retries + 1 => do
      match ← tryTest runner arg1 with
      | .ok res => pure res
      | .error _ =>
          cleanUp runner
          attempts arg1 retries

variable [DecidableEq Val]

/-- `boundary_run`: the fifth failure is raised. -/
def boundaryRun (resfn : Options Val → Res → Answer) (arg1 : Val) :
    BoundaryM Val Res Answer := do
  let state ← get
  match state.boundaryRunResult.lookup arg1 with
  | some res => pure (resfn state.boundaryOptions res)
  | none =>
      modify (setArg1 arg1)
      let res ← attempts runner arg1 4
      modify fun state =>
        { state with
          boundaryRunResult := state.boundaryRunResult.insert arg1 res }
      pure (resfn (← get).boundaryOptions res)

end Run

end BoundaryRunnerBase

end MScale
