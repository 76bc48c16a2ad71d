import MScale.BoundaryMemory
import MScale.ResultParsers
import MScale.ScannerRuns

/-!
# The suites that search for the highest rate

`RunSuitMaxRate` of the ZMQ and of the Kafka test goes through a set of client
counts.  For each it scales the subscribers and searches for the highest rate
and for a rate without drops; the ZMQ suite may go on to search for such rates
with slow and with reconnecting clients.  All searches run tests on one runner
and share one options object.  The runner of the test is given by its
`TestParts`.
-/

namespace MScale

/-- The values of the options that the suites read and set. -/
inductive OptionValue
  | number (value : ℚ)
  | flag (value : Bool)
  deriving DecidableEq, Repr

namespace OptionValue

/-- Python's truth value. -/
def truthy : OptionValue → Bool
  | number value => value ≠ 0
  | flag value => value

/-- Python's truth values are numbers. -/
def toNumber : OptionValue → ℚ
  | number value => value
  | flag value => if value then 1 else 0

end OptionValue

namespace RunSuitMaxRate

open BoundaryRunnerBase StateErrors Scanner

abbrev Results := Dict PyNumber

/-- What a suite searches for. -/
inductive Search
  | maxRate
  | noDrop
  | slowClients
  | recClients
  deriving DecidableEq, Repr

/-- A line of the log that reports what a search found, and the calls of the
runner before it. -/
structure Found where
  clientCount : Nat
  search : Search
  result : MaxRateResult ⊕ SearchResult
  calls : Nat

/-- A suite while it runs: its runner with the options, and its log. -/
structure SuitState where
  runner : State OptionValue Results
  log : List Found

/-- How a suite ends early. -/
inductive SuitStop
  | raised (error : PyError)
  | badResult (error : ResultError)
  | zeroDivision
  | typeError
  | unfinished
  deriving DecidableEq, Repr

abbrev SuitM := EStateM SuitStop SuitState

/-- What differs between the two suites. -/
structure Suit where
  clientSet : List Nat
  options : List (String × OptionValue)
  clientOptions : List String
  boundaryResultfn : ℚ → Results →
    Except ResultError (Bool × PyNumber × PyNumber)
  flakySearches : Bool

/-- `hydra.zmqtest.maxrate_test`. -/
def zmqtest : Suit where
  clientSet := [30, 60, 90, 180, 500, 1000, 2000, 4000, 8000]
  options :=
    [("msg_rate", .number 10000), ("keep_running", .flag false),
      ("slow_clients_percent", .number 0), ("rec_clients_percent", .number 0)]
  clientOptions := ["slow_clients_percent", "reconnecting_clients_percent"]
  boundaryResultfn := RunTestZMQ.boundaryResultfn
  flakySearches := true

/-- `hydra.kafkatest.maxrate_test`. -/
def kafkatest : Suit where
  clientSet := [30, 60, 120, 240, 480, 960, 1920, 3840, 7680, 10000]
  options :=
    [("msg_batch", .number 100), ("msg_rate", .number 10000),
      ("keep_running", .flag false), ("acks", .number 0),
      ("linger_ms", .number 0), ("consumer_max_buffer_size", .number 0)]
  clientOptions := []
  boundaryResultfn := RunTestKAFKA.boundaryResultfn
  flakySearches := false

/-- The methods of the runner, besides its tests, that a suite calls. -/
structure Applications where
  construct : Options OptionValue → Except PyError Unit
  startAppserver : Except PyError Unit
  scaleSubApp : List (TestCall OptionValue) → Options OptionValue →
    Except PyError Unit
  stopAppserver : Except PyError Unit

/-- Run a method of the runner. -/
def onRunner {Value : Type} (method : BoundaryM OptionValue Results Value) :
    SuitM Value := fun state =>
  match method state.runner with
  | .ok value runner => .ok value { state with runner := runner }
  | .error error runner => .error (.raised error) { state with runner := runner }

/-- `setattr` on the options object, which the runner shares. -/
def setOption (name : String) (value : OptionValue) : SuitM Unit :=
  modify fun state =>
    { state with
      runner :=
        { state.runner with
          boundaryOptions := setattr state.runner.boundaryOptions name value } }

def setOptions : List (String × OptionValue) → SuitM Unit
  | [] => pure ()
  | (name, value) :: options => do
      setOption name value
      setOptions options

def getOption (name : String) : SuitM OptionValue := do
  return (← get).runner.boundaryOptions name

variable (suit : Suit) (apps : Applications)
  (parts : TestParts OptionValue Results) (fuel : Nat)

/-- What `boundary_run` makes of the results of a test. -/
def resfn (options : Options OptionValue) (res : Results) :
    Except ResultError (Bool × PyNumber × PyNumber) :=
  suit.boundaryResultfn (options "msg_rate").toNumber res

/-- `runner.run`. -/
def run (value : ℚ) : SuitM Measurement := do
  match ← onRunner (boundaryRun parts.runner (resfn suit) (.number value)) with
  | .ok (status, rate, drop) => pure ⟨status, rate.value, drop.value⟩
  | .error error => throw (.badResult error)

def logFound (clientCount : Nat) (search : Search)
    (result : MaxRateResult ⊕ SearchResult) : SuitM Unit :=
  modify fun state =>
    { state with
      log := state.log ++
        [⟨clientCount, search, result, state.runner.calls.length⟩] }

/-- The rate at which the search for the highest rate starts. -/
def startingRate (clientCount : Nat) : ℚ :=
  if clientCount < 50 then 30000
  else if clientCount < 200 then 10000
  else 500

/-- The search for the highest rate, which returns it with its drop. -/
def findMaxRate (clientCount : Nat) : SuitM (ℚ × ℚ) := do
  match ← findMaxRateWith (run suit parts) .unfinished (startingRate clientCount)
    fuel with
  | .ok ⟨status, some rate, some drop⟩ =>
      logFound clientCount .maxRate (.inl ⟨status, some rate, some drop⟩)
      pure (rate, drop)
  | .ok _ => throw .typeError
  | .error _ => throw .zeroDivision

/-- A search that starts at half the highest rate.  The half is exact here;
where that rate is an `int`, Python 2 rounds it down. -/
def searchBelow (clientCount : Nat) (search : Search) (maxRate : ℚ) :
    SuitM SearchResult := do
  let result ← searchWith (run suit parts) .unfinished (maxRate / 2) (1 / 2)
    (1 / 100) fuel
  logFound clientCount search (.inr result)
  pure result

/-- The search without drops, unless the highest rate has none. -/
def findNoDropRate (clientCount : Nat) (rate drop : ℚ) : SuitM ℚ :=
  if drop ≠ 0 then do
    let result ← searchBelow suit parts fuel clientCount .noDrop rate
    pure result.bestRate
  else
    pure rate

/-- The searches with slow and with reconnecting clients. -/
def findFlakyRates (clientCount : Nat) (rate noDropRate : ℚ) : SuitM Unit := do
  setOption "slow_clients_percent" (.number 10)
  setOption "slow_clients_rate" (.number (1 / 2 * noDropRate))
  setOption "rec_clients_percent" (.number 0)
  setOption "rec_clients_rate" (.number 2)
  let _ ← searchBelow suit parts fuel clientCount .slowClients rate
  setOption "slow_clients_percent" (.number 0)
  setOption "slow_clients_rate" (.number (1 / 2 * noDropRate))
  setOption "rec_clients_percent" (.number 10)
  setOption "rec_clients_rate" (.number 2)
  let _ ← searchBelow suit parts fuel clientCount .recClients rate

def liftExcept (outcome : Except PyError Unit) : SuitM Unit :=
  match outcome with
  | .ok _ => pure ()
  | .error error => throw (.raised error)

/-- The first client count constructs the runner, the others rescale the
application of the subscribers. -/
def prepareRunner (first : Bool) : SuitM Unit := do
  let state ← get
  if first then
    liftExcept (apps.construct state.runner.boundaryOptions)
    set { state with
      runner := constructed state.runner.boundaryOptions false }
    liftExcept apps.startAppserver
  else
    liftExcept
      (apps.scaleSubApp state.runner.calls state.runner.boundaryOptions)

/-- One round of the loop over the client counts. -/
def searchClients (first : Bool) (clientCount : Nat) : SuitM Unit := do
  setOption "total_sub_apps" (.number (clientCount / 10 : Nat))
  setOptions (suit.clientOptions.map fun name => (name, .number 0))
  prepareRunner apps first
  let (rate, drop) ← findMaxRate suit parts fuel clientCount
  let noDropRate ← findNoDropRate suit parts fuel clientCount rate drop
  let flakyClients ← getOption "flaky_clients"
  if suit.flakySearches && flakyClients.truthy then
    findFlakyRates suit parts fuel clientCount rate noDropRate

def searchAll : Bool → List Nat → SuitM Unit
  | _, [] => pure ()
  | first, clientCount :: clientSet => do
      searchClients suit apps parts fuel first clientCount
      searchAll false clientSet

def deleteAllLaunchedApps : BoundaryM OptionValue Results Unit := fun state =>
  let after := { state with calls := state.calls ++ [.deleteAllLaunchedApps] }
  match parts.delete state.calls with
  | .ok _ => .ok () after
  | .error error => .error error after

/-- `RunSuitMaxRate(options)`. -/
def runSuit : SuitM Unit := do
  setOptions suit.options
  searchAll suit apps parts fuel true suit.clientSet
  onRunner (deleteAllLaunchedApps parts)
  liftExcept apps.stopAppserver

/-- A suite before it starts. -/
def suitStart (options : Options OptionValue) : SuitState :=
  ⟨constructed options false, []⟩

end RunSuitMaxRate

end MScale
