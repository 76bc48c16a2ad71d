import MScale.HydraBackend
import MScale.RetryDeadline
import Mathlib.Data.List.Infix

/-!
# The interface to Marathon

`MarathonIF` stands between the master and `MarathonClient`.  It repeats calls
that fail until a deadline, and it polls an application until it is ready or
removed.  This file embeds it over a Marathon that answers each call from
everything that happened before, the passing of time included.
-/

namespace MScale

/-- What a call of `MarathonClient` raises, with its text.  A `NotFoundError` is
a `MarathonHttpError`. -/
inductive McliError
  | notFoundError (text : String)
  | marathonHttpError (text : String)
  | other (text : String)
  deriving DecidableEq, Repr

/-- `str(e)`. -/
def McliError.text : McliError → String
  | .notFoundError text => text
  | .marathonHttpError text => text
  | .other text => text

/-- The calls of `MarathonClient`. -/
inductive McliCall
  | getApp (appId : String)
  | createApp (appId : String) (attr : MarathonApp)
  | deleteApp (appId : String) (force : Bool)
  | scaleApp (appId : String) (instances : Int)
  | deleteDeployment (depId : String)
  | killTask (appId taskId : String)
  deriving DecidableEq

abbrev McliCall.Answer : McliCall → Type
  | .getApp _ => App
  | .createApp _ _ => MarathonApp
  | _ => Unit

/-- What the interface does: it calls Marathon, looks at the clock, or
sleeps. -/
inductive McliEvent
  | called (call : McliCall) (answer : Except McliError call.Answer)
  | looked
  | slept (seconds : ℚ)

abbrev McliHistory := List McliEvent

/-- How long an event takes at least. -/
def McliEvent.seconds : McliEvent → ℚ
  | .slept seconds => max seconds 0
  | _ => 0

/-- A Marathon and the clock beside it.  Any event may take time, and a sleep
takes at least as long as it should. -/
structure Marathon where
  answer : McliHistory → (call : McliCall) → Except McliError call.Answer
  now : McliHistory → ℚ
  le_event : ∀ history event, now history ≤ now (history ++ [event])
  le_slept : ∀ history seconds,
    now history + seconds ≤ now (history ++ [.slept seconds])

/-- `time.time()` and `time.sleep`. -/
def Marathon.clock (marathon : Marathon) :
    RetryDeadline.Clock McliHistory where
  now := marathon.now
  look history := history ++ [.looked]
  sleep seconds history := history ++ [.slept seconds]
  le_look history := by exact marathon.le_event history .looked
  le_sleep seconds history := by exact marathon.le_slept history seconds

/-- Calls of `MarathonClient`, with what they raise. -/
abbrev McliM := EStateM McliError McliHistory

/-- The functions of `MarathonIF`. -/
abbrev MarathonM := EStateM Stop McliHistory

/-- Make one call. -/
def mcli (marathon : Marathon) (call : McliCall) : McliM call.Answer :=
  fun history =>
    match marathon.answer history call with
    | .ok answer => .ok answer (history ++ [.called call (.ok answer)])
    | .error error => .error error (history ++ [.called call (.error error)])

/-- An uncaught exception of `MarathonClient`. -/
def raising {Value : Type} (program : McliM Value) : MarathonM Value :=
  fun history =>
    match program history with
    | .ok value after => .ok value after
    | .error error after => .error (.raised (.exception error.text)) after

/-- `time.sleep`, which refuses a negative duration. -/
def sleepFor (seconds : ℚ) : MarathonM Unit :=
  if seconds < 0 then
    throw (.raised (.exception "[Errno 22] Invalid argument"))
  else modify fun history => history ++ [.slept seconds]

namespace MarathonIF

variable (marathon : Marathon) (fuel : Nat)

/-! ## Calls that are repeated -/

/-- The exception raised when `timeout` seconds did not suffice. -/
def timedOut (function : String) : Stop :=
  .raised (.exception ("mcli " ++ function ++
    " timed out, possible zookeper/marathon/mesos malfunction"))

/-- The retry loop of `get_app`, `delete_app` and `scale_app`. -/
def retrying {Value : Type} (function : String) (timeout : ℚ)
    (attempt : McliM Value) : MarathonM Value :=
  fun history =>
    let stTime := marathon.now (history ++ [.looked])
    RetryDeadline.retry marathon.clock (timedOut function) .unfinished 10
      (stTime + timeout) attempt fuel (history ++ [.looked])

/-- One attempt of `get_app`. -/
def getAppAttempt (appId : String) : McliM (Option App) :=
  tryCatch (do return some (← mcli marathon (.getApp appId))) fun error =>
    match error with
    | .notFoundError _ => pure none
    | error => throw error

/-- `get_app`. -/
def getApp (appId : String) (timeout : ℚ) : MarathonM (Option App) :=
  retrying marathon fuel "get_app" timeout (getAppAttempt marathon appId)

/-- `delete_app`. -/
def deleteApp (appId : String) (force : Bool) (timeout : ℚ) : MarathonM Unit :=
  retrying marathon fuel "delete_app" timeout
    (mcli marathon (.deleteApp appId force))

/-- `scale_app`. -/
def scaleApp (app : String) (scale : Int) (timeout : ℚ) : MarathonM Unit :=
  retrying marathon fuel "scale_app" timeout
    (mcli marathon (.scaleApp app scale))

/-! ## Single calls -/

/-- `delete_deployment`. -/
def deleteDeployment (depId : String) : MarathonM Unit :=
  raising (mcli marathon (.deleteDeployment depId))

/-- `kill_task`. -/
def killTask (appId taskId : String) : MarathonM Unit :=
  raising (mcli marathon (.killTask appId taskId))

/-! ## Creating applications -/

/-- The characters that the pattern of `is_valid_app_id` lists. -/
def isAppIdChar (char : Char) : Bool :=
  ('A' ≤ char ∧ char ≤ 'Z') ∨ ('a' ≤ char ∧ char ≤ 'z') ∨
    ('0' ≤ char ∧ char ≤ '9') ∨ char = '-' ∨ char = '/' ∨ char = '.'

/-- `is_valid_app_id`.  The `$` of the pattern also matches before a newline
that ends the text. -/
def isValidAppId (appId : String) : Bool :=
  let chars := appId.toList
  chars.all isAppIdChar ||
    (chars.getLast? = some '\n' && chars.dropLast.all isAppIdChar)

/-- The text by which `create_app` knows that it should try again. -/
def lockedText : String :=
  "App is locked by one or more deployments. Override with the option"

/-- The exceptions that `create_app` answers with another try. -/
def isLocked : McliError → Bool
  | .other _ => false
  | error => lockedText.toList <:+: error.text.toList

/-- The tries of `create_app` that are left.  The `raise` at the end raises
`last`, the exception that was handled last. -/
def createTries (appId : String) (attr : MarathonApp) :
    Nat → McliError → MarathonM MarathonApp
  | 0, last => throw (.raised (.exception last.text))
  | trys + 1, _ => fun history =>
      match mcli marathon (.createApp appId attr) history with
      | .ok app after => .ok app after
      | .error error after =>
          if isLocked error then
            (do sleepFor 1; createTries appId attr trys error) after
          else .error (.raised (.exception error.text)) after

/-- `create_app`. -/
def createApp (appId : String) (attr : MarathonApp) : MarathonM MarathonApp :=
  if isValidAppId appId then createTries marathon appId attr 10 (.other "")
  else throw (.raised (.exception "Invalid app_id"))

/-! ## Waiting -/

/-- What `wait_app_ready` does when too many tasks run. -/
def scaleDown (app : String) (runningCount : Int) : MarathonM (App ⊕ Unit) := do
  scaleApp marathon fuel app runningCount 300
  sleepFor 1
  return .inr ()

/-- One round of `wait_app_ready`. -/
def waitAppReadyBody (app : String) (runningCount : Int)
    (sleepBeforeNextTry : ℚ) (_ : Unit) : MarathonM (App ⊕ Unit) := do
  match ← getApp marathon fuel app 300 with
  | none => throw (.raised .attributeError)
  | some a1 =>
      if a1.tasksRunning > runningCount then
        scaleDown marathon fuel app runningCount
      else if a1.tasksRunning = runningCount then
        return .inl a1
      else
        sleepFor sleepBeforeNextTry
        return .inr ()

/-- `wait_app_ready`. -/
def waitAppReady (app : String) (runningCount : Int)
    (sleepBeforeNextTry : ℚ) : MarathonM App :=
  StateErrors.repeatUntil .unfinished
    (waitAppReadyBody marathon fuel app runningCount sleepBeforeNextTry) fuel ()

/-- One round of `wait_app_removal`. -/
def waitAppRemovalBody (app : String) (_ : Unit) : MarathonM (Bool ⊕ Unit) := do
  match ← getApp marathon fuel app 300 with
  | none => return .inl true
  | some _ =>
      sleepFor (2 / 10)
      return .inr ()

/-- `wait_app_removal`. -/
def waitAppRemoval (app : String) : MarathonM Bool :=
  StateErrors.repeatUntil .unfinished (waitAppRemovalBody marathon fuel app)
    fuel ()

/-! ## Deleting applications -/

/-- One try of `delete_app_ifexisting`. -/
def deleteIfexistingTry (appId : String) : MarathonM Unit := do
  match ← getApp marathon fuel appId 300 with
  | some _ => deleteApp marathon fuel appId false 200
  | none => return

/-- The tries of `delete_app_ifexisting` that are left. -/
def deleteIfexistingTries (appId : String) :
    Nat → PyError → MarathonM Unit
  | 0, last => throw (.raised last)
  | trys + 1, _ =>
      tryCatch (deleteIfexistingTry marathon fuel appId) fun stop =>
        match stop with
        | .raised error => do
            sleepFor 10
            deleteIfexistingTries appId trys error
        | .unfinished => throw .unfinished

/-- `delete_app_ifexisting`.  Without a try, the `raise` at its end has no
exception to raise. -/
def deleteAppIfexisting (appId : String) (trys : Int) : MarathonM Unit :=
  deleteIfexistingTries marathon fuel appId trys.toNat
    (.exception ("exceptions must be old-style classes or derived from " ++
      "BaseException, not NoneType"))

end MarathonIF

/-! ## A calm Marathon -/

def scaleAfter (appId : String) (scale : Int) : McliEvent → Int
  | .called (.scaleApp app instances) (.ok _) =>
      if app = appId then instances else scale
  | _ => scale

/-- The scale last requested of an application. -/
def requestedScale (appId : String) (count : Int) (history : McliHistory) :
    Int :=
  history.foldl (scaleAfter appId) count

theorem McliEvent.seconds_nonneg (event : McliEvent) : 0 ≤ event.seconds := by
  cases event with
  | slept seconds => exact le_max_right seconds 0
  | called call answer => exact le_rfl
  | looked => exact le_rfl

/-- A Marathon that never fails and runs every application at the scale
requested last, `count` at first.  Only sleeping takes time. -/
def calmMarathon (count : Int) : Marathon where
  answer history call :=
    match call with
    | .getApp appId =>
        let running := requestedScale appId count history
        .ok ⟨List.replicate running.toNat ⟨"task", "slave-0", [31000]⟩,
          running, []⟩
    | .createApp _ attr => .ok attr
    | .deleteApp _ _ => .ok ()
    | .scaleApp _ _ => .ok ()
    | .deleteDeployment _ => .ok ()
    | .killTask _ _ => .ok ()
  now history := (history.map McliEvent.seconds).sum
  le_event history event := by simp [event.seconds_nonneg]
  le_slept history seconds := by simp [McliEvent.seconds]

/-- Whether the last call failed. -/
def lastFailed (history : McliHistory) : Bool :=
  history.foldl (fun failed event =>
    match event with
    | .called _ (.ok _) => false
    | .called _ (.error _) => true
    | _ => failed) false

/-- The Marathon that fails every call but those after a failed call. -/
def Marathon.faltering (marathon : Marathon) : Marathon :=
  { marathon with
    answer := fun history call =>
      if lastFailed history then marathon.answer history call
      else .error (.marathonHttpError "503 Service Unavailable") }

end MScale
