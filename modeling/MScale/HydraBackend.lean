import MScale.StateErrors
import Mathlib.Data.Rat.Defs

/-!
# The cluster behind the master

The master talks to Marathon and Mesos through `MarathonIF` and `MesosIF`, and
to the instances it launched through `HAnalyser`.  This file lists the requests
it makes and their answers.  A backend answers each request from everything
that was exchanged before, and any request may raise.
-/

namespace MScale

/-- The Python exceptions of the modelled functions. -/
inductive PyError
  | assertionError
  | attributeError
  | keyError (key : String)
  | valueError
  | exception (text : String)
  deriving DecidableEq, Repr

/-- How a bounded execution ends without a value: the program raised, or the
bound on its loops was too small to tell. -/
inductive Stop
  | raised (error : PyError)
  | unfinished
  deriving DecidableEq, Repr

/-- `MarathonConstraint`. -/
structure MarathonConstraint where
  field : String
  operator : String
  value : Option String
  deriving DecidableEq, Repr

/-- `MarathonApp`, the description an application is created from. -/
structure MarathonApp where
  cmd : String
  cpus : ℚ
  mem : ℚ
  ports : Option (List Int)
  constraints : Option (List MarathonConstraint)
  uris : List String
  deriving DecidableEq

/-- One entry of the task list Marathon reports. -/
structure Task where
  id : String
  host : String
  ports : List Int
  deriving DecidableEq, Repr

/-- An application as Marathon reports it; deployments are given by id. -/
structure App where
  tasks : List Task
  tasksRunning : Int
  deployments : List String
  deriving DecidableEq, Repr

/-- The calls on `MarathonIF` and `MesosIF`, the commands sent to instances
through `HAnalyser`, and the random choices. -/
inductive Request
  | createApp (appId : String) (attr : MarathonApp)
  | getApp (appId : String)
  | scaleApp (app : String) (scale : Int)
  | waitAppReady (app : String) (runningCount sleepBeforeNextTry : Int)
  | deleteDeployment (depId : String)
  | deleteAppIfexisting (appId : String) (trys : Int)
  | waitAppRemoval (app : String)
  | killTask (appId taskId : String)
  | getSlaveIpFromHn (slaveHn : String)
  | doPing (ip : String) (port : Int) (taskId : String)
  | resetStats (ip : String) (port : Int) (taskId : String)
  | updateSubConfig (ip : String) (port : Int) (taskId : String)
      (recvRate reconnectRate : ℚ)
  | updatePubConfig (testDuration msgBatch msgRequestedRate : ℚ)
  | startTest
  | randomChoice (length : Nat)
  deriving DecidableEq

/-- What a request answers when it does not raise.  `getApp` answers `none`
for an application Marathon does not know, and a choice from an empty list can
only raise. -/
abbrev Request.Answer : Request → Type
  | .createApp _ _ => MarathonApp
  | .getApp _ => Option App
  | .getSlaveIpFromHn _ => String
  | .doPing _ _ _ => Bool
  | .randomChoice length => Fin length
  | _ => Unit

structure Exchange where
  request : Request
  answer : Except PyError request.Answer

abbrev History := List Exchange

/-- The answers of the cluster, depending on all earlier exchanges. -/
abbrev Backend :=
  History → (request : Request) → Except PyError request.Answer

/-- Programs that only talk to the cluster. -/
abbrev RemoteM := EStateM Stop History

/-- Make one request. -/
def remote (backend : Backend) (request : Request) : RemoteM request.Answer :=
  fun history =>
    match backend history request with
    | .ok answer => .ok answer (history ++ [⟨request, .ok answer⟩])
    | .error error => .error (.raised error) (history ++ [⟨request, .error error⟩])

/-- Python's `assert`. -/
def assertThat {State : Type} (condition : Bool) : EStateM Stop State Unit :=
  if condition then pure () else throw (.raised .assertionError)

/-- A cluster that runs one task of every application until it is killed, and
answers every request. -/
def steadyBackend : Backend := fun history request =>
  match request with
  | .createApp _ attr => .ok attr
  | .getApp appId =>
      let killed := history.any fun exchange =>
        exchange.request = .killTask appId "zst-sub.1"
      .ok (some ⟨if killed then [] else [⟨"zst-sub.1", "slave-0", [31000]⟩],
        1, []⟩)
  | .getSlaveIpFromHn _ => .ok "10.0.0.1"
  | .doPing _ _ _ => .ok true
  | .randomChoice 0 => .error (.exception "list index out of range")
  | .randomChoice (_ + 1) => .ok 0
  | .scaleApp _ _ => .ok ()
  | .waitAppReady _ _ _ => .ok ()
  | .deleteDeployment _ => .ok ()
  | .deleteAppIfexisting _ _ => .ok ()
  | .waitAppRemoval _ => .ok ()
  | .killTask _ _ => .ok ()
  | .resetStats _ _ _ => .ok ()
  | .updateSubConfig _ _ _ _ _ => .ok ()
  | .updatePubConfig _ _ _ => .ok ()
  | .startTest => .ok ()

end MScale
