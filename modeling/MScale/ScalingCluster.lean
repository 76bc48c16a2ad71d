import MScale.HydraRefresh

/-!
# A cluster that follows scale requests

A scale request changes the number of instances over time, and
`wait_app_ready` returns once the requested number runs.  This file follows
what a history requests of one application, states what a cluster does that
carries the requests out, and derives from that what the requests of the
registry achieve.
-/

namespace MScale

/-- Requests that leave the scale of every application alone. -/
def Request.isQuiet : Request → Bool
  | .scaleApp _ _ => false
  | .waitAppReady _ _ _ => false
  | _ => true

/-- `after` extends `before` by exchanges of the given kind. -/
def Adds (kind : Exchange → Prop) (before after : History) : Prop :=
  ∃ more, after = before ++ more ∧ ∀ exchange ∈ more, kind exchange

section Adds

variable {kind : Exchange → Prop}

theorem Adds.refl (history : History) : Adds kind history history :=
  ⟨[], (List.append_nil history).symm, by simp⟩

theorem Adds.trans (first second third : History)
    (added : Adds kind first second) (addedMore : Adds kind second third) :
    Adds kind first third := by
  obtain ⟨more, rfl, all⟩ := added
  obtain ⟨later, rfl, allLater⟩ := addedMore
  refine ⟨more ++ later, List.append_assoc _ _ _, ?_⟩
  intro exchange member
  rcases List.mem_append.mp member with member | member
  · exact all exchange member
  · exact allLater exchange member

theorem remote_adds (backend : Backend) (request : Request)
    (isKind : ∀ answer, kind ⟨request, answer⟩) :
    StateErrors.LeadsAlong (Adds kind) (remote backend request) := by
  intro history
  unfold remote
  split
  · exact ⟨_, rfl, by simp [isKind]⟩
  · exact ⟨_, rfl, by simp [isKind]⟩

end Adds

namespace HydraBase

/-! ## What a history requests -/

/-- The scale last requested of an application, and whether `wait_app_ready`
returned for it. -/
structure ScaleState where
  requested : Int
  settled : Bool
  deriving DecidableEq, Repr

def ScaleState.exchange (name : String) (state : ScaleState) :
    Exchange → ScaleState
  | ⟨.scaleApp app scale, _⟩ => if app = name then ⟨scale, false⟩ else state
  | ⟨.waitAppReady app runningCount _, .ok _⟩ =>
      if app = name ∧ runningCount = state.requested then
        { state with settled := true }
      else state
  | _ => state

/-- The state reached from `count` settled instances. -/
def scaleState (name : String) (count : Int) (since : History) : ScaleState :=
  since.foldl (ScaleState.exchange name) ⟨count, true⟩

/-- The scale an exchange requests of an application. -/
def scaleOf (name : String) (exchange : Exchange) : Option Int :=
  match exchange.request with
  | .scaleApp app scale => if app = name then some scale else none
  | _ => none

/-- The scales requested of an application, in order. -/
def scales (name : String) (since : History) : List Int :=
  since.filterMap (scaleOf name)

def Quiet (exchange : Exchange) : Prop :=
  exchange.request.isQuiet = true

theorem ScaleState.exchange_of_quiet {exchange : Exchange}
    (quiet : Quiet exchange) (name : String) (state : ScaleState) :
    state.exchange name exchange = state := by
  obtain ⟨request, answer⟩ := exchange
  cases request <;> first | rfl | cases quiet

theorem scaleOf_of_quiet {name : String} {exchange : Exchange}
    (quiet : Quiet exchange) : scaleOf name exchange = none := by
  obtain ⟨request, answer⟩ := exchange
  cases request <;> first | rfl | cases quiet

theorem scaleState_append_quiet {name : String} {count : Int}
    {since more : History} (quiet : ∀ exchange ∈ more, Quiet exchange) :
    scaleState name count (since ++ more) = scaleState name count since := by
  induction more using List.reverseRecOn with
  | nil => simp
  | append_singleton more exchange ih =>
      rw [List.forall_mem_append] at quiet
      have unchanged := ScaleState.exchange_of_quiet
        (quiet.2 exchange List.mem_cons_self) name
        (scaleState name count (since ++ more))
      rw [← ih quiet.1, ← List.append_assoc, scaleState, List.foldl_append]
      exact unchanged

theorem scales_append_quiet {name : String} {since more : History}
    (quiet : ∀ exchange ∈ more, Quiet exchange) :
    scales name (since ++ more) = scales name since := by
  have none : scales name more = [] := by
    rw [scales, List.filterMap_eq_nil_iff]
    exact fun exchange member => scaleOf_of_quiet (quiet exchange member)
  rw [scales, List.filterMap_append, ← scales, ← scales, none,
    List.append_nil]

/-! ## Following the requests -/

/-- From `past` on, the cluster carries out the scale requests for an
application: a request for a possible number of instances is accepted,
`wait_app_ready` returns for the number requested last, and after that the
application has as many tasks.  At first it has `count` tasks.  The hosts of
its tasks are known. -/
structure FollowsScale (backend : Backend) (name : String) (past : History)
    (count : Nat) : Prop where
  accepts : ∀ since scale, 0 ≤ scale →
    backend (past ++ since) (.scaleApp name scale) = .ok ()
  ready : ∀ since sleepBeforeNextTry,
    0 ≤ (scaleState name count since).requested →
    backend (past ++ since)
      (.waitAppReady name (scaleState name count since).requested
        sleepBeforeNextTry) = .ok ()
  tasks : ∀ since, (scaleState name count since).settled = true →
    0 ≤ (scaleState name count since).requested →
    ∃ app, backend (past ++ since) (.getApp name) = .ok (some app) ∧
      (app.tasks.length : Int) = (scaleState name count since).requested
  located : ∀ since app,
    backend (past ++ since) (.getApp name) = .ok (some app) →
    ∀ task ∈ app.tasks, ∀ later, ∃ ip,
      backend (past ++ later) (.getSlaveIpFromHn task.host) = .ok ip

/-- `since` requested the given scales, and the application has settled at
`current` instances. -/
structure SettledAt (name : String) (count : Nat) (requests : List Int)
    (current : Int) (since : History) : Prop where
  state : scaleState name count since = ⟨current, true⟩
  scales_eq : scales name since = requests
  possible : 0 ≤ current

theorem settledAt_nil (name : String) (count : Nat) :
    SettledAt name count [] count [] :=
  ⟨rfl, rfl, by omega⟩

/-! ## What the operations exchange -/

/-- Any exchange at all. -/
abbrev Anything (_ : Exchange) : Prop := True

theorem remote_addsAnything (backend : Backend) (request : Request) :
    StateErrors.LeadsAlong (Adds Anything) (remote backend request) :=
  remote_adds backend request fun _ => trivial

theorem stateAfter_remote (backend : Backend) (request : Request)
    (history : History) :
    StateErrors.stateAfter (remote backend request history) =
      history ++ [⟨request, backend history request⟩] := by
  unfold remote
  split
  · next answer answered => rw [answered]; rfl
  · next error answered => rw [answered]; rfl

theorem Adds.anything {kind : Exchange → Prop} {before after : History}
    (added : Adds kind before after) : Adds Anything before after := by
  obtain ⟨more, historyEq, _⟩ := added
  exact ⟨more, historyEq, fun _ _ => trivial⟩

theorem scaleAndWait_adds (backend : Backend) (name : String)
    (cnt sleepBeforeNextTry : Int) :
    StateErrors.LeadsAlong (Adds Anything)
      (scaleAndWait backend name cnt sleepBeforeNextTry) :=
  (remote_addsAnything backend _).bind Adds.trans
    fun _ => remote_addsAnything backend _

theorem getAppTasks_adds (backend : Backend) (name : String) :
    StateErrors.LeadsAlong (Adds Quiet) (getAppTasks backend name) := by
  apply StateErrors.LeadsAlong.bind Adds.trans
  · exact remote_adds backend (.getApp name) fun answer => rfl
  · intro app
    cases app with
    | none => exact StateErrors.leadsAlong_throw Adds.refl _
    | some app => exact StateErrors.leadsAlong_pure Adds.refl _

theorem assertThat_adds {kind : Exchange → Prop} (condition : Bool) :
    StateErrors.LeadsAlong (Adds kind)
      (assertThat condition : RemoteM Unit) := by
  cases condition with
  | true => exact StateErrors.leadsAlong_pure Adds.refl _
  | false => exact StateErrors.leadsAlong_throw Adds.refl _

theorem getAppTasks_addsAnything (backend : Backend) (name : String) :
    StateErrors.LeadsAlong (Adds Anything) (getAppTasks backend name) :=
  fun history => Adds.anything (getAppTasks_adds backend name history)

theorem lookUpHosts_adds (backend : Backend) (tasks : List Task)
    (history : History) :
    Adds Quiet history (lookUpHosts backend tasks history).history := by
  induction tasks generalizing history with
  | nil => exact Adds.refl history
  | cons task tasks ih =>
      have looked := @remote_adds Quiet backend
        (.getSlaveIpFromHn task.host) (fun answer => rfl) history
      unfold lookUpHosts
      split
      · next ip later answered =>
          rw [answered] at looked
          exact looked.trans _ _ _ (ih later)
      · next stop later answered =>
          rw [answered] at looked
          exact looked

theorem refreshReply_adds (backend : Backend) (name : String)
    (history : History) :
    Adds Quiet history (refreshReply backend name history).history := by
  have asked := getAppTasks_adds backend name history
  unfold refreshReply
  split
  · next tasks later answered =>
      rw [answered] at asked
      exact asked.trans _ _ _ (lookUpHosts_adds backend tasks later)
  · next stop later answered =>
      rw [answered] at asked
      exact asked

section Follows

variable {backend : Backend} {name : String} {past since : History}
  {count : Nat} {requests : List Int} {current : Int}

theorem SettledAt.append_quiet
    (settled : SettledAt name count requests current since) {more : History}
    (quiet : ∀ exchange ∈ more, Quiet exchange) :
    SettledAt name count requests current (since ++ more) := by
  constructor
  · rw [scaleState_append_quiet quiet, settled.state]
  · rw [scales_append_quiet quiet, settled.scales_eq]
  · exact settled.possible

/-- In a settled application the number of tasks is the number requested
last. -/
theorem SettledAt.getAppTasks (follows : FollowsScale backend name past count)
    (settled : SettledAt name count requests current since) :
    ∃ tasks later,
      HydraBase.getAppTasks backend name (past ++ since) =
        .ok tasks (past ++ later) ∧
      (tasks.length : Int) = current ∧
      SettledAt name count requests current later ∧
      ∀ task ∈ tasks, ∀ later, ∃ ip,
        backend (past ++ later) (.getSlaveIpFromHn task.host) = .ok ip := by
  have stateEq := settled.state
  obtain ⟨app, answered, lengthEq⟩ := follows.tasks since
    (by rw [stateEq]) (by rw [stateEq]; exact settled.possible)
  rw [stateEq] at lengthEq
  refine ⟨app.tasks, since ++ [⟨.getApp name, .ok (some app)⟩], ?_, lengthEq,
    settled.append_quiet ?_, follows.located since app answered⟩
  · rw [HydraBase.getAppTasks, StateErrors.bind_of_ok (remote_ok answered),
      List.append_assoc]
    rfl
  · intro exchange member
    rw [List.mem_singleton.mp member]
    rfl

/-- Scaling and waiting settle the application at the requested number. -/
theorem SettledAt.scaleAndWait (follows : FollowsScale backend name past count)
    (settled : SettledAt name count requests current since) (cnt : Int)
    (possible : 0 ≤ cnt) (sleepBeforeNextTry : Int) :
    ∃ later,
      HydraBase.scaleAndWait backend name cnt sleepBeforeNextTry
        (past ++ since) = .ok () (past ++ later) ∧
      SettledAt name count (requests ++ [cnt]) cnt later := by
  let scaled : History := since ++ [⟨.scaleApp name cnt, .ok ()⟩]
  let waited : History :=
    scaled ++ [⟨.waitAppReady name cnt sleepBeforeNextTry, .ok ()⟩]
  have scaledState : scaleState name count scaled = ⟨cnt, false⟩ := by
    simp [scaled, scaleState, ScaleState.exchange]
  have waitedState : scaleState name count waited = ⟨cnt, true⟩ := by
    have stateEq : scaleState name count waited =
        (scaleState name count scaled).exchange name
          ⟨.waitAppReady name cnt sleepBeforeNextTry, .ok ()⟩ := by
      simp [waited, scaleState]
    rw [stateEq, scaledState]
    simp [ScaleState.exchange]
  have becameReady := follows.ready scaled sleepBeforeNextTry
    (by rw [scaledState]; exact possible)
  rw [scaledState] at becameReady
  refine ⟨waited, ?_, waitedState, ?_, possible⟩
  · rw [HydraBase.scaleAndWait, StateErrors.bind_of_ok
      (remote_ok (follows.accepts since cnt possible)), List.append_assoc]
    rw [remote_ok becameReady, List.append_assoc]
  · have scalesEq := settled.scales_eq
    simp only [scales] at scalesEq
    simp [waited, scaled, scales, scalesEq, scaleOf]

/-- A refresh of a settled application counts its instances. -/
theorem SettledAt.refreshReply
    (follows : FollowsScale backend name past count)
    (settled : SettledAt name count requests current since) :
    let reply := HydraBase.refreshReply backend name (past ++ since)
    reply.failure = none ∧ (reply.looked.length : Int) = current ∧
      ∃ later, reply.history = past ++ later ∧
        SettledAt name count requests current later := by
  obtain ⟨tasks, later, answered, lengthEq, settledLater, located⟩ :=
    settled.getAppTasks follows
  have noFailure : (lookUpHosts backend tasks (past ++ later)).failure = none := by
    apply (lookUpHosts_complete _).1
    intro task member more
    rw [List.append_assoc]
    exact located task member (later ++ more)
  obtain ⟨more, historyEq, quiet⟩ :=
    lookUpHosts_adds backend tasks (past ++ later)
  simp only [HydraBase.refreshReply, answered]
  refine ⟨noFailure, ?_, later ++ more, ?_, settledLater.append_quiet quiet⟩
  · rw [lookUpHosts_looked_length noFailure, lengthEq]
  · rw [historyEq, List.append_assoc]

end Follows

/-! ## A concrete cluster -/

/-- A cluster that runs an application at the requested scale. -/
def scalingBackend (name : String) (count : Nat) : Backend :=
  fun history request =>
    match request with
    | .getApp _ =>
        let running := (scaleState name count history).requested
        .ok (some ⟨List.replicate running.toNat ⟨"task", "slave-0", [31000]⟩,
          running, []⟩)
    | request => steadyBackend history request

theorem scalingBackend_followsScale (name : String) (count : Nat) :
    FollowsScale (scalingBackend name count) name [] count := by
  constructor
  · exact fun since scale possible => rfl
  · exact fun since sleepBeforeNextTry possible => rfl
  · intro since settled possible
    refine ⟨_, rfl, ?_⟩
    simp only [List.length_replicate, List.nil_append]
    omega
  · exact fun since app answered task member later => ⟨_, rfl⟩

end HydraBase

end MScale
