import MScale.HydraScaling
import MScale.MarathonScaling

/-!
# The interface to Marathon as the backend of the master

The master was studied against a backend that answers its requests, and its
scaling against one that follows scale requests.  Here `MarathonIF` answers the
requests that go to Marathon.  The answers depend on everything that was
requested before, so they are found by carrying out the requests of the history
again.  As long as the master waits for what it requested, a Marathon that
carries out scale requests makes this backend follow them.
-/

namespace MScale

namespace MarathonIF

open StateErrors HydraBase

/-! ## Carrying out requests -/

section Backend

variable (marathon : Marathon) (fuel : Nat)

/-- The function of `MarathonIF` that a request calls, if it calls one. -/
def perform : (request : Request) → Option (MarathonM request.Answer)
  | .createApp appId attr => some (createApp marathon appId attr)
  | .getApp appId => some (getApp marathon fuel appId 300)
  | .scaleApp app scale => some (scaleApp marathon fuel app scale 300)
  | .waitAppReady app runningCount sleepBeforeNextTry =>
      some (discard
        (waitAppReady marathon fuel app runningCount sleepBeforeNextTry))
  | .deleteDeployment depId => some (deleteDeployment marathon depId)
  | .deleteAppIfexisting appId trys =>
      some (deleteAppIfexisting marathon fuel appId trys)
  | .waitAppRemoval app => some (discard (waitAppRemoval marathon fuel app))
  | .killTask appId taskId => some (killTask marathon appId taskId)
  | _ => none

/-- What happened between `MarathonIF` and Marathon while the requests of a
history were carried out. -/
def replay (history : History) : McliHistory :=
  history.foldl (fun events exchange =>
    match perform marathon fuel exchange.request with
    | some program => stateAfter (program events)
    | none => events) []

/-- The answer to a request that ended in the given way. -/
def answerOf {Value : Type} :
    EStateM.Result Stop McliHistory Value → Except PyError Value
  | .ok value _ => .ok value
  | .error (.raised error) _ => .error error
  | .error .unfinished _ => .error (.exception "unfinished")

/-- `MarathonIF` answers what goes to Marathon, `others` the rest. -/
def marathonBackend (others : Backend) : Backend :=
  fun history request =>
    match perform marathon fuel request with
    | some program => answerOf (program (replay marathon fuel history))
    | none => others history request

theorem replay_snoc (history : History) (exchange : Exchange) :
    replay marathon fuel (history ++ [exchange]) =
      match perform marathon fuel exchange.request with
      | some program => stateAfter (program (replay marathon fuel history))
      | none => replay marathon fuel history := by
  simp only [replay, List.foldl_append, List.foldl_cons, List.foldl_nil]

end Backend

/-! ## Orderly requests -/

/-- Requests for one application that wait for nothing but the scale requested
last, and requests that do not go to Marathon. -/
def OrderlyRequest (name : String) (state : ScaleState) : Request → Prop
  | .getApp appId => appId = name
  | .scaleApp app scale => app = name ∧ 0 ≤ scale
  | .waitAppReady app runningCount sleepBeforeNextTry =>
      app = name ∧ runningCount = state.requested ∧ 0 ≤ sleepBeforeNextTry
  | .createApp _ _ => False
  | .deleteDeployment _ => False
  | .deleteAppIfexisting _ _ => False
  | .waitAppRemoval _ => False
  | .killTask _ _ => False
  | _ => True

/-- Every request of `since` was orderly when it was made. -/
def OrderlySince (name : String) (count : Int) (since : History) : Prop :=
  ∀ earlier exchange later, since = earlier ++ exchange :: later →
    OrderlyRequest name (scaleState name count earlier) exchange.request

/-- Orderly requests extend `past` to the history. -/
def Orderly (name : String) (count : Int) (past history : History) : Prop :=
  ∃ since, history = past ++ since ∧ OrderlySince name count since

section Orderly

variable {name : String} {count : Int} {past since history : History}
  {exchange : Exchange}

theorem orderlySince_nil : OrderlySince name count [] := by
  intro earlier exchange later sinceEq
  simp at sinceEq

theorem orderlySince_snoc :
    OrderlySince name count (since ++ [exchange]) ↔
      OrderlySince name count since ∧
        OrderlyRequest name (scaleState name count since) exchange.request := by
  constructor
  · intro orderly
    refine ⟨fun earlier other later sinceEq => ?_, orderly since exchange [] rfl⟩
    exact orderly earlier other (later ++ [exchange]) (by simp [sinceEq])
  · rintro ⟨orderly, last⟩ earlier other later sinceEq
    rcases List.eq_nil_or_concat later with rfl | ⟨more, final, rfl⟩
    · obtain ⟨rfl, same⟩ := List.append_inj' sinceEq rfl
      cases same
      exact last
    · rw [List.concat_eq_append, ← List.cons_append, ← List.append_assoc] at sinceEq
      obtain ⟨sinceEq, -⟩ := List.append_inj' sinceEq rfl
      exact orderly earlier other more sinceEq

theorem scaleState_snoc (name : String) (count : Int) (since : History)
    (exchange : Exchange) :
    scaleState name count (since ++ [exchange]) =
      (scaleState name count since).exchange name exchange := by
  simp only [scaleState, List.foldl_append, List.foldl_cons, List.foldl_nil]

end Orderly

/-! ## What Marathon has been asked -/

/-- The events of the requests in `since` left Marathon with the scale that
they requested last, and arrived where they waited for it. -/
structure Tracks (name : String) (count : Int) (since : History)
    (events : McliHistory) : Prop where
  undisturbed : Undisturbed events
  requested : (scaleView name count events).requested =
    (scaleState name count since).requested
  arrived : (scaleState name count since).settled = true →
    (scaleView name count events).arrived = true
  possible : 0 ≤ (scaleState name count since).requested

section Tracks

variable {marathon : Marathon} {fuel : Nat} {others : Backend} {name : String}
  {hosts : String → Prop} {count : Nat} {polls failures : Nat}
  {past since history : History} {events : McliHistory}

/-- A poll shows the application, with the number of tasks requested last if
the application has settled. -/
theorem Tracks.getApp (tracks : Tracks name count since events)
    (carries : CarriesOut marathon name hosts (replay marathon fuel past) count
      polls failures) (enough : 30 < fuel) :
    ∃ app later,
      MarathonIF.getApp marathon fuel name 300
        (replay marathon fuel past ++ events) =
          .ok (some app) (replay marathon fuel past ++ later) ∧
      (∀ answer, Tracks name count (since ++ [⟨.getApp name, answer⟩]) later) ∧
      ((scaleState name count since).settled = true →
        app.tasksRunning = (scaleState name count since).requested ∧
          (app.tasks.length : Int) = (scaleState name count since).requested) ∧
      ∀ task ∈ app.tasks, hosts task.host := by
  obtain ⟨app, later, shown, undisturbed, viewEq, arrives, hosted⟩ :=
    carries.getApp enough tracks.undisturbed
  simp only [ScaleView.event, if_true] at viewEq
  rw [tracks.requested] at arrives
  refine ⟨app, later, shown, ?_, ?_, hosted⟩
  · intro answer
    have stateEq : scaleState name count (since ++ [⟨.getApp name, answer⟩]) =
        scaleState name count since := scaleState_snoc name count since _
    constructor
    · exact undisturbed
    · rw [stateEq, viewEq, tracks.requested]
    · rw [stateEq, viewEq]
      intro settled
      simp [tracks.arrived settled]
    · rw [stateEq]
      exact tracks.possible
  · intro settled
    exact arrives tracks.possible (Or.inl (tracks.arrived settled))

/-- A possible scale is accepted. -/
theorem Tracks.scaleApp (tracks : Tracks name count since events)
    (carries : CarriesOut marathon name hosts (replay marathon fuel past) count
      polls failures) (enough : 30 < fuel) {scale : Int}
    (possible : 0 ≤ scale) :
    ∃ later,
      MarathonIF.scaleApp marathon fuel name scale 300
        (replay marathon fuel past ++ events) =
          .ok () (replay marathon fuel past ++ later) ∧
      ∀ answer,
        Tracks name count (since ++ [⟨.scaleApp name scale, answer⟩]) later := by
  obtain ⟨later, accepted, undisturbed, viewEq⟩ :=
    carries.scaleApp enough tracks.undisturbed possible
  refine ⟨later, accepted, fun answer => ?_⟩
  have stateEq :
      scaleState name count (since ++ [⟨.scaleApp name scale, answer⟩]) =
        ⟨scale, false⟩ := by
    rw [scaleState_snoc]
    simp [ScaleState.exchange]
  have requestedEq : (scaleView name count later).requested = scale := by
    rw [viewEq, ScaleView.event]
    split
    · rfl
    · next same => exact (not_and_not_right.mp same rfl).symm
  constructor
  · exact undisturbed
  · rw [stateEq, requestedEq]
  · rw [stateEq]
    rintro ⟨⟩
  · rw [stateEq]
    exact possible

/-- Waiting for the scale requested last ends, and settles the application. -/
theorem Tracks.waitAppReady (tracks : Tracks name count since events)
    (carries : CarriesOut marathon name hosts (replay marathon fuel past) count
      polls failures) (enough : 30 < fuel) (enoughPolls : polls < fuel)
    {sleepBeforeNextTry : Int} (sleepPossible : 0 ≤ sleepBeforeNextTry) :
    let runningCount := (scaleState name count since).requested
    ∃ app later,
      MarathonIF.waitAppReady marathon fuel name runningCount
        sleepBeforeNextTry (replay marathon fuel past ++ events) =
          .ok app (replay marathon fuel past ++ later) ∧
      ∀ answer, Tracks name count
        (since ++ [⟨.waitAppReady name runningCount sleepBeforeNextTry,
          answer⟩]) later := by
  intro runningCount
  obtain ⟨app, later, returned, undisturbed, requestedEq, arrived⟩ :=
    carries.waitAppReady enough enoughPolls tracks.undisturbed tracks.requested
      tracks.possible (Int.cast_nonneg sleepPossible)
  refine ⟨app, later, returned, fun answer => ?_⟩
  have stateEq : (scaleState name count (since ++
      [⟨.waitAppReady name runningCount sleepBeforeNextTry, answer⟩])).requested =
        runningCount := by
    rw [scaleState_snoc]
    cases answer with
    | ok answer => simp [ScaleState.exchange, runningCount]
    | error error => rfl
  constructor
  · exact undisturbed
  · rw [requestedEq, stateEq]
  · exact fun _ => arrived
  · rw [stateEq]
    exact tracks.possible

/-- Carrying out an orderly request keeps track. -/
theorem Tracks.step (tracks : Tracks name count since events)
    (carries : CarriesOut marathon name hosts (replay marathon fuel past) count
      polls failures) (enough : 30 < fuel) (enoughPolls : polls < fuel)
    (eventsEq : replay marathon fuel (past ++ since) =
      replay marathon fuel past ++ events)
    {exchange : Exchange}
    (orderly : OrderlyRequest name (scaleState name count since)
      exchange.request) :
    ∃ later, replay marathon fuel (past ++ (since ++ [exchange])) =
        replay marathon fuel past ++ later ∧
      Tracks name count (since ++ [exchange]) later := by
  obtain ⟨request, answer⟩ := exchange
  rw [← List.append_assoc, replay_snoc, eventsEq]
  dsimp only at orderly ⊢
  cases request with
  | getApp appId =>
      obtain rfl := orderly
      obtain ⟨app, later, shown, tracksLater, _⟩ :=
        tracks.getApp carries enough
      refine ⟨later, ?_, tracksLater answer⟩
      simp only [perform, shown, stateAfter]
  | scaleApp app scale =>
      obtain ⟨rfl, possible⟩ := orderly
      obtain ⟨later, accepted, tracksLater⟩ :=
        tracks.scaleApp carries enough possible
      refine ⟨later, ?_, tracksLater answer⟩
      simp only [perform, accepted, stateAfter]
  | waitAppReady app runningCount sleepBeforeNextTry =>
      obtain ⟨rfl, rfl, sleepPossible⟩ := orderly
      obtain ⟨app, later, returned, tracksLater⟩ :=
        tracks.waitAppReady carries enough enoughPolls sleepPossible
      refine ⟨later, ?_, tracksLater answer⟩
      simp only [perform, stateAfter_discard, returned]
      rfl
  | createApp appId attr => exact orderly.elim
  | deleteDeployment depId => exact orderly.elim
  | deleteAppIfexisting appId trys => exact orderly.elim
  | waitAppRemoval app => exact orderly.elim
  | killTask appId taskId => exact orderly.elim
  | _ =>
      exact ⟨events, rfl, tracks.undisturbed,
        by rw [scaleState_snoc]; exact tracks.requested,
        by rw [scaleState_snoc]; exact tracks.arrived,
        by rw [scaleState_snoc]; exact tracks.possible⟩

/-- Carrying out orderly requests keeps track. -/
theorem tracks_replay
    (carries : CarriesOut marathon name hosts (replay marathon fuel past) count
      polls failures) (enough : 30 < fuel) (enoughPolls : polls < fuel)
    (orderly : OrderlySince name count since) :
    ∃ events, replay marathon fuel (past ++ since) =
        replay marathon fuel past ++ events ∧
      Tracks name count since events := by
  induction since using List.reverseRecOn with
  | nil =>
      refine ⟨[], by simp, undisturbed_nil, rfl, fun _ => rfl, ?_⟩
      exact Int.natCast_nonneg count
  | append_singleton since exchange ih =>
      obtain ⟨orderly, last⟩ := orderlySince_snoc.mp orderly
      obtain ⟨events, eventsEq, tracks⟩ := ih orderly
      exact tracks.step carries enough enoughPolls eventsEq last

theorem marathonBackend_scaleApp
    (carries : CarriesOut marathon name hosts (replay marathon fuel past) count
      polls failures) (enough : 30 < fuel) (enoughPolls : polls < fuel)
    (orderly : OrderlySince name count since) {scale : Int}
    (possible : 0 ≤ scale) :
    marathonBackend marathon fuel others (past ++ since)
      (.scaleApp name scale) = .ok () := by
  obtain ⟨events, eventsEq, tracks⟩ :=
    tracks_replay carries enough enoughPolls orderly
  obtain ⟨later, accepted, _⟩ := tracks.scaleApp carries enough possible
  simp only [marathonBackend, perform, eventsEq, accepted, answerOf]

theorem marathonBackend_waitAppReady
    (carries : CarriesOut marathon name hosts (replay marathon fuel past) count
      polls failures) (enough : 30 < fuel) (enoughPolls : polls < fuel)
    (orderly : OrderlySince name count since) {sleepBeforeNextTry : Int}
    (sleepPossible : 0 ≤ sleepBeforeNextTry) :
    marathonBackend marathon fuel others (past ++ since)
      (.waitAppReady name (scaleState name count since).requested
        sleepBeforeNextTry) = .ok () := by
  obtain ⟨events, eventsEq, tracks⟩ :=
    tracks_replay carries enough enoughPolls orderly
  obtain ⟨app, later, returned, _⟩ :=
    tracks.waitAppReady carries enough enoughPolls sleepPossible
  simp only [marathonBackend, perform, eventsEq]
  rw [discard_ok_iff.mpr ⟨app, returned⟩]
  rfl

theorem marathonBackend_getApp
    (carries : CarriesOut marathon name hosts (replay marathon fuel past) count
      polls failures) (enough : 30 < fuel) (enoughPolls : polls < fuel)
    (orderly : OrderlySince name count since) :
    ∃ app, marathonBackend marathon fuel others (past ++ since)
        (.getApp name) = .ok (some app) ∧
      (∀ task ∈ app.tasks, hosts task.host) ∧
      ((scaleState name count since).settled = true →
        app.tasksRunning = (scaleState name count since).requested ∧
        (app.tasks.length : Int) = (scaleState name count since).requested) := by
  obtain ⟨events, eventsEq, tracks⟩ :=
    tracks_replay carries enough enoughPolls orderly
  obtain ⟨app, later, shown, _, settled, hosted⟩ := tracks.getApp carries enough
  refine ⟨app, ?_, hosted, settled⟩
  simp only [marathonBackend, perform, eventsEq, shown, answerOf]

/-- After orderly requests `MarathonIF` answers as a cluster that follows scale
requests: it accepts a possible scale, it returns from waiting for the scale
requested last, and it then shows that many tasks. -/
theorem marathonBackend_follows
    (carries : CarriesOut marathon name hosts (replay marathon fuel past) count
      polls failures) (enough : 30 < fuel) (enoughPolls : polls < fuel)
    (others : Backend) (orderly : OrderlySince name count since) :
    let backend := marathonBackend marathon fuel others
    let state := scaleState name count since
    (∀ scale, 0 ≤ scale →
      backend (past ++ since) (.scaleApp name scale) = .ok ()) ∧
    (∀ sleepBeforeNextTry, 0 ≤ sleepBeforeNextTry →
      backend (past ++ since)
        (.waitAppReady name state.requested sleepBeforeNextTry) = .ok ()) ∧
    ∃ app, backend (past ++ since) (.getApp name) = .ok (some app) ∧
      (∀ task ∈ app.tasks, hosts task.host) ∧
      (state.settled = true → app.tasksRunning = state.requested ∧
        (app.tasks.length : Int) = state.requested) := by
  intro backend state
  refine ⟨fun scale possible => ?_, fun sleepBeforeNextTry possible => ?_, ?_⟩
  · exact marathonBackend_scaleApp carries enough enoughPolls orderly possible
  · exact marathonBackend_waitAppReady carries enough enoughPolls orderly
      possible
  · exact marathonBackend_getApp carries enough enoughPolls orderly

end Tracks

/-- A Marathon that is late and falters is hidden as well: once the master has
waited for three tasks it is shown three. -/
theorem marathonBackend_follows_late :
    let backend := marathonBackend (lateMarathon "/zst-sub" 1).faltering 31
      steadyBackend
    let since : History := [⟨.scaleApp "/zst-sub" 3, .ok ()⟩,
      ⟨.waitAppReady "/zst-sub" 3 1, .ok ()⟩]
    (∀ scale, 0 ≤ scale →
      backend ([] ++ since) (.scaleApp "/zst-sub" scale) = .ok ()) ∧
    (∀ sleepBeforeNextTry, 0 ≤ sleepBeforeNextTry →
      backend ([] ++ since) (.waitAppReady "/zst-sub" 3 sleepBeforeNextTry) =
        .ok ()) ∧
    ∃ app, backend ([] ++ since) (.getApp "/zst-sub") = .ok (some app) ∧
      (∀ task ∈ app.tasks, task.host = "slave-0") ∧
      app.tasksRunning = 3 ∧ (app.tasks.length : Int) = 3 := by
  intro backend since
  have scaled : OrderlySince "/zst-sub" (1 : Nat)
      ([] ++ [⟨.scaleApp "/zst-sub" 3, .ok ()⟩]) :=
    orderlySince_snoc.mpr ⟨orderlySince_nil, rfl, by decide⟩
  have orderly : OrderlySince "/zst-sub" (1 : Nat)
      (([] ++ [⟨.scaleApp "/zst-sub" 3, .ok ()⟩]) ++
        [⟨.waitAppReady "/zst-sub" 3 1, .ok ()⟩]) :=
    orderlySince_snoc.mpr ⟨scaled, rfl, by decide, by decide⟩
  have carries : CarriesOut (lateMarathon "/zst-sub" (1 : Nat)).faltering
      "/zst-sub" (· = "slave-0")
      (replay (lateMarathon "/zst-sub" (1 : Nat)).faltering 31 []) (1 : Nat) 2
      1 :=
    lateMarathon_carriesOut "/zst-sub" 1
  obtain ⟨scales, waits, app, shown, hosted, settled⟩ :=
    marathonBackend_follows carries (by decide) (by decide) steadyBackend
      orderly
  exact ⟨scales, waits, app, shown, hosted, settled (by decide)⟩

end MarathonIF

end MScale
