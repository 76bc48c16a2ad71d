import MScale.MarathonBackend

/-!
# Scaling through the interface to Marathon

`HydraBase.scale_app` only makes orderly requests.  It therefore sees no
difference between `MarathonIF` and a cluster that follows scale requests
unconditionally, and what was shown for such a cluster holds for Marathon.
-/

namespace MScale

namespace MarathonIF

open StateErrors HydraBase

section Ideal

variable {marathon : Marathon} {fuel : Nat} {others : Backend} {name : String}
  {hosts : String → Prop} {slave : String} {count : Nat} {polls failures : Nat}
  {past history : History} {request : Request}

/-- A cluster that has carried out every request at once, on one host. -/
def idealAnswers (others : Backend) (name slave : String) (count : Nat)
    (past : History) : Backend :=
  fun history request =>
    match request with
    | .getApp _ =>
        let running :=
          (scaleState name count (history.drop past.length)).requested
        .ok (some
          ⟨List.replicate running.toNat ⟨"task", slave, []⟩, running, []⟩)
    | .scaleApp _ _ => .ok ()
    | .waitAppReady _ _ _ => .ok ()
    | request => others history request

/-- The request is orderly, and follows orderly requests. -/
def AsksOrderly (name : String) (count : Int) (past history : History)
    (request : Request) : Prop :=
  ∃ since, history = past ++ since ∧ OrderlySince name count since ∧
    OrderlyRequest name (scaleState name count since) request

theorem asksOrderly_append {since : History} :
    AsksOrderly name count past (past ++ since) request ↔
      OrderlySince name count since ∧
        OrderlyRequest name (scaleState name count since) request := by
  constructor
  · rintro ⟨since', sinceEq, orderly⟩
    rw [List.append_cancel_left sinceEq]
    exact orderly
  · rintro ⟨orderly, orderlyRequest⟩
    exact ⟨since, rfl, orderly, orderlyRequest⟩

open Classical in
/-- `MarathonIF` for orderly requests, and an ideal cluster for others. -/
noncomputable def orderlyBackend (marathon : Marathon) (fuel : Nat)
    (others : Backend) (name slave : String) (count : Nat) (past : History) :
    Backend :=
  fun history request =>
    if AsksOrderly name count past history request then
      marathonBackend marathon fuel others history request
    else idealAnswers others name slave count past history request

theorem orderlyBackend_of_asks
    (asks : AsksOrderly name count past history request) :
    orderlyBackend marathon fuel others name slave count past history request =
      marathonBackend marathon fuel others history request :=
  if_pos asks

theorem orderlyBackend_of_not_asks
    (asks : ¬ AsksOrderly name count past history request) :
    orderlyBackend marathon fuel others name slave count past history request =
      idealAnswers others name slave count past history request :=
  if_neg asks

theorem orderlyBackend_getSlaveIpFromHn (history : History) (host : String) :
    orderlyBackend marathon fuel others name slave count past history
        (.getSlaveIpFromHn host) = others history (.getSlaveIpFromHn host) := by
  by_cases asks : AsksOrderly name count past history (.getSlaveIpFromHn host)
  · rw [orderlyBackend_of_asks asks]
    rfl
  · rw [orderlyBackend_of_not_asks asks]
    rfl

/-- The backend follows scale requests after any requests. -/
theorem orderlyBackend_followsScale
    (carries : CarriesOut marathon name hosts (replay marathon fuel past) count
      polls failures) (enough : 30 < fuel) (enoughPolls : polls < fuel)
    (located : ∀ host, hosts host → ∀ history, ∃ ip,
      others history (.getSlaveIpFromHn host) = .ok ip)
    (isHost : hosts slave) :
    FollowsScale (orderlyBackend marathon fuel others name slave count past)
      name past count := by
  constructor
  · intro since scale possible
    by_cases asks : AsksOrderly name count past (past ++ since)
        (.scaleApp name scale)
    · rw [orderlyBackend_of_asks asks]
      exact marathonBackend_scaleApp carries enough enoughPolls
        (asksOrderly_append.mp asks).1 possible
    · rw [orderlyBackend_of_not_asks asks]
      rfl
  · intro since sleepBeforeNextTry possible
    by_cases asks : AsksOrderly name count past (past ++ since)
        (.waitAppReady name (scaleState name count since).requested
          sleepBeforeNextTry)
    · rw [orderlyBackend_of_asks asks]
      obtain ⟨orderly, _, _, sleepPossible⟩ := asksOrderly_append.mp asks
      exact marathonBackend_waitAppReady carries enough enoughPolls orderly
        sleepPossible
    · rw [orderlyBackend_of_not_asks asks]
      rfl
  · intro since settled possible
    by_cases asks : AsksOrderly name count past (past ++ since) (.getApp name)
    · rw [orderlyBackend_of_asks asks]
      obtain ⟨app, shown, _, counted⟩ := @marathonBackend_getApp _ _ others _ _
        _ _ _ _ _ carries enough enoughPolls (asksOrderly_append.mp asks).1
      exact ⟨app, shown, (counted settled).2⟩
    · rw [orderlyBackend_of_not_asks asks]
      refine ⟨_, rfl, ?_⟩
      rw [List.drop_left, List.length_replicate]
      omega
  · intro since app shown task member later
    rw [orderlyBackend_getSlaveIpFromHn]
    refine located task.host ?_ _
    by_cases asks : AsksOrderly name count past (past ++ since) (.getApp name)
    · rw [orderlyBackend_of_asks asks] at shown
      obtain ⟨app', shown', hosted, _⟩ := @marathonBackend_getApp _ _ others _ _
        _ _ _ _ _ carries enough enoughPolls (asksOrderly_append.mp asks).1
      rw [shown'] at shown
      cases shown
      exact hosted task member
    · rw [orderlyBackend_of_not_asks asks] at shown
      cases shown
      rw [List.eq_of_mem_replicate member]
      exact isHost

end Ideal

/-! ## What the master asks -/

section Agreement

variable {marathon : Marathon} {fuel : Nat} {others : Backend} {name : String}
  {slave : String} {count : Nat} {past : History}

/-- A request that is orderly at any time gets the same answer. -/
theorem remote_agreeOn {request : Request}
    (orderlyRequest : ∀ state, OrderlyRequest name state request) :
    AgreeOn (Orderly name count past)
      (remote (marathonBackend marathon fuel others) request)
      (remote (orderlyBackend marathon fuel others name slave count past)
        request) := by
  rintro history ⟨since, rfl, orderly⟩
  have asks : AsksOrderly name count past (past ++ since) request :=
    asksOrderly_append.mpr ⟨orderly, orderlyRequest _⟩
  constructor
  · rw [remote, remote, orderlyBackend_of_asks asks]
  · rw [stateAfter_remote, List.append_assoc]
    exact ⟨_, rfl, orderlySince_snoc.mpr ⟨orderly, orderlyRequest _⟩⟩

theorem getAppTasks_agreeOn :
    AgreeOn (Orderly name count past)
      (getAppTasks (marathonBackend marathon fuel others) name)
      (getAppTasks (orderlyBackend marathon fuel others name slave count past)
        name) := by
  have asked : ∀ state, OrderlyRequest name state (.getApp name) :=
    fun state => rfl
  apply (remote_agreeOn asked).bind
  intro app
  cases app with
  | none => exact agreeOn_throw _
  | some app => exact agreeOn_pure _

/-- Waiting for a scale is orderly right after requesting it. -/
theorem scaleAndWait_agreeOn {cnt sleepBeforeNextTry : Int}
    (possible : 0 ≤ cnt) (sleepPossible : 0 ≤ sleepBeforeNextTry) :
    AgreeOn (Orderly name count past)
      (scaleAndWait (marathonBackend marathon fuel others) name cnt
        sleepBeforeNextTry)
      (scaleAndWait
        (orderlyBackend marathon fuel others name slave count past) name cnt
        sleepBeforeNextTry) := by
  rintro history ⟨since, rfl, orderly⟩
  have scaling : OrderlyRequest name (scaleState name count since)
      (.scaleApp name cnt) := ⟨rfl, possible⟩
  have asks : AsksOrderly name count past (past ++ since) (.scaleApp name cnt) :=
    asksOrderly_append.mpr ⟨orderly, scaling⟩
  have same : remote (marathonBackend marathon fuel others) (.scaleApp name cnt)
      (past ++ since) = remote (orderlyBackend marathon fuel others name slave
        count past) (.scaleApp name cnt) (past ++ since) := by
    rw [remote, remote, orderlyBackend_of_asks asks]
  have after := stateAfter_remote (marathonBackend marathon fuel others)
    (.scaleApp name cnt) (past ++ since)
  generalize marathonBackend marathon fuel others (past ++ since)
    (.scaleApp name cnt) = answer at after
  rw [List.append_assoc] at after
  have orderlyAfter : OrderlySince name count
      (since ++ [⟨.scaleApp name cnt, answer⟩]) :=
    orderlySince_snoc.mpr ⟨orderly, scaling⟩
  rw [scaleAndWait, scaleAndWait]
  cases scaled : remote (marathonBackend marathon fuel others)
      (.scaleApp name cnt) (past ++ since) with
  | error stop middle =>
      rw [scaled] at same after
      rw [bind_of_error scaled, bind_of_error same.symm]
      exact ⟨rfl, _, after, orderlyAfter⟩
  | ok value middle =>
      rw [scaled] at same after
      rw [bind_of_ok scaled, bind_of_ok same.symm,
        show middle = _ from after]
      have waiting : OrderlyRequest name
          (scaleState name count (since ++ [⟨.scaleApp name cnt, answer⟩]))
          (.waitAppReady name cnt sleepBeforeNextTry) := by
        refine ⟨rfl, ?_, sleepPossible⟩
        rw [scaleState_snoc]
        simp [ScaleState.exchange]
      have asksWait : AsksOrderly name count past
          (past ++ (since ++ [⟨.scaleApp name cnt, answer⟩]))
          (.waitAppReady name cnt sleepBeforeNextTry) :=
        asksOrderly_append.mpr ⟨orderlyAfter, waiting⟩
      constructor
      · rw [remote, remote, orderlyBackend_of_asks asksWait]
      · rw [stateAfter_remote, List.append_assoc]
        exact ⟨_, rfl, orderlySince_snoc.mpr ⟨orderlyAfter, waiting⟩⟩

theorem lookUpHosts_agree (tasks : List Task) {history : History}
    (orderly : Orderly name count past history) :
    lookUpHosts (marathonBackend marathon fuel others) tasks history =
      lookUpHosts (orderlyBackend marathon fuel others name slave count past)
        tasks history ∧
      Orderly name count past
        (lookUpHosts (marathonBackend marathon fuel others) tasks
          history).history := by
  induction tasks generalizing history with
  | nil => exact ⟨rfl, orderly⟩
  | cons task tasks ih =>
      obtain ⟨same, orderlyAfter⟩ := @remote_agreeOn marathon fuel others name
        slave count past (.getSlaveIpFromHn task.host) (fun _ => trivial)
        history orderly
      rw [lookUpHosts, lookUpHosts, ← same]
      cases looked : remote (marathonBackend marathon fuel others)
          (.getSlaveIpFromHn task.host) history with
      | error stop after =>
          rw [looked] at orderlyAfter
          exact ⟨rfl, orderlyAfter⟩
      | ok ip after =>
          rw [looked] at orderlyAfter
          obtain ⟨sameRest, orderlyRest⟩ := @ih after orderlyAfter
          dsimp only
          rw [← sameRest]
          exact ⟨rfl, orderlyRest⟩

theorem refreshReply_agree {history : History}
    (orderly : Orderly name count past history) :
    refreshReply (marathonBackend marathon fuel others) name history =
      refreshReply (orderlyBackend marathon fuel others name slave count past)
        name history ∧
      Orderly name count past
        (refreshReply (marathonBackend marathon fuel others) name
          history).history := by
  obtain ⟨same, orderlyAfter⟩ := @getAppTasks_agreeOn marathon fuel others name
    slave count past history orderly
  rw [refreshReply, refreshReply, ← same]
  cases shown : getAppTasks (marathonBackend marathon fuel others) name history
    with
  | error stop after =>
      rw [shown] at orderlyAfter
      exact ⟨rfl, orderlyAfter⟩
  | ok tasks after =>
      rw [shown] at orderlyAfter
      exact lookUpHosts_agree tasks orderlyAfter

theorem assertThat_agreeOn {State : Type} {Good : State → Prop}
    (condition : Bool) :
    AgreeOn Good (assertThat condition : EStateM Stop State Unit)
      (assertThat condition) := by
  cases condition with
  | true => exact agreeOn_pure _
  | false => exact agreeOn_throw _

/-- What the batch loop of `scale_app` keeps: the scales that it requests are
possible. -/
def PossibleBatches (scaleCnt : Int) (loop : ScaleLoop) : Prop :=
  (loop.firstBatch = true ∧ loop.instancesLaunched = 0) ∨
    (loop.firstBatch = false ∧ 0 ≤ loop.instancesLaunched ∧
      loop.instancesLaunched + loop.remaining = scaleCnt)

section Batches

variable {scaleCnt sleepBeforeNextTry instanceBatch instanceThreshold : Int}
  {loop later : ScaleLoop}

theorem PossibleBatches.next (batchPos : 1 ≤ instanceBatch)
    (thresholdPossible : 0 ≤ instanceThreshold) {backend : Backend}
    {history after : History} (possible : PossibleBatches scaleCnt loop)
    (round : scaleBody backend name scaleCnt sleepBeforeNextTry instanceBatch
      instanceThreshold loop history = .ok (.inr later) after) :
    PossibleBatches scaleCnt later := by
  obtain ⟨tasks, middle, _, round⟩ := bind_ok_iff.mp round
  split at round
  · cases round
  · split at round
    · next isFirst =>
        obtain ⟨_, _, _, round⟩ := bind_ok_iff.mp round
        cases round
        rcases possible with ⟨_, launched⟩ | ⟨notFirst, _⟩
        · refine Or.inr ⟨rfl, ?_, ?_⟩
          · dsimp only
            omega
          · dsimp only
            omega
        · rw [notFirst] at isFirst
          cases isFirst
    · next notFirst =>
        rcases possible with ⟨isFirst, _⟩ | ⟨_, launched, total⟩
        · exact (notFirst isFirst).elim
        · split at round
          · obtain ⟨_, _, _, round⟩ := bind_ok_iff.mp round
            obtain ⟨_, _, _, round⟩ := bind_ok_iff.mp round
            obtain ⟨_, _, _, round⟩ := bind_ok_iff.mp round
            cases round
          · obtain ⟨_, _, _, round⟩ := bind_ok_iff.mp round
            cases round
            refine Or.inr ⟨rfl, ?_, ?_⟩
            · dsimp only
              omega
            · dsimp only
              omega

theorem scaleBody_agreeOn (batchPos : 1 ≤ instanceBatch)
    (targetPossible : 0 ≤ scaleCnt) (thresholdPossible : 0 ≤ instanceThreshold)
    (sleepPossible : 0 ≤ sleepBeforeNextTry)
    (possible : PossibleBatches scaleCnt loop) :
    AgreeOn (Orderly name count past)
      (scaleBody (marathonBackend marathon fuel others) name scaleCnt
        sleepBeforeNextTry instanceBatch instanceThreshold loop)
      (scaleBody (orderlyBackend marathon fuel others name slave count past)
        name scaleCnt sleepBeforeNextTry instanceBatch instanceThreshold
        loop) := by
  apply getAppTasks_agreeOn.bind
  intro tasks
  split
  · exact agreeOn_pure _
  · split
    · apply (scaleAndWait_agreeOn thresholdPossible sleepPossible).bind
      exact fun _ => agreeOn_pure _
    · next notFirst =>
        rcases possible with ⟨isFirst, _⟩ | ⟨_, launched, total⟩
        · exact (notFirst isFirst).elim
        · split
          · apply (scaleAndWait_agreeOn (by omega) sleepPossible).bind
            intro _
            apply getAppTasks_agreeOn.bind
            intro tasks
            apply (assertThat_agreeOn _).bind
            exact fun _ => agreeOn_pure _
          · apply (scaleAndWait_agreeOn (by omega) sleepPossible).bind
            exact fun _ => agreeOn_pure _

theorem scaleRequests_agreeOn (batchPos : 1 ≤ instanceBatch)
    (targetPossible : 0 ≤ scaleCnt) (thresholdPossible : 0 ≤ instanceThreshold)
    (sleepPossible : 0 ≤ sleepBeforeNextTry) (rounds : Nat) :
    AgreeOn (Orderly name count past)
      (scaleRequests (marathonBackend marathon fuel others) rounds name scaleCnt
        sleepBeforeNextTry instanceBatch instanceThreshold)
      (scaleRequests (orderlyBackend marathon fuel others name slave count past)
        rounds name scaleCnt sleepBeforeNextTry instanceBatch
        instanceThreshold) := by
  unfold scaleRequests
  split
  · have start : PossibleBatches scaleCnt ⟨true, 0, 0⟩ := Or.inl ⟨rfl, rfl⟩
    exact agreeOn_repeatUntil
      (fun loop possible => scaleBody_agreeOn batchPos targetPossible
        thresholdPossible sleepPossible possible)
      (fun loop later history after possible round =>
        possible.next batchPos thresholdPossible round) rounds start
  · exact scaleAndWait_agreeOn targetPossible sleepPossible

/-- `scale_app` sees no difference between `MarathonIF` and the ideal
cluster. -/
theorem scaleApp_agree (batchPos : 1 ≤ instanceBatch)
    (targetPossible : 0 ≤ scaleCnt) (thresholdPossible : 0 ≤ instanceThreshold)
    (sleepPossible : 0 ≤ sleepBeforeNextTry) (rounds : Nat) {world : World}
    (registered : name ∈ world.hydra.apps)
    (orderly : Orderly name count past world.history) :
    HydraBase.scaleApp (marathonBackend marathon fuel others) rounds name
        scaleCnt sleepBeforeNextTry instanceBatch instanceThreshold world =
      HydraBase.scaleApp
        (orderlyBackend marathon fuel others name slave count past) rounds name
        scaleCnt sleepBeforeNextTry instanceBatch instanceThreshold world ∧
    Orderly name count past (stateAfter (HydraBase.scaleApp
      (marathonBackend marathon fuel others) rounds name scaleCnt
      sleepBeforeNextTry instanceBatch instanceThreshold world)).history := by
  obtain ⟨same, orderlyAfter⟩ := @scaleRequests_agreeOn marathon fuel others
    name slave count past _ _ _ _ batchPos targetPossible thresholdPossible
    sleepPossible rounds world.history orderly
  rw [scaleApp_eq registered, scaleApp_eq registered, ← same]
  cases scaled : scaleRequests (marathonBackend marathon fuel others) rounds
      name scaleCnt sleepBeforeNextTry instanceBatch instanceThreshold
      world.history with
  | error stop history =>
      rw [scaled] at orderlyAfter
      exact ⟨rfl, orderlyAfter⟩
  | ok value history =>
      rw [scaled] at orderlyAfter
      obtain ⟨sameReply, orderlyReply⟩ := @refreshReply_agree marathon fuel
        others name slave count past history orderlyAfter
      dsimp only
      rw [← sameReply]
      refine ⟨rfl, ?_⟩
      split
      · exact orderlyReply
      · rw [RefreshReply.stateAfter_outcome]
        exact orderlyReply

end Batches

end Agreement

/-- Over a Marathon that carries out scale requests, with calls that fail now
and then and tasks that start late, `scale_app` returns after requesting the
scales of its plan, and the application runs at the target. -/
theorem scaleApp_reaches {marathon : Marathon} {fuel : Nat} {others : Backend}
    {name : String} {hosts : String → Prop} {count polls failures : Nat}
    {scaleCnt sleepBeforeNextTry instanceBatch instanceThreshold : Int}
    {rounds : Nat} {world : World}
    (carries : CarriesOut marathon name hosts
      (replay marathon fuel world.history) count polls failures)
    (enough : 30 < fuel) (enoughPolls : polls < fuel)
    (located : ∀ host, hosts host → ∀ history, ∃ ip,
      others history (.getSlaveIpFromHn host) = .ok ip)
    (someHost : ∃ host, hosts host)
    (batchPos : 1 ≤ instanceBatch) (targetPossible : 0 ≤ scaleCnt)
    (thresholdPossible : 0 ≤ instanceThreshold)
    (sleepPossible : 0 ≤ sleepBeforeNextTry)
    (enoughRounds : scaleCnt.toNat + 2 ≤ rounds)
    (registered : name ∈ world.hydra.apps) :
    ∃ after since,
      HydraBase.scaleApp (marathonBackend marathon fuel others) rounds name
        scaleCnt sleepBeforeNextTry instanceBatch instanceThreshold world =
          .ok () after ∧
      after.history = world.history ++ since ∧
      scales name since =
        scalePlan count scaleCnt instanceBatch instanceThreshold ∧
      ∃ app later,
        getApp marathon fuel name 300 (replay marathon fuel after.history) =
          .ok (some app) later ∧
        app.tasksRunning = scaleCnt ∧ (app.tasks.length : Int) = scaleCnt := by
  obtain ⟨slave, isHost⟩ := someHost
  have follows := orderlyBackend_followsScale carries enough enoughPolls
    located isHost
  obtain ⟨after, returned, since, historyEq, settled⟩ := scaleApp_planned
    follows batchPos targetPossible (fun _ _ => thresholdPossible) enoughRounds
    rfl registered sleepBeforeNextTry
  have start : Orderly name count world.history world.history :=
    ⟨[], (List.append_nil _).symm, orderlySince_nil⟩
  obtain ⟨same, orderly⟩ := @scaleApp_agree marathon fuel others name slave
    count world.history _ _ _ _ batchPos targetPossible thresholdPossible
    sleepPossible rounds world registered start
  rw [same, returned] at orderly
  obtain ⟨since', sinceEq, orderly⟩ := orderly
  rw [show stateAfter (EStateM.Result.ok () after) = after from rfl,
    historyEq] at sinceEq
  obtain rfl := List.append_cancel_left sinceEq
  obtain ⟨events, eventsEq, tracks⟩ :=
    tracks_replay carries enough enoughPolls orderly
  obtain ⟨app, later, shown, _, arrived, _⟩ := tracks.getApp carries enough
  rw [settled.state] at arrived
  refine ⟨after, since, same.trans returned, historyEq, settled.scales_eq, app,
    replay marathon fuel world.history ++ later, ?_, arrived rfl⟩
  rw [historyEq, eventsEq]
  exact shown

/-- Also where Marathon is late and falters, 1000 subscribers are reached. -/
theorem scaleApp_reaches_late :
    let marathon := (lateMarathon "/zst-sub" (768 : Nat)).faltering
    ∃ after since,
      HydraBase.scaleApp (marathonBackend marathon 31 steadyBackend) 1002
        "/zst-sub" 1000 1 300 500 rescaledWorld = .ok () after ∧
      after.history = [] ++ since ∧
      scales "/zst-sub" since = scalePlan (768 : Nat) 1000 300 500 ∧
      ∃ app later,
        getApp marathon 31 "/zst-sub" 300 (replay marathon 31 after.history) =
          .ok (some app) later ∧
        app.tasksRunning = 1000 ∧ (app.tasks.length : Int) = 1000 :=
  scaleApp_reaches (lateMarathon_carriesOut "/zst-sub" 768) (by decide)
    (by decide) (fun _ _ _ => ⟨_, rfl⟩) ⟨"slave-0", rfl⟩ (by decide)
    (by decide) (by decide) (by decide) (by decide) rescaledWorld_registered

end MarathonIF

end MScale
