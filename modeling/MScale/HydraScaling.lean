import MScale.BatchPlans
import MScale.ScalingCluster

/-!
# Scaling in batches

Above its threshold `scale_app` requests the threshold first and then goes up
to the target in batches.  Against a cluster that follows its requests it
always arrives.  The first request does not look at the instances that run
already, so an application with more instances than the threshold is shrunk
before it grows.
-/

namespace MScale

namespace HydraBase

open StateErrors BatchPlans

section Loop

variable {backend : Backend} {name : String} {past : History} {count : Nat}
  {scaleCnt sleepBeforeNextTry instanceBatch instanceThreshold : Int}

/-- Between two rounds after the first batch: the requests made and the growth
plan from here on make up the whole plan. -/
structure Growing (name : String) (past : History) (count : Nat)
    (scaleCnt instanceBatch : Int) (plan : List Int) (loop : ScaleLoop)
    (history : History) : Prop where
  later : loop.firstBatch = false
  remaining_eq : loop.remaining = scaleCnt - loop.instancesLaunched
  below : loop.instancesLaunched ≤ scaleCnt
  planned : ∃ since requests, history = past ++ since ∧
    SettledAt name count requests loop.instancesLaunched since ∧
    requests ++ growthPlan instanceBatch scaleCnt loop.instancesLaunched = plan

/-- The plan was carried out. -/
def Grown (name : String) (past : History) (count : Nat) (scaleCnt : Int)
    (plan : List Int) (history : History) : Prop :=
  ∃ since, history = past ++ since ∧
    SettledAt name count plan scaleCnt since

/-- One round of the batch loop requests the next value of the plan, or ends
where the plan does. -/
theorem Growing.scaleBody (follows : FollowsScale backend name past count)
    (batchPos : 1 ≤ instanceBatch) {plan : List Int} {loop : ScaleLoop}
    {history : History}
    (growing : Growing name past count scaleCnt instanceBatch plan loop
      history) :
    (∃ result after,
      HydraBase.scaleBody backend name scaleCnt sleepBeforeNextTry
        instanceBatch instanceThreshold loop history =
          .ok (.inl result) after ∧
      Grown name past count scaleCnt plan after) ∨
    ∃ later after, HydraBase.scaleBody backend name scaleCnt sleepBeforeNextTry
        instanceBatch instanceThreshold loop history = .ok (.inr later) after ∧
      Growing name past count scaleCnt instanceBatch plan later after ∧
      (scaleCnt - later.instancesLaunched).toNat <
        (scaleCnt - loop.instancesLaunched).toNat := by
  obtain ⟨notFirst, remainingEq, below, since, requests, rfl, settled, planEq⟩ :=
    growing
  obtain ⟨tasks, asked, answered, lengthEq, settledAsked, _⟩ :=
    settled.getAppTasks follows
  unfold HydraBase.scaleBody
  rw [bind_of_ok answered]
  by_cases arrived : loop.instancesLaunched = scaleCnt
  · rw [if_pos (lengthEq.trans arrived)]
    rw [arrived, growthPlan_self, List.append_nil] at planEq
    rw [arrived, planEq] at settledAsked
    exact Or.inl ⟨(), _, rfl, asked, rfl, settledAsked⟩
  · have lt : loop.instancesLaunched < scaleCnt := by omega
    have possible := settled.possible
    rw [if_neg (lengthEq ▸ arrived), notFirst, if_neg Bool.false_ne_true]
    rw [growthPlan_of_lt batchPos lt] at planEq
    by_cases last : loop.remaining < instanceBatch
    · have nextEq : min (loop.instancesLaunched + instanceBatch) scaleCnt =
          scaleCnt := by omega
      have targetEq : loop.instancesLaunched + loop.remaining = scaleCnt := by
        omega
      rw [nextEq, growthPlan_self] at planEq
      obtain ⟨scaled, waited, settledScaled⟩ := settledAsked.scaleAndWait
        follows scaleCnt (by omega) sleepBeforeNextTry
      obtain ⟨tasks', checked, answered', lengthEq', settledChecked, _⟩ :=
        settledScaled.getAppTasks follows
      rw [planEq] at settledChecked
      rw [if_pos last, targetEq, bind_of_ok waited, bind_of_ok answered',
        assertThat_bind, lengthEq', decide_eq_true rfl, if_pos rfl]
      exact Or.inl ⟨(), _, rfl, checked, rfl, settledChecked⟩
    · have nextEq : min (loop.instancesLaunched + instanceBatch) scaleCnt =
          loop.instancesLaunched + instanceBatch := by omega
      rw [nextEq] at planEq
      obtain ⟨scaled, waited, settledScaled⟩ := settledAsked.scaleAndWait
        follows (loop.instancesLaunched + instanceBatch) (by omega)
        sleepBeforeNextTry
      rw [if_neg last, bind_of_ok waited]
      refine Or.inr ⟨_, _, rfl, ⟨rfl, ?_, ?_, scaled, _, rfl, settledScaled, ?_⟩,
        ?_⟩
      · dsimp only
        omega
      · dsimp only
        omega
      · rw [← planEq, List.append_assoc, List.singleton_append]
      · dsimp only
        omega

/-- The whole batch loop, from a scale that is not the target yet. -/
theorem scaleRequests_above (follows : FollowsScale backend name past count)
    (batchPos : 1 ≤ instanceBatch) (thresholdPossible : 0 ≤ instanceThreshold)
    (above : instanceThreshold < scaleCnt) (notYet : (count : Int) ≠ scaleCnt)
    {fuel : Nat} (enough : scaleCnt.toNat + 2 ≤ fuel) :
    ∃ after, scaleRequests backend fuel name scaleCnt sleepBeforeNextTry
        instanceBatch instanceThreshold past = .ok () after ∧
      Grown name past count scaleCnt
        (instanceThreshold ::
          growthPlan instanceBatch scaleCnt instanceThreshold) after := by
  obtain ⟨tasks, asked, answered, lengthEq, settledAsked, _⟩ :=
    (settledAt_nil name count).getAppTasks follows
  rw [List.append_nil] at answered
  obtain ⟨scaled, waited, settledScaled⟩ := settledAsked.scaleAndWait follows
    instanceThreshold thresholdPossible sleepBeforeNextTry
  have firstRound : HydraBase.scaleBody backend name scaleCnt
      sleepBeforeNextTry instanceBatch instanceThreshold ⟨true, 0, 0⟩ past =
        .ok (.inr ⟨false, 0 + instanceThreshold, scaleCnt - instanceThreshold⟩)
          (past ++ scaled) := by
    unfold HydraBase.scaleBody
    rw [bind_of_ok answered, if_neg (lengthEq ▸ notYet), if_pos rfl,
      bind_of_ok waited]
    rfl
  obtain ⟨rounds, rfl⟩ : ∃ rounds, fuel = rounds + 1 :=
    ⟨fuel - 1, by omega⟩
  have growing : Growing name past count scaleCnt instanceBatch
      (instanceThreshold :: growthPlan instanceBatch scaleCnt instanceThreshold)
      ⟨false, 0 + instanceThreshold, scaleCnt - instanceThreshold⟩
      (past ++ scaled) := by
    rw [Int.zero_add]
    exact ⟨rfl, rfl, above.le, scaled, [instanceThreshold], rfl,
      settledScaled, rfl⟩
  have roundsEnough :
      (scaleCnt - (0 + instanceThreshold)).toNat < rounds := by omega
  obtain ⟨_, after, ended, grown⟩ := repeatUntil_ends
    (fun loop : ScaleLoop => (scaleCnt - loop.instancesLaunched).toNat)
    (fun loop history growing => growing.scaleBody follows batchPos)
    growing roundsEnough
  refine ⟨after, ?_, grown⟩
  rw [scaleRequests, if_pos above, repeatUntil_continue firstRound]
  exact ended

end Loop

/-! ## The requests of a call -/

/-- The scales `scale_app` requests of an application with `count`
instances. -/
def scalePlan (count scaleCnt instanceBatch instanceThreshold : Int) :
    List Int :=
  if instanceThreshold < scaleCnt then
    if count = scaleCnt then []
    else
      instanceThreshold :: growthPlan instanceBatch scaleCnt instanceThreshold
  else [scaleCnt]

/-- Every request of the list, and the scale before it, is at most the next
one, and the last is the target. -/
def GrowsTo (count target : Int) (requests : List Int) : Prop :=
  (count :: requests).IsChain (· ≤ ·) ∧
    (count :: requests).getLast? = some target

section Calls

variable {backend : Backend} {name : String} {past : History} {count : Nat}
  {scaleCnt sleepBeforeNextTry instanceBatch instanceThreshold : Int}

/-- The requests of `scale_app` carry out its plan, unless they start with a
negative threshold. -/
theorem scaleRequests_planned (follows : FollowsScale backend name past count)
    (batchPos : 1 ≤ instanceBatch) (targetPossible : 0 ≤ scaleCnt)
    (thresholdPossible : instanceThreshold < scaleCnt →
      (count : Int) ≠ scaleCnt → 0 ≤ instanceThreshold)
    {fuel : Nat} (enough : scaleCnt.toNat + 2 ≤ fuel)
    (sleepBeforeNextTry : Int) :
    ∃ after, scaleRequests backend fuel name scaleCnt sleepBeforeNextTry
        instanceBatch instanceThreshold past = .ok () after ∧
      Grown name past count scaleCnt
        (scalePlan count scaleCnt instanceBatch instanceThreshold) after := by
  unfold scalePlan
  by_cases above : instanceThreshold < scaleCnt
  · rw [if_pos above]
    by_cases arrived : (count : Int) = scaleCnt
    · obtain ⟨tasks, asked, answered, lengthEq, settledAsked, _⟩ :=
        (settledAt_nil name count).getAppTasks follows
      rw [List.append_nil] at answered
      rw [if_pos arrived]
      refine ⟨past ++ asked, ?_, asked, rfl, arrived ▸ settledAsked⟩
      obtain ⟨rounds, rfl⟩ : ∃ rounds, fuel = rounds + 1 :=
        ⟨fuel - 1, by omega⟩
      have onlyRound : scaleBody backend name scaleCnt sleepBeforeNextTry
          instanceBatch instanceThreshold ⟨true, 0, 0⟩ past =
            .ok (.inl ()) (past ++ asked) := by
        unfold scaleBody
        rw [bind_of_ok answered, if_pos (lengthEq.trans arrived)]
        rfl
      rw [scaleRequests, if_pos above]
      exact bind_of_ok onlyRound
    · rw [if_neg arrived]
      exact scaleRequests_above follows batchPos
        (thresholdPossible above arrived) above arrived enough
  · rw [if_neg above]
    obtain ⟨scaled, waited, settledScaled⟩ :=
      (settledAt_nil name count).scaleAndWait follows scaleCnt targetPossible
        sleepBeforeNextTry
    rw [List.append_nil] at waited
    refine ⟨past ++ scaled, ?_, scaled, rfl, settledScaled⟩
    rw [scaleRequests, if_neg above]
    exact waited

/-- A call of `scale_app` that can carry out its plan does so and returns. -/
theorem scaleApp_planned (follows : FollowsScale backend name past count)
    (batchPos : 1 ≤ instanceBatch) (targetPossible : 0 ≤ scaleCnt)
    (thresholdPossible : instanceThreshold < scaleCnt →
      (count : Int) ≠ scaleCnt → 0 ≤ instanceThreshold)
    {fuel : Nat} (enough : scaleCnt.toNat + 2 ≤ fuel) {world : World}
    (reached : world.history = past) (registered : name ∈ world.hydra.apps)
    (sleepBeforeNextTry : Int) :
    ∃ after, scaleApp backend fuel name scaleCnt sleepBeforeNextTry
        instanceBatch instanceThreshold world = .ok () after ∧
      Grown name past count scaleCnt
        (scalePlan count scaleCnt instanceBatch instanceThreshold)
        after.history := by
  obtain ⟨scaled, requested, since, rfl, settled⟩ :=
    scaleRequests_planned follows batchPos targetPossible thresholdPossible
      enough sleepBeforeNextTry
  obtain ⟨answered, counted, later, historyEq, settledLater⟩ :=
    settled.refreshReply follows
  rw [scaleApp_eq registered, reached, requested]
  have notMissed : ¬ (True ∧ scaleCnt ≠ scaleCnt) := by simp
  simp only [answered, counted, RefreshReply.outcome, if_neg notMissed]
  exact ⟨⟨_, _⟩, rfl, later, historyEq, settledLater⟩

theorem scaleBody_adds (backend : Backend) (name : String)
    (scaleCnt sleepBeforeNextTry instanceBatch instanceThreshold : Int)
    (loop : ScaleLoop) :
    LeadsAlong (Adds Anything)
      (scaleBody backend name scaleCnt sleepBeforeNextTry instanceBatch
        instanceThreshold loop) := by
  apply (getAppTasks_addsAnything backend name).bind Adds.trans
  intro tasks
  split
  · exact leadsAlong_pure Adds.refl _
  · split
    · apply (scaleAndWait_adds backend name _ _).bind Adds.trans
      exact fun _ => leadsAlong_pure Adds.refl _
    · split
      · apply (scaleAndWait_adds backend name _ _).bind Adds.trans
        intro _
        apply (getAppTasks_addsAnything backend name).bind Adds.trans
        intro tasks
        apply (assertThat_adds _).bind Adds.trans
        exact fun _ => leadsAlong_pure Adds.refl _
      · apply (scaleAndWait_adds backend name _ _).bind Adds.trans
        exact fun _ => leadsAlong_pure Adds.refl _

/-- Above the threshold the first request is the threshold, whatever the
cluster answers. -/
theorem scaleRequests_first (follows : FollowsScale backend name past count)
    (above : instanceThreshold < scaleCnt) (notYet : (count : Int) ≠ scaleCnt)
    (instanceBatch sleepBeforeNextTry : Int) {fuel : Nat} (enough : 1 ≤ fuel) :
    ∃ asked answer, scales name asked = [] ∧
      Adds Anything
        (past ++ asked ++ [⟨.scaleApp name instanceThreshold, answer⟩])
        (stateAfter (scaleRequests backend fuel name scaleCnt
          sleepBeforeNextTry instanceBatch instanceThreshold past)) := by
  obtain ⟨tasks, asked, answered, lengthEq, settledAsked, _⟩ :=
    (settledAt_nil name count).getAppTasks follows
  rw [List.append_nil] at answered
  obtain ⟨rounds, rfl⟩ : ∃ rounds, fuel = rounds + 1 :=
    ⟨fuel - 1, by omega⟩
  refine ⟨asked, backend (past ++ asked) (.scaleApp name instanceThreshold),
    settledAsked.scales_eq, ?_⟩
  rw [← stateAfter_remote, scaleRequests, if_pos above]
  -- From the first request on, the round, the loop and its rest only add.
  have roundEq : scaleBody backend name scaleCnt sleepBeforeNextTry
      instanceBatch instanceThreshold ⟨true, 0, 0⟩ past =
        (scaleAndWait backend name instanceThreshold sleepBeforeNextTry >>=
          fun _ => pure (.inr ⟨false, 0 + instanceThreshold,
            scaleCnt - instanceThreshold⟩)) (past ++ asked) := by
    unfold scaleBody
    rw [bind_of_ok answered, if_neg (lengthEq ▸ notYet), if_pos rfl]
  have waited := leads_bind Adds.refl
    (remote backend (.scaleApp name instanceThreshold))
    (fun _ => remote_addsAnything backend
      (.waitAppReady name instanceThreshold sleepBeforeNextTry))
    (past ++ asked)
  have round : Adds Anything _ _ := leads_bind Adds.refl
    (scaleAndWait backend name instanceThreshold sleepBeforeNextTry)
    (fun _ => leadsAlong_pure Adds.refl (.inr ⟨false, 0 + instanceThreshold,
      scaleCnt - instanceThreshold⟩ : Unit ⊕ ScaleLoop))
    (past ++ asked)
  rw [← roundEq] at round
  apply Adds.trans _ _ _ waited
  apply Adds.trans _ _ _ round
  apply leads_bind Adds.refl
  intro next
  cases next with
  | inl result => exact leadsAlong_pure Adds.refl result
  | inr later =>
      exact leadsAlong_repeatUntil Adds.refl Adds.trans
        (scaleBody_adds backend name scaleCnt sleepBeforeNextTry instanceBatch
          instanceThreshold) rounds later

/-- The refresh after the requests only adds to what was exchanged. -/
theorem scaleApp_adds {fuel : Nat} {world : World}
    (registered : name ∈ world.hydra.apps) :
    Adds Anything
      (stateAfter (scaleRequests backend fuel name scaleCnt sleepBeforeNextTry
        instanceBatch instanceThreshold world.history))
      (stateAfter (scaleApp backend fuel name scaleCnt sleepBeforeNextTry
        instanceBatch instanceThreshold world)).history := by
  rw [scaleApp_eq registered]
  split
  · next stop history stopped =>
      rw [stopped]
      exact Adds.refl history
  · next result history requested =>
      rw [requested]
      have refreshed := refreshReply_adds backend name history
      dsimp only
      split
      · exact Adds.anything refreshed
      · rw [RefreshReply.stateAfter_outcome]
        exact Adds.anything refreshed

end Calls

/-! ## What scaling achieves -/

section Outcome

variable {backend : Backend} {name : String} {past : History} {count : Nat}
  {scaleCnt instanceBatch instanceThreshold : Int}

/-- Above the threshold the first scale `scale_app` requests is the
threshold. -/
theorem scaleApp_first (follows : FollowsScale backend name past count)
    (above : instanceThreshold < scaleCnt) (notYet : (count : Int) ≠ scaleCnt)
    (instanceBatch sleepBeforeNextTry : Int) {fuel : Nat} (enough : 1 ≤ fuel)
    {world : World} (reached : world.history = past)
    (registered : name ∈ world.hydra.apps) :
    ∃ since rest,
      (stateAfter (scaleApp backend fuel name scaleCnt sleepBeforeNextTry
        instanceBatch instanceThreshold world)).history = past ++ since ∧
      scales name since = instanceThreshold :: rest := by
  obtain ⟨asked, answer, noScales, requested⟩ :=
    scaleRequests_first follows above notYet instanceBatch sleepBeforeNextTry
      enough
  rw [← reached] at requested
  obtain ⟨more, historyEq, _⟩ :=
    requested.trans _ _ _ (scaleApp_adds registered)
  refine ⟨asked ++ [⟨.scaleApp name instanceThreshold, answer⟩] ++ more,
    scales name more, ?_, ?_⟩
  · rw [historyEq, reached]
    simp only [List.append_assoc]
  · have none : asked.filterMap (scaleOf name) = [] := noScales
    simp [scales, none, scaleOf]

/-- A growing plan that starts at the threshold grows from every count up to
the threshold. -/
theorem growsTo_scalePlan_iff (batchPos : 1 ≤ instanceBatch)
    (below : (count : Int) ≤ scaleCnt) :
    GrowsTo count scaleCnt
        (scalePlan count scaleCnt instanceBatch instanceThreshold) ↔
      (count : Int) = scaleCnt ∨ scaleCnt ≤ instanceThreshold ∨
        (count : Int) ≤ instanceThreshold := by
  unfold scalePlan GrowsTo
  by_cases above : instanceThreshold < scaleCnt
  · rw [if_pos above]
    by_cases arrived : (count : Int) = scaleCnt
    · rw [if_pos arrived, arrived]
      exact iff_of_true ⟨List.isChain_singleton _, rfl⟩ (Or.inl rfl)
    · have grows := (growthPlan_climbs instanceBatch scaleCnt
        instanceThreshold).imp fun here next climbs => climbs.1.le
      have ends := growthPlan_getLast? batchPos above.le
      rw [if_neg arrived, List.isChain_cons_cons, List.getLast?_cons_cons]
      constructor
      · exact fun ⟨⟨le, _⟩, _⟩ => Or.inr (Or.inr le)
      · intro condition
        exact ⟨⟨by omega, grows⟩, ends⟩
  · rw [if_neg above]
    have withinThreshold : scaleCnt ≤ instanceThreshold := by omega
    exact iff_of_true ⟨List.isChain_pair.mpr below, rfl⟩
      (Or.inr (Or.inl withinThreshold))

/-- Growing an application kills no instance: while it runs, every scale
request of `scale_app` is at least the scale before it, up to the target. -/
def GrowthKillsNothing (backend : Backend) (name : String) (past : History)
    (count : Nat) (fuel : Nat)
    (scaleCnt sleepBeforeNextTry instanceBatch instanceThreshold : Int)
    (world : World) : Prop :=
  ∃ since, (stateAfter (scaleApp backend fuel name scaleCnt sleepBeforeNextTry
      instanceBatch instanceThreshold world)).history = past ++ since ∧
    GrowsTo count scaleCnt (scales name since)

/-- Scaling up kills no instance exactly if nothing is to be done, the target
is within the threshold, or no more instances than the threshold run
already. -/
theorem growthKillsNothing_iff (follows : FollowsScale backend name past count)
    (batchPos : 1 ≤ instanceBatch) (below : (count : Int) ≤ scaleCnt)
    (sleepBeforeNextTry : Int) {fuel : Nat}
    (enough : scaleCnt.toNat + 2 ≤ fuel) {world : World}
    (reached : world.history = past) (registered : name ∈ world.hydra.apps) :
    GrowthKillsNothing backend name past count fuel scaleCnt sleepBeforeNextTry
        instanceBatch instanceThreshold world ↔
      (count : Int) = scaleCnt ∨ scaleCnt ≤ instanceThreshold ∨
        (count : Int) ≤ instanceThreshold := by
  have targetPossible : 0 ≤ scaleCnt := by omega
  by_cases thresholdPossible : instanceThreshold < scaleCnt →
      (count : Int) ≠ scaleCnt → 0 ≤ instanceThreshold
  · obtain ⟨after, returned, since, historyEq, settled⟩ :=
      scaleApp_planned follows batchPos targetPossible thresholdPossible enough
        reached registered sleepBeforeNextTry
    rw [← growsTo_scalePlan_iff batchPos below, ← settled.scales_eq,
      GrowthKillsNothing, returned, stateAfter, historyEq]
    constructor
    · rintro ⟨since', same, grows⟩
      rw [List.append_cancel_left same]
      exact grows
    · exact fun grows => ⟨since, rfl, grows⟩
  · push Not at thresholdPossible
    obtain ⟨above, notYet, negative⟩ := thresholdPossible
    obtain ⟨since, rest, historyEq, scalesEq⟩ := scaleApp_first follows above
      notYet instanceBatch sleepBeforeNextTry
      (show 1 ≤ fuel by omega) reached registered
    apply iff_of_false
    · rintro ⟨since', same, grows, _⟩
      rw [historyEq] at same
      rw [← List.append_cancel_left same, scalesEq,
        List.isChain_cons_cons] at grows
      omega
    · omega

/-- A test with 768 subscribers is scaled to 1000 with the default batches. -/
def rescaledWorld : World :=
  ⟨({ testName := "zmqScale", myaddr := "http://10.0.0.9:9800" } :
    HydraBase).setApp "/zst-sub" (.refreshed {}), []⟩

theorem rescaledWorld_registered : "/zst-sub" ∈ rescaledWorld.hydra.apps := by
  decide

theorem growthKillsNothing_zmq_iff :
    GrowthKillsNothing (scalingBackend "/zst-sub" 768) "/zst-sub" [] 768 1002
        1000 1 300 500 rescaledWorld ↔
      (768 : Int) = 1000 ∨ (1000 : Int) ≤ 500 ∨ (768 : Int) ≤ 500 :=
  growthKillsNothing_iff (scalingBackend_followsScale "/zst-sub" 768)
    (by decide) (by decide) 1 (by decide) rfl rescaledWorld_registered

/-- However an application grows, no instance is killed. -/
def GrowthNeverKills : Prop :=
  ∀ (backend : Backend) (name : String) (past : History) (count : Nat)
    (scaleCnt sleepBeforeNextTry instanceBatch instanceThreshold : Int)
    (world : World), FollowsScale backend name past count →
    1 ≤ instanceBatch → (count : Int) ≤ scaleCnt → world.history = past →
    name ∈ world.hydra.apps →
    ∃ bound, ∀ fuel ≥ bound,
      GrowthKillsNothing backend name past count fuel scaleCnt
        sleepBeforeNextTry instanceBatch instanceThreshold world

/-- On the way from 768 to 1000 instances 268 are killed first. -/
theorem growth_kills_first_batch : ¬ GrowthNeverKills := by
  intro never
  have follows := scalingBackend_followsScale "/zst-sub" 768
  obtain ⟨bound, kept⟩ := never _ _ _ _ 1000 1 300 500 rescaledWorld follows
    (by decide) (by decide) rfl rescaledWorld_registered
  obtain ⟨since, rest, historyEq, scalesEq⟩ := scaleApp_first follows
    (show (500 : Int) < 1000 by decide) (by decide) 300 1
    (show 1 ≤ bound + 1 by omega) (show rescaledWorld.history = [] from rfl)
    rescaledWorld_registered
  obtain ⟨since', same, grows, _⟩ := kept (bound + 1) (by omega)
  rw [historyEq] at same
  rw [← List.append_cancel_left same, scalesEq, List.isChain_cons_cons] at grows
  exact absurd grows.1 (by decide)

/-- Against a cluster that follows its requests `scale_app` returns with the
target reached.  Above the threshold each request after the first goes up by
at most a batch and stays within the target. -/
theorem scaleApp_reaches_target
    (follows : FollowsScale backend name past count)
    (targetPossible : 0 ≤ scaleCnt) (thresholdPossible : 0 ≤ instanceThreshold)
    (batchPos : 1 ≤ instanceBatch) (sleepBeforeNextTry : Int) {fuel : Nat}
    (enough : scaleCnt.toNat + 2 ≤ fuel) {world : World}
    (reached : world.history = past) (registered : name ∈ world.hydra.apps) :
    ∃ after since app,
      scaleApp backend fuel name scaleCnt sleepBeforeNextTry instanceBatch
        instanceThreshold world = .ok () after ∧
      after.history = past ++ since ∧
      backend after.history (.getApp name) = .ok (some app) ∧
      (app.tasks.length : Int) = scaleCnt ∧
      (instanceThreshold < scaleCnt →
        (scales name since).IsChain (Climbs instanceBatch scaleCnt)) := by
  obtain ⟨after, returned, since, historyEq, settled⟩ :=
    scaleApp_planned follows batchPos targetPossible
      (fun _ _ => thresholdPossible) enough reached registered
      sleepBeforeNextTry
  have stateEq := settled.state
  obtain ⟨app, answered, lengthEq⟩ := follows.tasks since
    (by rw [stateEq]) (by rw [stateEq]; exact targetPossible)
  rw [stateEq] at lengthEq
  refine ⟨after, since, app, returned, historyEq, ?_, lengthEq, ?_⟩
  · rw [historyEq]
    exact answered
  · intro above
    rw [settled.scales_eq, scalePlan, if_pos above]
    split
    · exact List.isChain_nil
    · exact growthPlan_climbs _ _ _

theorem scaleApp_reaches_thousand :
    ∃ after since app,
      scaleApp (scalingBackend "/zst-sub" 768) 1002 "/zst-sub" 1000 1 300 500
        rescaledWorld = .ok () after ∧
      after.history = [] ++ since ∧
      scalingBackend "/zst-sub" 768 after.history (.getApp "/zst-sub") =
        .ok (some app) ∧
      (app.tasks.length : Int) = 1000 ∧
      ((500 : Int) < 1000 →
        (scales "/zst-sub" since).IsChain (Climbs 300 1000)) :=
  scaleApp_reaches_target (scalingBackend_followsScale "/zst-sub" 768)
    (by decide) (by decide) (by decide) 1 (by decide) rfl
    rescaledWorld_registered

end Outcome

end HydraBase

end MScale
