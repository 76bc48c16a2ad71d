import MScale.HydraDeletion
import MScale.MarathonBackend

/-!
# Deleting and creating applications

The master deletes an application with `delete_app_ifexisting` and then calls
`wait_app_removal`.  This file follows the events of the two calls and of
`create_app`: which calls they make, after which answers, and on which answer
they return.
-/

namespace MScale

namespace MarathonIF

open StateErrors

/-! ## Deleting -/

/-- Marathon accepts the deletion of an application. -/
def accepted (appId : String) : McliEvent :=
  .called (.deleteApp appId false) (.ok ())

/-- Marathon does not know an application. -/
def unknown (appId text : String) : McliEvent :=
  .called (.getApp appId) (.error (.notFoundError text))

/-- What `delete_app_ifexisting` does after the given events: it polls its
application, and it has it deleted after a poll that showed it. -/
def PollsAndDeletes (appId : String) (earlier : McliHistory) : McliEvent → Prop
  | .called (.getApp polled) _ => polled = appId
  | .called (.deleteApp deleted force) _ =>
      deleted = appId ∧ force = false ∧
        ∃ shown, lastPoll earlier = some (.ok shown)
  | .called _ _ => False
  | .looked => True
  | .slept _ => True

/-- An outcome after events of a deletion: an accepted deletion is the last
event and lets the call return, and the call returns only on that or because
Marathon does not know the application. -/
structure Deletes (appId : String) (most : ℕ) (history more : McliHistory)
    (outcome : EStateM.Result Stop McliHistory Unit) : Prop where
  added : stateAfter outcome = history ++ more
  permitted : Permitted (PollsAndDeletes appId) more
  few : more.countP isCall ≤ most
  returns : ∀ earlier later, more = earlier ++ accepted appId :: later →
    later = [] ∧ ∃ after, outcome = .ok () after
  returned : ∀ after, outcome = .ok () after →
    more.getLast? = some (accepted appId) ∨
      ∃ text, more.getLast? = some (unknown appId text)
  finished : ∀ after, outcome ≠ .error .unfinished after

section Tries

variable {appId : String} {most : ℕ} {history more : McliHistory}

theorem FailedTries.repeats {call : McliCall} {tried : McliHistory}
    (failed : FailedTries call tried) :
    ∀ event ∈ tried, Repeats call event := by
  intro event member
  rcases failed event member with rfl | rfl | ⟨error, rfl⟩
  · trivial
  · trivial
  · exact rfl

theorem FailedTries.accepted_notMem {call : McliCall} {tried : McliHistory}
    (failed : FailedTries call tried) : accepted appId ∉ tried := by
  intro member
  rcases failed _ member with isLooked | isSlept | ⟨error, isFailed⟩
  · cases isLooked
  · cases isSlept
  · cases isFailed

theorem PollsAndDeletes.append {earlier : McliHistory} {event : McliEvent}
    (allowed : PollsAndDeletes appId earlier event) (before : McliHistory) :
    PollsAndDeletes appId (before ++ earlier) event := by
  cases event with
  | called call answer =>
      cases call with
      | deleteApp deleted force =>
          obtain ⟨sameApp, noForce, shown, shownEq⟩ := allowed
          refine ⟨sameApp, noForce, shown, ?_⟩
          rw [lastPoll_append, shownEq, Option.some_or]
      | _ => exact allowed
  | looked => trivial
  | slept seconds => trivial

theorem permitted_polls (repeats : ∀ event ∈ more, Repeats (.getApp appId) event) :
    Permitted (PollsAndDeletes appId) more := by
  rintro earlier event later rfl
  have allowed := repeats event (by simp)
  cases event with
  | called call answer =>
      cases allowed
      rfl
  | looked => trivial
  | slept seconds => trivial

/-- Deletions are permitted right after a poll that showed the application. -/
theorem permitted_deletes {polls : McliHistory} {shown : App}
    (permitted : Permitted (PollsAndDeletes appId) polls)
    (shownEq : lastPoll polls = some (.ok shown))
    (repeats : ∀ event ∈ more, Repeats (.deleteApp appId false) event) :
    Permitted (PollsAndDeletes appId) (polls ++ more) := by
  apply permitted.append
  rintro earlier event later rfl
  rw [List.forall_mem_append] at repeats
  have allowed := repeats.2 event List.mem_cons_self
  cases event with
  | called call answer =>
      cases allowed
      refine ⟨rfl, rfl, shown, ?_⟩
      rw [lastPoll_append, lastPoll_of_repeats (by simp) repeats.1, shownEq,
        Option.none_or]
  | looked => trivial
  | slept seconds => trivial

/-- Events without an accepted deletion leave a call to go on, or to end with an
exception. -/
theorem Deletes.of_error {stop : Stop} {after : McliHistory}
    (added : after = history ++ more)
    (permitted : Permitted (PollsAndDeletes appId) more)
    (few : more.countP isCall ≤ most) (none : accepted appId ∉ more)
    (finished : stop ≠ .unfinished) :
    Deletes appId most history more (.error stop after) where
  added := added
  permitted := permitted
  few := few
  returns := by
    rintro earlier later rfl
    exact (none (by simp)).elim
  returned := by rintro after ⟨⟩
  finished := by
    rintro after same
    cases same
    exact finished rfl

end Tries

section Try

variable (marathon : Marathon) {fuel : Nat} (appId : String)

/-- The deletion after a poll that showed the application. -/
theorem deleteApp_deletes (enough : 30 < fuel) {history polls : McliHistory}
    {shown : App} (permitted : Permitted (PollsAndDeletes appId) polls)
    (shownEq : lastPoll polls = some (.ok shown))
    (few : polls.countP isCall ≤ 31) (none : accepted appId ∉ polls) :
    ∃ more, Deletes appId 52 history more
      (deleteApp marathon fuel appId false 200 (history ++ polls)) := by
  have twenty : ⌈(200 / 10 : ℚ)⌉₊ = 20 := by norm_num
  have ended : CallEnds (.deleteApp appId false) answered "delete_app" 20
      (history ++ polls)
      (deleteApp marathon fuel appId false 200 (history ++ polls)) := by
    rw [← twenty]
    exact (mcli_attempts marathon _).retrying_callEnds
      (by rw [twenty]; omega) "delete_app" _
  generalize deleteApp marathon fuel appId false 200 (history ++ polls) = outcome
    at ended
  cases ended with
  | @returned tried answer result failed fewTried found =>
      obtain rfl : answer = .ok () := by
        cases answer with
        | ok answer => rfl
        | error error => cases found
      have repeats : ∀ event ∈ tried ++ [accepted appId],
          Repeats (.deleteApp appId false) event := by
        rw [List.forall_mem_append]
        exact ⟨failed.repeats, by simp [accepted, Repeats]⟩
      have before : accepted appId ∉ polls ++ tried := by
        rw [List.mem_append, not_or]
        exact ⟨none, failed.accepted_notMem⟩
      refine ⟨polls ++ (tried ++ [accepted appId]), List.append_assoc _ _ _,
        permitted_deletes permitted shownEq repeats, ?_, ?_, ?_, ?_⟩
      · have one : [accepted appId].countP isCall = 1 := rfl
        rw [List.countP_append, List.countP_append, one]
        omega
      · intro earlier later split
        refine ⟨?_, _, rfl⟩
        rw [← List.append_assoc] at split
        rcases List.eq_nil_or_concat later with isLast | ⟨rest, last, rfl⟩
        · exact isLast
        · rw [List.concat_eq_append, ← List.cons_append, ← List.append_assoc]
            at split
          rw [(List.append_inj' split rfl).1] at before
          exact (before (by simp)).elim
      · intro after _
        rw [← List.append_assoc, List.getLast?_concat]
        exact Or.inl rfl
      · rintro after ⟨⟩
  | @expired tried failed fewTried =>
      refine ⟨polls ++ tried, .of_error (List.append_assoc _ _ _)
        (permitted_deletes permitted shownEq failed.repeats) ?_ ?_
        (by simp [timedOut])⟩
      · rw [List.countP_append]
        omega
      · rw [List.mem_append, not_or]
        exact ⟨none, failed.accepted_notMem⟩

/-- One try makes at most 31 polls and 21 deletions. -/
theorem deleteIfexistingTry_deletes (enough : 30 < fuel)
    (history : McliHistory) :
    ∃ more, Deletes appId 52 history more
      (deleteIfexistingTry marathon fuel appId history) := by
  have polled := (getAppAttempt_attempts marathon appId).retrying_callEnds
    (pausesInTimeout_lt enough) "get_app" history
  change CallEnds _ _ _ _ _ (getApp marathon fuel appId 300 history) at polled
  have thirty : ⌈(300 / 10 : ℚ)⌉₊ = 30 := by norm_num
  rw [thirty] at polled
  unfold deleteIfexistingTry
  cases polledEq : getApp marathon fuel appId 300 history with
  | error stop after =>
      rw [polledEq] at polled
      rw [bind_of_error polledEq]
      cases polled with
      | expired failed few =>
          exact ⟨_, .of_error rfl (permitted_polls failed.repeats) (by omega)
            failed.accepted_notMem (by simp [timedOut])⟩
  | ok result after =>
      rw [polledEq] at polled
      rw [bind_of_ok polledEq]
      cases polled with
      | @returned tried answer result failed few found =>
          have repeats : ∀ event ∈ tried ++ [McliEvent.called (.getApp appId) answer],
              Repeats (.getApp appId) event := by
            rw [List.forall_mem_append]
            exact ⟨failed.repeats, by simp [Repeats]⟩
          have none :
              accepted appId ∉ tried ++ [McliEvent.called (.getApp appId) answer] := by
            rw [List.mem_append, not_or]
            exact ⟨failed.accepted_notMem, by simp [accepted]⟩
          have fewPolls : (tried ++
              [McliEvent.called (.getApp appId) answer]).countP isCall ≤ 31 := by
            rw [List.countP_append]
            exact Nat.add_le_add few le_rfl
          cases result with
          | none =>
              obtain ⟨text, rfl⟩ := foundApp_eq_none found
              refine ⟨_, rfl, permitted_polls repeats, by omega, ?_, ?_, ?_⟩
              · intro earlier later split
                exact (none (by rw [split]; simp)).elim
              · intro after _
                rw [List.getLast?_concat]
                exact Or.inr ⟨text, rfl⟩
              · rintro after ⟨⟩
          | some shown =>
              obtain rfl := foundApp_eq_some found
              have shownEq : lastPoll (tried ++
                  [McliEvent.called (.getApp appId) (.ok shown)]) =
                    some (.ok shown) := by
                rw [lastPoll_append]
                rfl
              exact deleteApp_deletes marathon appId enough
                (permitted_polls repeats) shownEq fewPolls none

theorem Deletes.accepted_notMem {appId : String} {most : ℕ}
    {history more after : McliHistory} {stop : Stop}
    (deletes : Deletes appId most history more (.error stop after)) :
    accepted appId ∉ more := by
  intro member
  obtain ⟨earlier, later, rfl⟩ := List.append_of_mem member
  obtain ⟨_, after', returned⟩ := deletes.returns earlier later rfl
  cases returned

/-- Events of earlier tries come before those of later ones. -/
theorem Deletes.after_tries {appId : String} {most mostLater : ℕ}
    {history tried more : McliHistory}
    {outcome : EStateM.Result Stop McliHistory Unit}
    (permitted : Permitted (PollsAndDeletes appId) tried)
    (few : tried.countP isCall ≤ most) (none : accepted appId ∉ tried)
    (deletes : Deletes appId mostLater (history ++ tried) more outcome) :
    Deletes appId (most + mostLater) history (tried ++ more) outcome where
  added := deletes.added.trans (List.append_assoc _ _ _)
  permitted := permitted.append fun _ _ _ split =>
    (deletes.permitted _ _ _ split).append tried
  few := by
    rw [List.countP_append]
    exact Nat.add_le_add few deletes.few
  returns := by
    intro earlier later split
    rcases List.append_eq_append_iff.mp split with
      ⟨middle, rfl, moreEq⟩ | ⟨middle, triedEq, restEq⟩
    · exact deletes.returns middle later moreEq
    · cases middle with
      | nil => exact deletes.returns [] later restEq.symm
      | cons head middle =>
          obtain ⟨rfl, -⟩ := List.cons.inj restEq
          exact (none (by simp [triedEq])).elim
  returned := by
    intro after returned
    rcases deletes.returned after returned with last | ⟨text, last⟩
    · exact Or.inl (by rw [List.getLast?_append, last, Option.some_or])
    · exact Or.inr ⟨text, by rw [List.getLast?_append, last, Option.some_or]⟩
  finished := deletes.finished

/-- Each try is permitted, and only the last one has a deletion accepted. -/
theorem deleteIfexistingTries_deletes (enough : 30 < fuel) (trys : ℕ)
    (last : PyError) (history : McliHistory) :
    ∃ more, Deletes appId (52 * trys) history more
      (deleteIfexistingTries marathon fuel appId trys last history) := by
  induction trys generalizing last history with
  | zero =>
      exact ⟨[], .of_error (List.append_nil history).symm permitted_nil
        (Nat.zero_le _) List.not_mem_nil (by simp)⟩
  | succ trys ih =>
      obtain ⟨tried, deletes⟩ :=
        deleteIfexistingTry_deletes marathon appId enough history
      unfold deleteIfexistingTries
      cases outcomeEq : deleteIfexistingTry marathon fuel appId history with
      | ok value after =>
          rw [outcomeEq] at deletes
          rw [tryCatch_of_ok outcomeEq]
          exact ⟨tried, deletes.added, deletes.permitted,
            deletes.few.trans (by omega), deletes.returns, deletes.returned,
            deletes.finished⟩
      | error stop after =>
          rw [outcomeEq] at deletes
          rw [tryCatch_of_error outcomeEq]
          have afterEq : after = history ++ tried := deletes.added
          cases stop with
          | unfinished => exact (deletes.finished after rfl).elim
          | raised error =>
              have slept : sleepFor 10 after =
                  .ok () (history ++ (tried ++ [.slept 10])) := by
                rw [sleepFor_of_nonneg (by norm_num), afterEq, List.append_assoc]
              dsimp only
              rw [bind_of_ok slept]
              obtain ⟨more, deletesLater⟩ :=
                ih error (history ++ (tried ++ [.slept 10]))
              have sleeping : Permitted (PollsAndDeletes appId)
                  (tried ++ [.slept 10]) := deletes.permitted.concat trivial
              refine ⟨tried ++ [.slept 10] ++ more, ?_⟩
              rw [Nat.mul_succ, Nat.add_comm]
              refine deletesLater.after_tries sleeping ?_ ?_
              · rw [List.countP_append]
                exact deletes.few
              · rw [List.mem_append, not_or]
                exact ⟨deletes.accepted_notMem, by simp [accepted]⟩

/-- However Marathon behaves, `delete_app_ifexisting` only polls its application
and has it deleted after a poll that showed it.  It returns right after the only
accepted deletion, or after the answer that Marathon does not know the
application, and makes at most 52 calls a try. -/
theorem deleteAppIfexisting_deletes (enough : 30 < fuel) (trys : Int)
    (history : McliHistory) :
    ∃ more, Deletes appId (52 * trys.toNat) history more
      (deleteAppIfexisting marathon fuel appId trys history) :=
  deleteIfexistingTries_deletes marathon appId enough trys.toNat _ history

theorem deleteAppIfexisting_deletes_calm :
    ∃ more, Deletes "/zst-sub" (52 * (4 : Int).toNat) [] more
      (deleteAppIfexisting (calmMarathon 3) 31 "/zst-sub" 4 []) :=
  deleteAppIfexisting_deletes (calmMarathon 3) "/zst-sub" (by decide) 4 []

end Try

/-! ## Waiting until an application is removed -/

section Removal

variable {marathon : Marathon} {fuel : Nat} {app : String}

/-- A round that ends the loop ends with the answer that Marathon does not know
the application. -/
theorem waitAppRemovalBody_returned (enough : 30 < fuel)
    {history after : McliHistory} {value : Bool}
    (returned : waitAppRemovalBody marathon fuel app () history =
      .ok (.inl value) after) :
    ∃ text, after.getLast? = some (unknown app text) := by
  have polled := (getAppAttempt_attempts marathon app).retrying_callEnds
    (pausesInTimeout_lt enough) "get_app" history
  change CallEnds _ _ _ _ _ (getApp marathon fuel app 300 history) at polled
  obtain ⟨result, middle, polledEq, rest⟩ := bind_ok_iff.mp returned
  rw [polledEq] at polled
  cases polled with
  | returned failed few found =>
      cases result with
      | none =>
          obtain ⟨text, rfl⟩ := foundApp_eq_none found
          cases rest
          rw [← List.append_assoc, List.getLast?_concat]
          exact ⟨text, rfl⟩
      | some shown =>
          obtain ⟨_, _, _, goesOn⟩ := bind_ok_iff.mp rest
          cases goesOn

/-- `wait_app_removal` only polls its application, and returns right after the
answer that Marathon does not know it. -/
theorem waitAppRemoval_polls (enough : 30 < fuel) (history : McliHistory) :
    let outcome := waitAppRemoval marathon fuel app history
    AddsRepeats (.getApp app) history (stateAfter outcome) ∧
      ∀ value after, outcome = .ok value after →
        ∃ text, after.getLast? = some (unknown app text) := by
  constructor
  · apply leadsAlong_repeatUntil (AddsRepeats.refl _) AddsRepeats.trans
    intro _
    apply LeadsAlong.bind AddsRepeats.trans
    · exact retrying_addsRepeats marathon (getAppAttempt_attempts marathon app)
        (pausesInTimeout_lt enough) "get_app"
    · intro result
      cases result with
      | none => exact leadsAlong_pure (AddsRepeats.refl _) _
      | some shown =>
          apply LeadsAlong.bind AddsRepeats.trans
          · exact sleepFor_addsRepeats _ _
          · exact fun _ => leadsAlong_pure (AddsRepeats.refl _) _
  · intro value after returned
    obtain ⟨_, before, _, round⟩ := repeatUntil_returned
      (fun _ _ _ _ _ _ => trivial) (show (fun _ _ => True) () history from trivial)
      returned
    exact waitAppRemovalBody_returned enough round

end Removal

/-! ## Deleting through the master -/

section Master

variable {marathon : Marathon} {fuel : Nat} {others : Backend}

/-- A request that goes to Marathon and returns was carried out. -/
theorem remote_performed {request : Request}
    {program : MarathonM request.Answer} {history later : History}
    {answer : request.Answer}
    (performs : perform marathon fuel request = some program)
    (returned : remote (marathonBackend marathon fuel others) request history =
      .ok answer later) :
    program (replay marathon fuel history) =
      .ok answer (replay marathon fuel later) := by
  unfold remote at returned
  have answerEq : marathonBackend marathon fuel others history request =
      answerOf (program (replay marathon fuel history)) := by
    rw [marathonBackend, performs]
  rw [answerEq] at returned
  cases ended : program (replay marathon fuel history) with
  | ok value events =>
      rw [ended] at returned
      cases returned
      rw [replay_snoc]
      simp only [performs, ended]
      rfl
  | error stop events =>
      rw [ended] at returned
      cases stop <;> cases returned

/-- Whatever Marathon and the rest of the cluster do, the master returns from
deleting an application and waiting for its removal only after Marathon has
answered that it does not know the application. -/
theorem deleteApp_removes (enough : 30 < fuel) {rounds : Nat} {app : String}
    {timeout threshold instanceBatch : Int} {world after : World}
    (returned : HydraBase.deleteApp (marathonBackend marathon fuel others) rounds
      app timeout true threshold instanceBatch world = .ok () after) :
    app ∉ after.hydra.apps ∧
      ∃ text, (replay marathon fuel after.history).getLast? =
        some (unknown app text) := by
  rw [HydraBase.deleteApp_eq] at returned
  obtain ⟨history, requested, rfl⟩ := onPart_ok_iff.mp returned
  refine ⟨by simp, ?_⟩
  unfold HydraBase.deleteRequests at requested
  obtain ⟨a, middle, _, deleting⟩ := bind_ok_iff.mp requested
  obtain ⟨before, removing⟩ : ∃ before,
      (do remote (marathonBackend marathon fuel others)
            (.deleteAppIfexisting app timeout)
          remote (marathonBackend marathon fuel others)
            (.waitAppRemoval app)) before = .ok () history := by
    cases a with
    | none => exact ⟨middle, deleting⟩
    | some a =>
        dsimp only at deleting
        split at deleting
        · obtain ⟨_, scaled, _, deleting⟩ := bind_ok_iff.mp deleting
          obtain ⟨_, deployed, _, deleting⟩ := bind_ok_iff.mp deleting
          exact ⟨deployed, deleting⟩
        · obtain ⟨_, deployed, _, deleting⟩ := bind_ok_iff.mp deleting
          exact ⟨deployed, deleting⟩
  obtain ⟨_, deleted, _, waited⟩ := bind_ok_iff.mp removing
  have removed := remote_performed rfl waited
  obtain ⟨value, removed⟩ := discard_ok_iff.mp removed
  exact (waitAppRemoval_polls enough _).2 value _ removed

end Master

/-- Marathon accepts the deletion of an application, forced or not. -/
def removes (appId : String) : McliEvent → Bool
  | .called (.deleteApp removed _) (.ok _) => removed = appId
  | _ => false

/-- A Marathon that runs one task of every application until it accepts its
deletion. -/
def tidyMarathon : Marathon :=
  { calmMarathon 1 with
    answer := fun history call =>
      match call with
      | .getApp appId =>
          if history.any (removes appId) then
            .error (.notFoundError "App '/zst-sub' does not exist")
          else .ok ⟨[⟨"task", "slave-0", [31000]⟩], 1, []⟩
      | call => (calmMarathon 1).answer history call }

/-- A world after deleting an application from it. -/
def removedWorld : World :=
  stateAfter (HydraBase.deleteApp
    (marathonBackend tidyMarathon 31 steadyBackend) 1 "/zst-sub" 1 true 200 100
    HydraBase.rescaledWorld)

theorem removedWorld_returned :
    HydraBase.deleteApp (marathonBackend tidyMarathon 31 steadyBackend) 1
      "/zst-sub" 1 true 200 100 HydraBase.rescaledWorld =
        .ok () removedWorld :=
  eq_ok_of_returns (by decide +kernel)

theorem deleteApp_removes_tidy :
    "/zst-sub" ∉ removedWorld.hydra.apps ∧
      ∃ text, (replay tidyMarathon 31 removedWorld.history).getLast? =
        some (unknown "/zst-sub" text) :=
  deleteApp_removes (by decide) removedWorld_returned

/-! ## Creating -/

/-- What tries of `create_app` leave in the history that find the application
locked. -/
def lockedTries (appId : String) (attr : MarathonApp)
    (errors : List McliError) : McliHistory :=
  errors.flatMap fun error =>
    [.called (.createApp appId attr) (.error error), .slept 1]

/-- After the answers `errors`, all saying that the application is locked, the
tries are used up, or one more call has another answer, which decides. -/
structure CreationEnds (marathon : Marathon) (appId : String)
    (attr : MarathonApp) (trys : ℕ) (last : McliError) (history : McliHistory)
    (errors : List McliError)
    (outcome : EStateM.Result Stop McliHistory MarathonApp) : Prop where
  locked : ∀ error ∈ errors, isLocked error = true
  answers : ∀ earlier error later, errors = earlier ++ error :: later →
    marathon.answer (history ++ lockedTries appId attr earlier)
      (.createApp appId attr) = .error error
  last :
    let tried := history ++ lockedTries appId attr errors
    (errors.length = trys ∧ outcome =
      .error (.raised (.exception (errors.getLast?.getD last).text)) tried) ∨
    (errors.length < trys ∧
      match marathon.answer tried (.createApp appId attr) with
      | .ok app =>
          outcome = .ok app (tried ++ [.called (.createApp appId attr) (.ok app)])
      | .error error => isLocked error = false ∧
          outcome = .error (.raised (.exception error.text))
            (tried ++ [.called (.createApp appId attr) (.error error)]))

section Creation

variable (marathon : Marathon) (appId : String) (attr : MarathonApp)

theorem lockedTries_cons (error : McliError) (errors : List McliError)
    (history : McliHistory) :
    history ++ lockedTries appId attr (error :: errors) =
      history ++ [.called (.createApp appId attr) (.error error), .slept 1] ++
        lockedTries appId attr errors :=
  (List.append_assoc _ _ _).symm

theorem createTries_of_locked {trys : ℕ} {last error : McliError}
    {history : McliHistory}
    (answerEq : marathon.answer history (.createApp appId attr) = .error error)
    (locked : isLocked error = true) :
    createTries marathon appId attr (trys + 1) last history =
      createTries marathon appId attr trys error (history ++
        [.called (.createApp appId attr) (.error error), .slept 1]) := by
  have called : mcli marathon (.createApp appId attr) history =
      .error error (history ++
        [.called (.createApp appId attr) (.error error)]) := by
    rw [mcli, answerEq]
  rw [createTries]
  simp only [called, locked, if_true]
  rw [bind_of_ok (sleepFor_of_nonneg zero_le_one _), List.append_assoc]
  rfl

theorem createTries_ends (trys : ℕ) (last : McliError) (history : McliHistory) :
    ∃ errors, CreationEnds marathon appId attr trys last history errors
      (createTries marathon appId attr trys last history) := by
  induction trys generalizing last history with
  | zero =>
      refine ⟨[], by simp, by simp, Or.inl ⟨rfl, ?_⟩⟩
      rw [lockedTries, List.flatMap_nil, List.append_nil]
      rfl
  | succ trys ih =>
      cases answerEq : marathon.answer history (.createApp appId attr) with
      | ok app =>
          refine ⟨[], by simp, by simp, Or.inr ⟨Nat.succ_pos trys, ?_⟩⟩
          simp [createTries, lockedTries, mcli, answerEq]
      | error error =>
          by_cases isLockedError : isLocked error = true
          · rw [createTries_of_locked marathon appId attr answerEq isLockedError]
            obtain ⟨errors, locked, answers, ended⟩ := ih error (history ++
              [.called (.createApp appId attr) (.error error), .slept 1])
            refine ⟨error :: errors,
              List.forall_mem_cons.mpr ⟨isLockedError, locked⟩, ?_, ?_⟩
            · intro earlier other later split
              cases earlier with
              | nil =>
                  obtain ⟨rfl, -⟩ := List.cons.inj split
                  rw [lockedTries, List.flatMap_nil, List.append_nil]
                  exact answerEq
              | cons first earlier =>
                  obtain ⟨rfl, rest⟩ := List.cons.inj split
                  rw [lockedTries_cons]
                  exact answers earlier other later rest
            · rw [lockedTries_cons, List.length_cons,
                Nat.add_left_inj, Nat.add_lt_add_iff_right, List.getLast?_cons,
                Option.getD_some]
              exact ended
          · refine ⟨[], by simp, by simp, Or.inr ⟨Nat.succ_pos trys, ?_⟩⟩
            simp [createTries, lockedTries, mcli, answerEq, isLockedError]

/-- `create_app` does not call Marathon with an id that is not valid.  Otherwise
it makes at most ten calls, a second apart, and all but the last one find the
application locked; it returns what Marathon created or raises the exception of
the last call. -/
theorem createApp_ends (history : McliHistory) :
    if isValidAppId appId then
      ∃ errors, CreationEnds marathon appId attr 10 (.other "") history errors
        (createApp marathon appId attr history)
    else
      createApp marathon appId attr history =
        .error (.raised (.exception "Invalid app_id")) history := by
  unfold createApp
  split
  · exact createTries_ends marathon appId attr 10 (.other "") history
  · rfl

end Creation

end MarathonIF

end MScale
