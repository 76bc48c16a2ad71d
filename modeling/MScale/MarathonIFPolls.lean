import MScale.MarathonIFRetries
import Mathlib.Data.List.Induction

/-!
# Polling until an application is ready

`wait_app_ready` polls an application and scales it down while too many of its
tasks run.  This file follows the events of the call: which calls it makes, in
which order, and which answer it returns on.
-/

namespace MScale

namespace MarathonIF

open StateErrors

/-! ## What happens before an event -/

/-- Every event is allowed by the events before it. -/
def Permitted (allowed : McliHistory → McliEvent → Prop)
    (events : McliHistory) : Prop :=
  ∀ earlier event later, events = earlier ++ event :: later →
    allowed earlier event

section Permitted

variable {allowed : McliHistory → McliEvent → Prop} {first second : McliHistory}

theorem permitted_nil : Permitted allowed [] := by
  intro earlier event later eventsEq
  simp at eventsEq

/-- Events follow permitted ones if what happened before allows each of
them. -/
theorem Permitted.append (permitted : Permitted allowed first)
    (permittedLater : ∀ earlier event later,
      second = earlier ++ event :: later → allowed (first ++ earlier) event) :
    Permitted allowed (first ++ second) := by
  intro earlier event later eventsEq
  rcases List.append_eq_append_iff.mp eventsEq with
    ⟨middle, rfl, secondEq⟩ | ⟨middle, firstEq, restEq⟩
  · exact permittedLater middle event later secondEq
  · cases middle with
    | nil =>
        rw [List.append_nil] at firstEq
        subst firstEq
        rw [← List.append_nil first]
        exact permittedLater [] event later restEq.symm
    | cons head middle =>
        obtain ⟨rfl, -⟩ := List.cons.inj restEq
        exact permitted earlier event middle firstEq

theorem Permitted.concat (permitted : Permitted allowed first)
    {event : McliEvent} (allowedNow : allowed first event) :
    Permitted allowed (first ++ [event]) := by
  apply permitted.append
  intro earlier other later split
  cases earlier with
  | nil =>
      obtain ⟨rfl, -⟩ := List.cons.inj split
      rwa [List.append_nil]
  | cons head earlier => simp at split

end Permitted

/-- The answer to the last poll. -/
def lastPoll (events : McliHistory) : Option (Except McliError App) :=
  events.foldl (fun last event =>
    match event with
    | .called (.getApp _) answer => some answer
    | _ => last) none

/-- What `wait_app_ready` does after the given events: it polls its
application, and it scales it to its own number of tasks after a poll that
showed more tasks running. -/
def PollsAndScales (app : String) (runningCount : Int)
    (earlier : McliHistory) : McliEvent → Prop
  | .called (.getApp appId) _ => appId = app
  | .called (.scaleApp appId instances) _ =>
      appId = app ∧ instances = runningCount ∧
        ∃ shown, lastPoll earlier = some (.ok shown) ∧
          runningCount < shown.tasksRunning
  | .called _ _ => False
  | .looked => True
  | .slept _ => True

/-- The events of a repeated call. -/
def Repeats (call : McliCall) : McliEvent → Prop
  | .called other _ => other = call
  | .looked => True
  | .slept _ => True

theorem lastPoll_append (first second : McliHistory) :
    lastPoll (first ++ second) = (lastPoll second).or (lastPoll first) := by
  induction second using List.reverseRecOn with
  | nil => simp [lastPoll]
  | append_singleton events event ih =>
      rw [← List.append_assoc]
      simp only [lastPoll, List.foldl_append] at ih ⊢
      cases event with
      | called call answer =>
          cases call with
          | getApp appId => rfl
          | _ => exact ih
      | looked => exact ih
      | slept seconds => exact ih

theorem lastPoll_of_repeats {call : McliCall}
    (notPoll : ∀ appId, call ≠ .getApp appId) {events : McliHistory}
    (repeats : ∀ event ∈ events, Repeats call event) :
    lastPoll events = none := by
  induction events using List.reverseRecOn with
  | nil => rfl
  | append_singleton events event ih =>
      rw [List.forall_mem_append] at repeats
      rw [lastPoll_append, ih repeats.1, Option.or_none]
      have last := repeats.2 event List.mem_cons_self
      cases event with
      | called other answer =>
          obtain rfl : other = call := last
          cases other with
          | getApp appId => exact (notPoll appId rfl).elim
          | _ => rfl
      | looked => rfl
      | slept seconds => rfl

theorem PollsAndScales.append {app : String} {runningCount : Int}
    {earlier : McliHistory} {event : McliEvent}
    (allowed : PollsAndScales app runningCount earlier event)
    (before : McliHistory) :
    PollsAndScales app runningCount (before ++ earlier) event := by
  cases event with
  | called call answer =>
      cases call with
      | scaleApp appId instances =>
          obtain ⟨sameApp, sameCount, shown, shownEq, more⟩ := allowed
          refine ⟨sameApp, sameCount, shown, ?_, more⟩
          rw [lastPoll_append, shownEq, Option.some_or]
      | _ => exact allowed
  | looked => trivial
  | slept seconds => trivial

theorem pollsAndScales_of_repeats {app : String} (runningCount : Int)
    (earlier : McliHistory) {event : McliEvent}
    (repeats : Repeats (.getApp app) event) :
    PollsAndScales app runningCount earlier event := by
  cases event with
  | called call answer =>
      cases repeats
      rfl
  | looked => trivial
  | slept seconds => trivial

/-! ## The events of a repeated call -/

/-- What was added are events of a repeated call. -/
def AddsRepeats (call : McliCall) (before after : McliHistory) : Prop :=
  ∃ more, after = before ++ more ∧ ∀ event ∈ more, Repeats call event

theorem AddsRepeats.refl (call : McliCall) (history : McliHistory) :
    AddsRepeats call history history :=
  ⟨[], (List.append_nil history).symm, by simp⟩

theorem AddsRepeats.trans {call : McliCall} (first second third : McliHistory)
    (added : AddsRepeats call first second)
    (addedMore : AddsRepeats call second third) :
    AddsRepeats call first third := by
  obtain ⟨more, rfl, repeats⟩ := added
  obtain ⟨later, rfl, repeatsLater⟩ := addedMore
  exact ⟨more ++ later, List.append_assoc _ _ _,
    List.forall_mem_append.mpr ⟨repeats, repeatsLater⟩⟩

section Repeated

variable {Value : Type} {marathon : Marathon} {call : McliCall}
  {value : Except McliError call.Answer → Option Value} {function : String}
  {deadline : ℚ} {start : McliHistory} {errors : List McliError}
  {outcome : EStateM.Result Stop McliHistory Value}

theorem repeats_failedCalls (call : McliCall) (errors : List McliError) :
    ∀ event ∈ failedCalls call errors, Repeats call event := by
  intro event member
  obtain ⟨error, _, member⟩ := List.mem_flatMap.mp member
  simp only [List.mem_cons, List.not_mem_nil, or_false] at member
  rcases member with rfl | rfl | rfl
  · trivial
  · exact rfl
  · trivial

theorem EndsAfter.repeats
    (ended : EndsAfter marathon call value function deadline start errors
      outcome) :
    AddsRepeats call start (stateAfter outcome) := by
  have failed := repeats_failedCalls call errors
  rcases ended.last with ⟨_, result, _, rfl⟩ | ⟨_, rfl⟩
  · refine ⟨failedCalls call errors ++ ([.looked] ++ [.called call
      (marathon.answer (start ++ failedCalls call errors ++ [.looked]) call)]),
      ?_, ?_⟩
    · simp only [stateAfter, List.append_assoc]
    · simp only [List.mem_append, List.mem_singleton]
      rintro event (member | rfl | rfl)
      · exact failed event member
      · trivial
      · exact rfl
  · refine ⟨failedCalls call errors ++ [.looked], ?_, ?_⟩
    · simp only [stateAfter, List.append_assoc]
    · simp only [List.mem_append, List.mem_singleton]
      rintro event (member | rfl)
      · exact failed event member
      · trivial

/-- A repeated call returns right after the answer that it returns. -/
theorem EndsAfter.returned {result : Value} {after : McliHistory}
    (ended : EndsAfter marathon call value function deadline start errors
      outcome) (returned : outcome = .ok result after) :
    ∃ tried answer, after = start ++ tried ++ [.called call answer] ∧
      value answer = some result := by
  rcases ended.last with ⟨_, result', valueEq, outcomeEq⟩ | ⟨_, outcomeEq⟩
  · rw [outcomeEq] at returned
    cases returned
    exact ⟨failedCalls call errors ++ [.looked], _, by
      simp only [List.append_assoc], valueEq⟩
  · rw [outcomeEq] at returned
    cases returned

theorem EndsAfter.raised {stop : Stop} {after : McliHistory}
    (ended : EndsAfter marathon call value function deadline start errors
      outcome) (failed : outcome = .error stop after) :
    stop = timedOut function := by
  rcases ended.last with ⟨_, result', valueEq, outcomeEq⟩ | ⟨_, outcomeEq⟩
  · rw [outcomeEq] at failed
    cases failed
  · rw [outcomeEq] at failed
    cases failed
    rfl

end Repeated

theorem foundApp_eq_some {answer : Except McliError App} {app : App}
    (found : foundApp answer = some (some app)) : answer = .ok app := by
  cases answer with
  | ok app' =>
      cases found
      rfl
  | error error => cases error <;> cases found

theorem foundApp_eq_none {answer : Except McliError App}
    (lost : foundApp answer = some none) :
    ∃ text, answer = .error (.notFoundError text) := by
  cases answer with
  | ok app => cases lost
  | error error =>
      cases error with
      | notFoundError text => exact ⟨text, rfl⟩
      | marathonHttpError text => cases lost
      | other text => cases lost

/-! ## The rounds of `wait_app_ready` -/

section Rounds

variable (marathon : Marathon) {fuel : Nat} (app : String) (runningCount : Int)
  (sleepBeforeNextTry : ℚ)

theorem sleepFor_addsRepeats (call : McliCall) (seconds : ℚ) :
    LeadsAlong (AddsRepeats call) (sleepFor seconds) := by
  intro history
  unfold sleepFor
  split
  · exact AddsRepeats.refl call history
  · refine ⟨[.slept seconds], rfl, ?_⟩
    intro event member
    rw [List.mem_singleton.mp member]
    trivial

/-- How a round ends that does not end the loop. -/
def sleepAndGoOn (seconds : ℚ) : MarathonM (App ⊕ Unit) := do
  sleepFor seconds
  return .inr ()

theorem retrying_addsRepeats {Value : Type} {call : McliCall}
    {value : Except McliError call.Answer → Option Value}
    {attempt : McliM Value} (attempts : Attempts marathon call value attempt)
    {timeout : ℚ} (enough : ⌈timeout / 10⌉₊ < fuel) (function : String) :
    LeadsAlong (AddsRepeats call)
      (retrying marathon fuel function timeout attempt) := by
  intro history
  obtain ⟨errors, _, ended⟩ :=
    attempts.retrying_ends enough function history
  refine AddsRepeats.trans _ (history ++ [.looked]) _ ⟨[.looked], rfl, ?_⟩
    ended.repeats
  intro event member
  rw [List.mem_singleton.mp member]
  trivial

variable {marathon app runningCount sleepBeforeNextTry}

theorem sleepAndGoOn_addsRepeats (call : McliCall) (seconds : ℚ) :
    LeadsAlong (AddsRepeats call) (sleepAndGoOn seconds) := by
  apply LeadsAlong.bind AddsRepeats.trans
  · exact sleepFor_addsRepeats call seconds
  · exact fun _ => leadsAlong_pure (AddsRepeats.refl call) _

theorem scaleDown_addsRepeats (enough : 30 < fuel) :
    LeadsAlong (AddsRepeats (.scaleApp app runningCount))
      (scaleDown marathon fuel app runningCount) := by
  apply LeadsAlong.bind AddsRepeats.trans
  · exact retrying_addsRepeats marathon (mcli_attempts marathon _)
      (pausesInTimeout_lt enough) "scale_app"
  · exact fun _ => sleepAndGoOn_addsRepeats _ 1

theorem timedOut_ne (function : String) :
    timedOut function ≠ .raised .attributeError := by
  simp [timedOut]

/-- A round that does not end the loop, unless it raises. -/
def GoesOn : EStateM.Result Stop McliHistory (App ⊕ Unit) → Prop
  | .ok next _ => next = .inr ()
  | .error stop _ => stop ≠ .raised .attributeError

theorem sleepAndGoOn_goesOn (seconds : ℚ) (history : McliHistory) :
    GoesOn (sleepAndGoOn seconds history) := by
  by_cases negative : seconds < 0
  · have slept : sleepFor seconds history = .error (.raised (.exception
        "[Errno 22] Invalid argument")) history := by
      rw [sleepFor, if_pos negative]
      rfl
    rw [sleepAndGoOn, bind_of_error slept]
    simp [GoesOn]
  · have slept :
        sleepFor seconds history = .ok () (history ++ [.slept seconds]) := by
      rw [sleepFor, if_neg negative]
      rfl
    rw [sleepAndGoOn, bind_of_ok slept]
    rfl

theorem scaleDown_goesOn (enough : 30 < fuel) (history : McliHistory) :
    GoesOn (scaleDown marathon fuel app runningCount history) := by
  obtain ⟨errors, _, ended⟩ :=
    (mcli_attempts marathon (.scaleApp app runningCount)).retrying_ends
      (pausesInTimeout_lt enough) "scale_app"
      history
  change EndsAfter _ _ _ _ _ _ _
    (scaleApp marathon fuel app runningCount 300 history) at ended
  unfold scaleDown
  cases scaled : scaleApp marathon fuel app runningCount 300 history with
  | ok value after =>
      rw [bind_of_ok scaled]
      exact sleepAndGoOn_goesOn 1 after
  | error stop after =>
      rw [bind_of_error scaled, ended.raised scaled]
      exact timedOut_ne "scale_app"

/-- An outcome after polls of an application: what was done is permitted, an
application that is returned was shown last with the right number of tasks, and
an `AttributeError` means that Marathon does not know the application. -/
structure Polled {Value : Type} (shown : Value → Option App) (app : String)
    (runningCount : Int) (before more : McliHistory)
    (outcome : EStateM.Result Stop McliHistory Value) : Prop where
  added : stateAfter outcome = before ++ more
  permitted : Permitted (PollsAndScales app runningCount) more
  ready : ∀ value after a1, outcome = .ok value after → shown value = some a1 →
    a1.tasksRunning = runningCount ∧
      ∃ polled, more = polled ++ [.called (.getApp app) (.ok a1)]
  unknown : ∀ after, outcome = .error (.raised .attributeError) after →
    ∃ polled text,
      more = polled ++ [.called (.getApp app) (.error (.notFoundError text))]

theorem permitted_of_repeats {more : McliHistory}
    (repeats : ∀ event ∈ more, Repeats (.getApp app) event) :
    Permitted (PollsAndScales app runningCount) more := by
  rintro earlier event later rfl
  exact pollsAndScales_of_repeats runningCount earlier
    (repeats event (by simp))

theorem Polled.of_goesOn {before more : McliHistory}
    {outcome : EStateM.Result Stop McliHistory (App ⊕ Unit)}
    (goesOn : GoesOn outcome) (added : stateAfter outcome = before ++ more)
    (permitted : Permitted (PollsAndScales app runningCount) more) :
    Polled Sum.getLeft? app runningCount before more outcome := by
  refine ⟨added, permitted, ?_, ?_⟩
  · rintro value after a1 rfl shown
    cases goesOn
    cases shown
  · rintro after rfl
    exact (goesOn rfl).elim

/-- One round of `wait_app_ready` polls, and scales down at most once. -/
theorem waitAppReadyBody_polled (enough : 30 < fuel) (history : McliHistory) :
    ∃ more, Polled Sum.getLeft? app runningCount history more
      (waitAppReadyBody marathon fuel app runningCount sleepBeforeNextTry ()
        history) := by
  have attempts := getAppAttempt_attempts marathon app
  have enoughTime := pausesInTimeout_lt enough
  obtain ⟨more, added, repeats⟩ :=
    retrying_addsRepeats marathon attempts enoughTime "get_app" history
  obtain ⟨errors, _, ended⟩ :=
    attempts.retrying_ends enoughTime "get_app" history
  change EndsAfter _ _ _ _ _ _ _ (getApp marathon fuel app 300 history) at ended
  change stateAfter (getApp marathon fuel app 300 history) = _ at added
  have permitted : Permitted (PollsAndScales app runningCount) more :=
    permitted_of_repeats repeats
  unfold waitAppReadyBody
  cases polled : getApp marathon fuel app 300 history with
  | error stop after =>
      rw [polled] at added
      rw [bind_of_error polled]
      refine ⟨more, added, permitted, ?_, ?_⟩
      · rintro value after' a1 ⟨⟩
      · intro after' failed
        cases failed
        exact (timedOut_ne _ (ended.raised polled).symm).elim
  | ok result after =>
      obtain ⟨tried, answer, afterEq, found⟩ := ended.returned polled
      rw [polled] at added
      simp only [stateAfter] at added
      rw [bind_of_ok polled]
      have moreEq : more =
          [.looked] ++ tried ++ [.called (.getApp app) answer] := by
        rw [added] at afterEq
        simpa using afterEq
      cases result with
      | none =>
          obtain ⟨text, rfl⟩ := foundApp_eq_none found
          refine ⟨more, added, permitted, ?_, ?_⟩
          · rintro value after' a1 ⟨⟩
          · exact fun after' _ => ⟨_, text, moreEq⟩
      | some a1 =>
          obtain rfl := foundApp_eq_some found
          have shownEq : lastPoll more = some (.ok a1) := by
            rw [moreEq, lastPoll_append]
            rfl
          dsimp only
          by_cases tooMany : a1.tasksRunning > runningCount
          · rw [if_pos tooMany]
            obtain ⟨scaled, addedScaled, repeatsScaled⟩ :=
              @scaleDown_addsRepeats marathon fuel app runningCount enough after
            refine ⟨more ++ scaled, .of_goesOn
              (scaleDown_goesOn enough after) ?_ (permitted.append ?_)⟩
            · rw [addedScaled, added, List.append_assoc]
            · rintro earlier event later rfl
              rw [List.forall_mem_append] at repeatsScaled
              have allowed := repeatsScaled.2 event List.mem_cons_self
              cases event with
              | called call answer =>
                  cases allowed
                  refine ⟨rfl, rfl, a1, ?_, tooMany⟩
                  rw [lastPoll_append,
                    lastPoll_of_repeats (by simp) repeatsScaled.1, shownEq,
                    Option.none_or]
              | looked => trivial
              | slept seconds => trivial
          · rw [if_neg tooMany]
            by_cases equal : a1.tasksRunning = runningCount
            · rw [if_pos equal]
              refine ⟨more, added, permitted, ?_, ?_⟩
              · intro value after' a1' returned shown
                cases returned
                cases shown
                exact ⟨equal, _, moreEq⟩
              · rintro after' ⟨⟩
            · rw [if_neg equal]
              change ∃ more, Polled _ _ _ _ more
                (sleepAndGoOn sleepBeforeNextTry after)
              obtain ⟨slept, addedSlept, repeatsSlept⟩ :=
                sleepAndGoOn_addsRepeats (.getApp app) sleepBeforeNextTry after
              refine ⟨more ++ slept, .of_goesOn
                (sleepAndGoOn_goesOn sleepBeforeNextTry after) ?_
                (permitted_of_repeats (List.forall_mem_append.mpr
                  ⟨repeats, repeatsSlept⟩))⟩
              rw [addedSlept, added, List.append_assoc]

theorem waitAppReady_polled (enough : 30 < fuel) (rounds : Nat)
    (history : McliHistory) :
    ∃ more, Polled some app runningCount history more
      (repeatUntil .unfinished (waitAppReadyBody marathon fuel app runningCount
        sleepBeforeNextTry) rounds () history) := by
  induction rounds generalizing history with
  | zero =>
      refine ⟨[], (List.append_nil history).symm, permitted_nil, ?_, ?_⟩
      · rintro value after a1 ⟨⟩
      · rintro after ⟨⟩
  | succ rounds ih =>
      obtain ⟨more, polled⟩ := @waitAppReadyBody_polled marathon fuel app
        runningCount sleepBeforeNextTry enough history
      rw [repeatUntil]
      cases round : waitAppReadyBody marathon fuel app runningCount
          sleepBeforeNextTry () history with
      | error stop after =>
          rw [bind_of_error round]
          rw [round] at polled
          refine ⟨more, polled.added, polled.permitted, ?_, ?_⟩
          · rintro value after' a1 ⟨⟩
          · rintro after' ⟨⟩
            exact polled.unknown after rfl
      | ok next after =>
          rw [bind_of_ok round]
          rw [round] at polled
          cases next with
          | inl a1 =>
              refine ⟨more, polled.added, polled.permitted, ?_, ?_⟩
              · rintro value after' a1' ⟨⟩ ⟨⟩
                exact polled.ready _ _ _ rfl rfl
              · rintro after' ⟨⟩
          | inr next =>
              obtain ⟨later, polledLater⟩ := ih after
              refine ⟨more ++ later, ?_, polled.permitted.append ?_, ?_, ?_⟩
              · exact polledLater.added.trans (by
                  rw [show after = history ++ more from polled.added,
                    List.append_assoc])
              · intro earlier event rest laterEq
                exact (polledLater.permitted _ _ _ laterEq).append more
              · intro value after' a1 returned shown
                obtain ⟨equal, tried, rfl⟩ :=
                  polledLater.ready value after' a1 returned shown
                exact ⟨equal, more ++ tried, (List.append_assoc _ _ _).symm⟩
              · intro after' failed
                obtain ⟨tried, text, rfl⟩ := polledLater.unknown after' failed
                exact ⟨more ++ tried, text, (List.append_assoc _ _ _).symm⟩

/-- However Marathon behaves, `wait_app_ready` only polls its application, and
scales it to the requested number right after a poll that showed more tasks
running; what it returns is the last poll, with exactly that number. -/
theorem waitAppReady_polls (marathon : Marathon) (enough : 30 < fuel)
    (app : String) (runningCount : Int) (sleepBeforeNextTry : ℚ)
    (history : McliHistory) :
    ∃ more, Polled some app runningCount history more
      (waitAppReady marathon fuel app runningCount sleepBeforeNextTry
        history) :=
  waitAppReady_polled enough fuel history

theorem waitAppReady_polls_calm :
    ∃ more, Polled some "zst-sub" 2 [] more
      (waitAppReady (calmMarathon 3) 31 "zst-sub" 2 1 []) :=
  waitAppReady_polls (calmMarathon 3) (by decide) "zst-sub" 2 1 []

end Rounds

end MarathonIF

end MScale
