import MScale.MarathonIFPolls

/-!
# A Marathon that carries out scale requests

Marathon starts and stops tasks some time after it was asked to, and its calls
may fail now and then.  This file states when it nevertheless carries out the
scale requests for an application, and shows that `MarathonIF` hides the rest:
its calls return, and `wait_app_ready` returns with the number of tasks
requested.
-/

namespace MScale

namespace MarathonIF

open StateErrors

/-! ## What was requested and shown -/

/-- The scale that an application was last asked to have, how often it was
shown since the last change of it, and whether it was shown with that many
running tasks. -/
structure ScaleView where
  requested : Int
  polls : Nat
  arrived : Bool
  deriving DecidableEq, Repr

def ScaleView.event (name : String) (view : ScaleView) :
    McliEvent → ScaleView
  | .called (.scaleApp app scale) (.ok _) =>
      if app = name ∧ scale ≠ view.requested then ⟨scale, 0, false⟩ else view
  | .called (.getApp app) (.ok shown) =>
      if app = name then
        ⟨view.requested, view.polls + 1,
          view.arrived || shown.tasksRunning = view.requested⟩
      else view
  | _ => view

/-- The view reached from `count` running tasks. -/
def scaleView (name : String) (count : Int) (since : McliHistory) : ScaleView :=
  since.foldl (ScaleView.event name) ⟨count, 0, true⟩

/-- Calls that change nothing but scales. -/
def isScaling : McliCall → Bool
  | .getApp _ => true
  | .scaleApp _ _ => true
  | _ => false

/-- Only scales were requested and applications shown. -/
def Undisturbed (since : McliHistory) : Prop :=
  ∀ call answer, McliEvent.called call answer ∈ since → isScaling call = true

/-- From `past` on, as long as it is only asked for scales, Marathon carries out
those requested of an application that it knows.  A call fails at most
`failures` times in a row, and so many failures fit into the timeout.  After a
changed request the application reaches its scale within `polls` polls, and
stays there.  Its tasks run on the given hosts. -/
structure CarriesOut (marathon : Marathon) (name : String)
    (hosts : String → Prop) (past : McliHistory) (count : Int)
    (polls failures : Nat) : Prop where
  accepts : ∀ since scale errors, Undisturbed since → 0 ≤ scale →
    failures ≤ errors.length →
    marathon.answer (past ++ since ++
      failedCalls (.scaleApp name scale) errors ++ [.looked])
      (.scaleApp name scale) = .ok ()
  shows : ∀ since errors, Undisturbed since → failures ≤ errors.length →
    ∃ app, marathon.answer (past ++ since ++
      failedCalls (.getApp name) errors ++ [.looked]) (.getApp name) = .ok app
  known : ∀ since text, Undisturbed since →
    marathon.answer (past ++ since) (.getApp name) ≠
      .error (.notFoundError text)
  prompt : ∀ since call errors, errors.length ≤ failures →
    marathon.now (past ++ since ++ failedCalls call errors ++ [.looked]) <
      marathon.now (past ++ since) + 300
  arrives : ∀ since app, Undisturbed since →
    marathon.answer (past ++ since) (.getApp name) = .ok app →
    0 ≤ (scaleView name count since).requested →
    (scaleView name count since).arrived = true ∨
      polls ≤ (scaleView name count since).polls →
    app.tasksRunning = (scaleView name count since).requested ∧
      (app.tasks.length : Int) = (scaleView name count since).requested
  hosted : ∀ since app, Undisturbed since →
    marathon.answer (past ++ since) (.getApp name) = .ok app →
    ∀ task ∈ app.tasks, hosts task.host

theorem undisturbed_nil : Undisturbed [] := by
  intro call answer member
  cases member

theorem Undisturbed.append {since more : McliHistory}
    (undisturbed : Undisturbed since) (undisturbedLater : Undisturbed more) :
    Undisturbed (since ++ more) := by
  intro call answer member
  rcases List.mem_append.mp member with member | member
  · exact undisturbed call answer member
  · exact undisturbedLater call answer member

theorem undisturbed_of_repeats {call : McliCall}
    (scaling : isScaling call = true) {events : McliHistory}
    (repeats : ∀ event ∈ events, Repeats call event) : Undisturbed events := by
  intro other answer member
  have same : other = call := repeats _ member
  rw [same]
  exact scaling

theorem undisturbed_looked : Undisturbed [.looked] := by
  intro call answer member
  simp at member

theorem undisturbed_slept (seconds : ℚ) : Undisturbed [.slept seconds] := by
  intro call answer member
  simp at member

theorem undisturbed_called {call : McliCall} (scaling : isScaling call = true)
    (answer : Except McliError call.Answer) :
    Undisturbed [.called call answer] := by
  apply undisturbed_of_repeats scaling
  simp [Repeats]

section View

variable {name : String} {count : Int} {since : McliHistory}

theorem scaleView_append (name : String) (count : Int)
    (since more : McliHistory) :
    scaleView name count (since ++ more) =
      more.foldl (ScaleView.event name) (scaleView name count since) :=
  List.foldl_append

/-- Only an answer changes the view. -/
theorem scaleView_looked :
    scaleView name count (since ++ [.looked]) = scaleView name count since := by
  rw [scaleView_append]
  rfl

theorem scaleView_slept (seconds : ℚ) :
    scaleView name count (since ++ [.slept seconds]) =
      scaleView name count since := by
  rw [scaleView_append]
  rfl

theorem ScaleView.event_failed (view : ScaleView) (call : McliCall)
    (error : McliError) :
    view.event name (.called call (.error error)) = view := by
  cases call <;> rfl

theorem scaleView_failedCalls (call : McliCall) (errors : List McliError) :
    scaleView name count (since ++ failedCalls call errors) =
      scaleView name count since := by
  induction errors generalizing since with
  | nil => rw [failedCalls_nil, List.append_nil]
  | cons error errors ih =>
      rw [failedCalls_cons, ← List.append_assoc, ih, scaleView_append]
      simp only [List.foldl_cons, List.foldl_nil]
      exact ScaleView.event_failed (scaleView name count since) call error

/-- Only a repeated call's answer changes the view. -/
theorem scaleView_returned (call : McliCall) (errors : List McliError)
    (event : McliEvent) :
    scaleView name count (since ++ [.looked] ++ failedCalls call errors ++
      [.looked] ++ [event]) = (scaleView name count since).event name event := by
  rw [scaleView_append, scaleView_looked, scaleView_failedCalls,
    scaleView_looked]
  rfl

end View

/-! ## The calls return -/

section Calls

variable {marathon : Marathon} {name : String} {hosts : String → Prop}
  {past since : McliHistory} {count : Int} {polls failures fuel : Nat}

/-- A repeated call returns if it fails at most `failures` times in a row. -/
theorem CarriesOut.returns
    (carries : CarriesOut marathon name hosts past count polls failures)
    {Value : Type} {call : McliCall}
    {value : Except McliError call.Answer → Option Value}
    (recovers : ∀ since errors, Undisturbed since →
      failures ≤ errors.length →
      value (marathon.answer (past ++ since ++ failedCalls call errors ++
        [.looked]) call) ≠ none)
    (undisturbed : Undisturbed since) (scaling : isScaling call = true)
    {function : String} {errors : List McliError}
    {outcome : EStateM.Result Stop McliHistory Value}
    (ended : EndsAfter marathon call value function
      (marathon.now (past ++ since ++ [.looked]) + 300)
      (past ++ since ++ [.looked]) errors outcome) :
    let tried := since ++ [.looked] ++ failedCalls call errors ++ [.looked]
    Undisturbed tried ∧ ∃ result,
      value (marathon.answer (past ++ tried) call) = some result ∧
      outcome = .ok result (past ++
        (tried ++ [.called call (marathon.answer (past ++ tried) call)])) := by
  have few : errors.length ≤ failures := by
    by_contra more
    have split := List.take_append_drop failures errors
    obtain ⟨error, later, dropEq⟩ :
        ∃ error later, errors.drop failures = error :: later := by
      cases dropEq : errors.drop failures with
      | nil =>
          rw [List.drop_eq_nil_iff] at dropEq
          omega
      | cons error later => exact ⟨error, later, rfl⟩
    rw [dropEq] at split
    have answered := (ended.begun _ error later split.symm).2
    have isError : error ∈ errors := by
      rw [← split]
      simp
    have recovered := recovers (since ++ [.looked]) (errors.take failures)
      (undisturbed.append undisturbed_looked) (by rw [List.length_take]; omega)
    rw [← List.append_assoc, answered] at recovered
    exact recovered (ended.failures error isError)
  have inTime := carries.prompt (since ++ [.looked]) call errors few
  rw [← List.append_assoc] at inTime
  refine ⟨((undisturbed.append undisturbed_looked).append
    (undisturbed_of_repeats scaling (repeats_failedCalls call errors))).append
      undisturbed_looked, ?_⟩
  simp only [List.append_assoc] at ended inTime ⊢
  rcases ended.last with ⟨_, result, valueEq, outcomeEq⟩ | ⟨late, _⟩
  · simp only [List.append_assoc] at valueEq outcomeEq
    exact ⟨result, valueEq, outcomeEq⟩
  · simp only [List.append_assoc] at late
    exact (not_lt.mpr late inTime).elim

/-- `get_app` shows the application. -/
theorem CarriesOut.getApp
    (carries : CarriesOut marathon name hosts past count polls failures)
    (enough : 30 < fuel) (undisturbed : Undisturbed since) :
    ∃ app later,
      MarathonIF.getApp marathon fuel name 300 (past ++ since) =
        .ok (some app) (past ++ later) ∧ Undisturbed later ∧
      scaleView name count later = (scaleView name count since).event name
        (.called (.getApp name) (.ok app)) ∧
      (0 ≤ (scaleView name count since).requested →
        (scaleView name count since).arrived = true ∨
          polls ≤ (scaleView name count since).polls →
        app.tasksRunning = (scaleView name count since).requested ∧
          (app.tasks.length : Int) = (scaleView name count since).requested) ∧
      ∀ task ∈ app.tasks, hosts task.host := by
  obtain ⟨errors, _, ended⟩ :=
    (getAppAttempt_attempts marathon name).retrying_ends
      (pausesInTimeout_lt enough) "get_app" (past ++ since)
  obtain ⟨undisturbedTried, result, found, returned⟩ := carries.returns (by
    intro since errors undisturbed many lost
    obtain ⟨app, shown⟩ := carries.shows since errors undisturbed many
    rw [shown] at lost
    cases lost) undisturbed rfl ended
  generalize triedEq : since ++ [McliEvent.looked] ++
    failedCalls (.getApp name) errors ++ [McliEvent.looked] = tried
    at undisturbedTried found returned
  have viewEq : scaleView name count tried = scaleView name count since := by
    rw [← triedEq, scaleView_looked, scaleView_failedCalls, scaleView_looked]
  cases result with
  | none =>
      obtain ⟨text, lost⟩ := foundApp_eq_none found
      exact (carries.known tried text undisturbedTried lost).elim
  | some app =>
      have shown := foundApp_eq_some found
      rw [shown] at returned
      refine ⟨app, _, returned, undisturbedTried.append ?_, ?_, ?_,
        carries.hosted tried app undisturbedTried shown⟩
      · exact undisturbed_called rfl _
      · rw [scaleView_append, viewEq]
        rfl
      · have arrives := carries.arrives tried app undisturbedTried shown
        rw [viewEq] at arrives
        exact arrives

/-- `scale_app` has its request accepted. -/
theorem CarriesOut.scaleApp
    (carries : CarriesOut marathon name hosts past count polls failures)
    (enough : 30 < fuel) (undisturbed : Undisturbed since) {scale : Int}
    (possible : 0 ≤ scale) :
    ∃ later,
      MarathonIF.scaleApp marathon fuel name scale 300 (past ++ since) =
        .ok () (past ++ later) ∧ Undisturbed later ∧
      scaleView name count later = (scaleView name count since).event name
        (.called (.scaleApp name scale) (.ok ())) := by
  obtain ⟨errors, _, ended⟩ :=
    (mcli_attempts marathon (.scaleApp name scale)).retrying_ends
      (pausesInTimeout_lt enough) "scale_app" (past ++ since)
  obtain ⟨undisturbedTried, result, found, returned⟩ := carries.returns (by
    intro since errors undisturbed many lost
    rw [carries.accepts since scale errors undisturbed possible many] at lost
    cases lost) undisturbed rfl ended
  refine ⟨_, returned,
    undisturbedTried.append (undisturbed_called rfl _), ?_⟩
  rw [scaleView_returned]
  cases answerEq : marathon.answer (past ++ (since ++ [McliEvent.looked] ++
      failedCalls (.scaleApp name scale) errors ++ [McliEvent.looked]))
      (.scaleApp name scale) with
  | ok answer => rfl
  | error error =>
      rw [answerEq] at found
      cases found

theorem sleepFor_of_nonneg {seconds : ℚ} (nonneg : 0 ≤ seconds)
    (history : McliHistory) :
    sleepFor seconds history = .ok () (history ++ [.slept seconds]) := by
  rw [sleepFor, if_neg (not_lt.mpr nonneg)]
  rfl

/-- A round of `wait_app_ready` for the scale requested last finds the
application ready, or has polled it once more. -/
theorem CarriesOut.waitAppReadyBody
    (carries : CarriesOut marathon name hosts past count polls failures)
    (enough : 30 < fuel) (undisturbed : Undisturbed since) {runningCount : Int}
    (requested : (scaleView name count since).requested = runningCount)
    (possible : 0 ≤ runningCount) {sleepBeforeNextTry : ℚ}
    (sleepPossible : 0 ≤ sleepBeforeNextTry) {rank : McliHistory → Nat}
    (rankEq : ∀ since, rank (past ++ since) =
      polls - (scaleView name count since).polls) :
    (∃ app after, MarathonIF.waitAppReadyBody marathon fuel name runningCount
        sleepBeforeNextTry () (past ++ since) = .ok (.inl app) after ∧
      ∃ later, after = past ++ later ∧ Undisturbed later ∧
        (scaleView name count later).requested = runningCount ∧
        (scaleView name count later).arrived = true) ∨
    ∃ loop after, MarathonIF.waitAppReadyBody marathon fuel name runningCount
        sleepBeforeNextTry () (past ++ since) = .ok (.inr loop) after ∧
      (∃ later, after = past ++ later ∧ Undisturbed later ∧
        (scaleView name count later).requested = runningCount) ∧
      rank after < rank (past ++ since) := by
  obtain ⟨a1, polled, shown, undisturbedPolled, viewEq, arrives, _⟩ :=
    carries.getApp enough undisturbed
  simp only [ScaleView.event, if_true, requested] at viewEq arrives
  unfold MarathonIF.waitAppReadyBody
  rw [bind_of_ok shown]
  dsimp only
  by_cases equal : a1.tasksRunning = runningCount
  · rw [if_neg (by omega), if_pos equal]
    refine Or.inl ⟨a1, _, rfl, polled, rfl, undisturbedPolled, ?_, ?_⟩
    · rw [viewEq]
    · rw [viewEq]
      simp [equal]
  · have notArrived : (scaleView name count since).polls < polls := by
      by_contra late
      exact equal (arrives possible (Or.inr (not_lt.mp late))).1
    by_cases tooMany : a1.tasksRunning > runningCount
    · obtain ⟨scaled, accepted, undisturbedScaled, scaledEq⟩ :=
        carries.scaleApp enough undisturbedPolled possible
      have unchanged : scaleView name count scaled =
          scaleView name count polled := by
        rw [scaledEq, viewEq]
        simp [ScaleView.event]
      rw [if_pos tooMany, scaleDown, bind_of_ok accepted,
        bind_of_ok (sleepFor_of_nonneg zero_le_one _), List.append_assoc]
      refine Or.inr ⟨(), _, rfl, ⟨_, rfl,
        undisturbedScaled.append (undisturbed_slept 1), ?_⟩, ?_⟩
      · rw [scaleView_slept, unchanged, viewEq]
      · rw [rankEq, rankEq, scaleView_slept, unchanged, viewEq]
        dsimp only
        omega
    · rw [if_neg tooMany, if_neg equal,
        bind_of_ok (sleepFor_of_nonneg sleepPossible _), List.append_assoc]
      refine Or.inr ⟨(), _, rfl, ⟨_, rfl,
        undisturbedPolled.append (undisturbed_slept _), ?_⟩, ?_⟩
      · rw [scaleView_slept, viewEq]
      · rw [rankEq, rankEq, scaleView_slept, viewEq]
        dsimp only
        omega

/-- `wait_app_ready` returns for the scale requested last. -/
theorem CarriesOut.waitAppReady
    (carries : CarriesOut marathon name hosts past count polls failures)
    (enough : 30 < fuel) (enoughPolls : polls < fuel)
    (undisturbed : Undisturbed since) {runningCount : Int}
    (requested : (scaleView name count since).requested = runningCount)
    (possible : 0 ≤ runningCount) {sleepBeforeNextTry : ℚ}
    (sleepPossible : 0 ≤ sleepBeforeNextTry) :
    ∃ app later,
      MarathonIF.waitAppReady marathon fuel name runningCount
        sleepBeforeNextTry (past ++ since) = .ok app (past ++ later) ∧
      Undisturbed later ∧
      (scaleView name count later).requested = runningCount ∧
      (scaleView name count later).arrived = true := by
  let rank (history : McliHistory) : Nat :=
    polls - (scaleView name count (history.drop past.length)).polls
  have rankEq : ∀ since, rank (past ++ since) =
      polls - (scaleView name count since).polls := by
    intro since
    simp only [rank, List.drop_left]
  let Good (_ : Unit) (history : McliHistory) : Prop :=
    ∃ since, history = past ++ since ∧ Undisturbed since ∧
      (scaleView name count since).requested = runningCount
  have start : Good () (past ++ since) := ⟨since, rfl, undisturbed, requested⟩
  have few : rank (past ++ since) < fuel := by
    rw [rankEq]
    omega
  obtain ⟨app, final, returned, later, rfl, undisturbed', requested', arrived⟩ :=
    repeatUntil_endsInState rank (by
      rintro loop history ⟨since, rfl, undisturbed, requested⟩
      exact carries.waitAppReadyBody enough undisturbed requested possible
        sleepPossible rankEq) start few
  exact ⟨app, later, returned, undisturbed', requested', arrived⟩

end Calls

/-! ## A late Marathon -/

/-- The view of an application with the number of its running tasks.  A changed
request is carried out at the second poll after it. -/
def lateEvent (name : String) (late : ScaleView × Int) (event : McliEvent) :
    ScaleView × Int :=
  let view := late.1.event name event
  (view, if view.arrived ∨ 2 ≤ view.polls then view.requested else late.2)

def lateView (name : String) (count : Int) (history : McliHistory) :
    ScaleView × Int :=
  history.foldl (lateEvent name) (⟨count, 0, true⟩, count)

/-- A Marathon that runs one application and is late to scale it. -/
def lateMarathon (name : String) (count : Int) : Marathon :=
  { calmMarathon count with
    answer := fun history call =>
      match call with
      | .getApp appId =>
          let running := (lateView name count history).2
          if appId = name then
            .ok ⟨List.replicate running.toNat ⟨"task", "slave-0", [31000]⟩,
              running, []⟩
          else .error (.notFoundError "App does not exist")
      | call => (calmMarathon count).answer history call }

theorem lateView_view (name : String) (count : Int) (history : McliHistory) :
    (lateView name count history).1 = scaleView name count history := by
  induction history using List.reverseRecOn with
  | nil => rfl
  | append_singleton history event ih =>
      rw [scaleView_append, ← ih, lateView, List.foldl_append]
      rfl

theorem lateView_running {name : String} {count : Int} {history : McliHistory}
    (carriedOut : (scaleView name count history).arrived = true ∨
      2 ≤ (scaleView name count history).polls) :
    (lateView name count history).2 =
      (scaleView name count history).requested := by
  rw [← lateView_view] at carriedOut ⊢
  induction history using List.reverseRecOn with
  | nil => rfl
  | append_singleton history event ih =>
      rw [lateView, List.foldl_append] at carriedOut ⊢
      exact if_pos carriedOut

theorem lastFailed_failedCalls (since : McliHistory) (call : McliCall)
    {errors : List McliError} (failed : 1 ≤ errors.length) :
    lastFailed (since ++ failedCalls call errors ++ [.looked]) = true := by
  induction errors generalizing since with
  | nil => simp at failed
  | cons error errors ih =>
      rw [failedCalls_cons, ← List.append_assoc]
      by_cases more : 1 ≤ errors.length
      · exact ih _ more
      · have last : errors = [] := List.length_eq_zero_iff.mp (by omega)
        subst last
        simp [lastFailed]

/-- A late Marathon whose every call must be repeated carries out scale
requests. -/
theorem lateMarathon_carriesOut (name : String) (count : Nat) :
    CarriesOut (lateMarathon name count).faltering name (· = "slave-0") []
      count 2 1 := by
  have shownIf : ∀ history app,
      (lateMarathon name count).faltering.answer history (.getApp name) =
        .ok app →
      app = ⟨List.replicate (lateView name count history).2.toNat
        ⟨"task", "slave-0", [31000]⟩, (lateView name count history).2, []⟩ := by
    intro history app shown
    simp only [Marathon.faltering, lateMarathon, if_true] at shown
    split at shown <;> cases shown
    rfl
  constructor
  · intro since scale errors undisturbed possible many
    exact if_pos (lastFailed_failedCalls _ _ many)
  · intro since errors undisturbed many
    exact ⟨_, (if_pos (lastFailed_failedCalls _ _ many)).trans (if_pos rfl)⟩
  · intro since text undisturbed missing
    simp only [Marathon.faltering, lateMarathon, if_true] at missing
    split at missing <;> cases missing
  · intro since call errors few
    rcases errors with _ | ⟨error, _ | ⟨other, errors⟩⟩
    · norm_num [Marathon.faltering, lateMarathon, calmMarathon,
        McliEvent.seconds]
    · norm_num [Marathon.faltering, lateMarathon, calmMarathon, failedCalls,
        McliEvent.seconds]
    · simp at few
  · intro since app undisturbed shown possible carriedOut
    rw [shownIf _ _ shown, List.nil_append, lateView_running carriedOut,
      List.length_replicate]
    exact ⟨rfl, Int.toNat_of_nonneg possible⟩
  · intro since app undisturbed shown task member
    rw [shownIf _ _ shown] at member
    rw [List.eq_of_mem_replicate member]

end MarathonIF

end MScale
