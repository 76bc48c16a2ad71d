import MScale.MarathonIF

/-!
# Repeated calls

`get_app`, `delete_app` and `scale_app` hide failures of Marathon by repeating
their call.  Whatever Marathon answers and however long it takes, they end
after a bounded number of calls: with the first answer that is not a failure,
or with an exception once the timeout is over.
-/

namespace MScale

namespace MarathonIF

open RetryDeadline

/-- What an attempt does: it makes one call and returns a value for some
answers; any other answer is an exception that it raises. -/
structure Attempts {Value : Type} (marathon : Marathon) (call : McliCall)
    (value : Except McliError call.Answer → Option Value)
    (attempt : McliM Value) : Prop where
  ended : ∀ history result,
    value (marathon.answer history call) = some result →
    attempt history =
      .ok result (history ++ [.called call (marathon.answer history call)])
  failed : ∀ history, value (marathon.answer history call) = none →
    ∃ error, marathon.answer history call = .error error ∧
      attempt history = .error error (history ++ [.called call (.error error)])

/-- `get_app` returns `None` for an application that Marathon does not find. -/
def foundApp : Except McliError App → Option (Option App)
  | .ok app => some (some app)
  | .error (.notFoundError _) => some none
  | .error _ => none

/-- Any other call returns if it is answered at all. -/
def answered {Answer : Type} : Except McliError Answer → Option Answer
  | .ok answer => some answer
  | .error _ => none

theorem getAppAttempt_eq (marathon : Marathon) (appId : String)
    (history : McliHistory) :
    getAppAttempt marathon appId history =
      let after := history ++
        [.called (.getApp appId) (marathon.answer history (.getApp appId))]
      match marathon.answer history (.getApp appId) with
      | .ok app => .ok (some app) after
      | .error (.notFoundError _) => .ok none after
      | .error error => .error error after := by
  cases answerEq : marathon.answer history (.getApp appId) with
  | ok app =>
      have called : mcli marathon (.getApp appId) history =
          .ok app (history ++ [.called (.getApp appId) (.ok app)]) := by
        rw [mcli, answerEq]
      exact StateErrors.tryCatch_of_ok (StateErrors.bind_of_ok called)
  | error error =>
      have called : mcli marathon (.getApp appId) history = .error error
          (history ++ [.called (.getApp appId) (.error error)]) := by
        rw [mcli, answerEq]
      cases error <;>
        exact StateErrors.tryCatch_of_error (StateErrors.bind_of_error called)

theorem getAppAttempt_attempts (marathon : Marathon) (appId : String) :
    Attempts marathon (.getApp appId) foundApp
      (getAppAttempt marathon appId) := by
  constructor
  · intro history result found
    rw [getAppAttempt_eq]
    cases answerEq : marathon.answer history (.getApp appId) with
    | ok app =>
        rw [answerEq] at found
        cases found
        rfl
    | error error =>
        rw [answerEq] at found
        cases error with
        | notFoundError text =>
            cases found
            rfl
        | marathonHttpError text => cases found
        | other text => cases found
  · intro history lost
    rw [getAppAttempt_eq]
    cases answerEq : marathon.answer history (.getApp appId) with
    | ok app =>
        rw [answerEq] at lost
        cases lost
    | error error =>
        rw [answerEq] at lost
        cases error with
        | notFoundError text => cases lost
        | marathonHttpError text => exact ⟨_, rfl, rfl⟩
        | other text => exact ⟨_, rfl, rfl⟩

theorem mcli_attempts (marathon : Marathon) (call : McliCall) :
    Attempts marathon call answered (mcli marathon call) := by
  constructor
  · intro history result returned
    unfold mcli
    cases answerEq : marathon.answer history call with
    | ok answer =>
        rw [answerEq] at returned
        cases returned
        rfl
    | error error =>
        rw [answerEq] at returned
        cases returned
  · intro history failed
    unfold mcli
    cases answerEq : marathon.answer history call with
    | ok answer =>
        rw [answerEq] at failed
        cases failed
    | error error => exact ⟨error, rfl, rfl⟩

/-- What calls that fail one after the other leave in the history. -/
def failedCalls (call : McliCall) (errors : List McliError) : McliHistory :=
  errors.flatMap fun error =>
    [.looked, .called call (.error error), .slept 10]

@[simp]
theorem failedCalls_nil (call : McliCall) : failedCalls call [] = [] :=
  rfl

theorem failedCalls_cons (call : McliCall) (error : McliError)
    (errors : List McliError) :
    failedCalls call (error :: errors) =
      [.looked, .called call (.error error), .slept 10] ++
        failedCalls call errors :=
  rfl

/-- After `errors`, each the answer to a call begun before the deadline, the
loop looks at the clock once more: then it makes a call that returns, or it
raises because the deadline has passed. -/
structure EndsAfter {Value : Type} (marathon : Marathon) (call : McliCall)
    (value : Except McliError call.Answer → Option Value) (function : String)
    (deadline : ℚ) (start : McliHistory) (errors : List McliError)
    (outcome : EStateM.Result Stop McliHistory Value) : Prop where
  failures : ∀ error ∈ errors, value (.error error) = none
  begun : ∀ earlier error later, errors = earlier ++ error :: later →
    let tried := start ++ failedCalls call earlier ++ [.looked]
    marathon.now tried < deadline ∧ marathon.answer tried call = .error error
  last :
    let tried := start ++ failedCalls call errors ++ [.looked]
    (marathon.now tried < deadline ∧
      ∃ result, value (marathon.answer tried call) = some result ∧
        outcome = .ok result
          (tried ++ [.called call (marathon.answer tried call)])) ∨
    (deadline ≤ marathon.now tried ∧
      outcome = .error (timedOut function) tried)

section Retrying

variable {Value : Type} {marathon : Marathon} {call : McliCall}
  {value : Except McliError call.Answer → Option Value}
  {attempt : McliM Value} {deadline : ℚ} {start last : McliHistory}
  {errors : List McliError}

theorem Attempts.patient (attempts : Attempts marathon call value attempt)
    (history : McliHistory) :
    marathon.clock.now history ≤
      marathon.clock.now (StateErrors.stateAfter (attempt history)) := by
  cases returned : value (marathon.answer history call) with
  | some result =>
      rw [attempts.ended history result returned]
      exact marathon.le_event history _
  | none =>
      obtain ⟨error, -, failed⟩ := attempts.failed history returned
      rw [failed]
      exact marathon.le_event history _

/-- The failed rounds of the loop are failed calls of Marathon. -/
theorem Attempts.failedRounds (attempts : Attempts marathon call value attempt)
    (rounds : FailedRounds marathon.clock 10 deadline attempt start errors
      last) :
    last = start ++ failedCalls call errors ∧
      (∀ error ∈ errors, value (.error error) = none) ∧
      ∀ earlier error later, errors = earlier ++ error :: later →
        let tried := start ++ failedCalls call earlier ++ [.looked]
        marathon.now tried < deadline ∧
          marathon.answer tried call = .error error := by
  induction rounds with
  | none => simp
  | @more state after final failure failures early failed rest ih =>
      have lost :
          value (marathon.answer (state ++ [.looked]) call) = none := by
        by_contra found
        obtain ⟨result, returned⟩ := Option.ne_none_iff_exists'.mp found
        have ended := attempts.ended (state ++ [.looked]) result returned
        rw [show marathon.clock.look state = state ++ [.looked] from rfl,
          ended] at failed
        cases failed
      obtain ⟨error, answerEq, raised⟩ :=
        attempts.failed (state ++ [.looked]) lost
      rw [show marathon.clock.look state = state ++ [.looked] from rfl,
        raised] at failed
      cases failed
      have sleptEq : marathon.clock.sleep 10 (state ++ [.looked] ++
          [.called call (.error failure)]) =
          state ++ [.looked, .called call (.error failure), .slept 10] := by
        simp [Marathon.clock]
      rw [sleptEq] at ih
      obtain ⟨lastEq, failures, begun⟩ := ih
      refine ⟨?_, ?_, ?_⟩
      · rw [lastEq, failedCalls_cons, List.append_assoc]
      · rw [List.forall_mem_cons, ← answerEq]
        exact ⟨lost, failures⟩
      · intro earlier error later errorsEq
        cases earlier with
        | nil =>
            obtain ⟨rfl, -⟩ := List.cons.inj errorsEq
            rw [failedCalls_nil, List.append_nil]
            exact ⟨early, answerEq⟩
        | cons first earlier =>
            obtain ⟨rfl, restEq⟩ := List.cons.inj errorsEq
            rw [failedCalls_cons, ← List.append_assoc]
            exact begun earlier error later restEq

/-- The retry loop ends after at most as many failed calls as pauses fit into
the timeout. -/
theorem Attempts.retrying_ends
    (attempts : Attempts marathon call value attempt) {timeout : ℚ} {fuel : Nat}
    (enough : ⌈timeout / 10⌉₊ < fuel) (function : String)
    (history : McliHistory) :
    ∃ errors, errors.length ≤ ⌈timeout / 10⌉₊ ∧
      EndsAfter marathon call value function
        (marathon.now (history ++ [.looked]) + timeout)
        (history ++ [.looked]) errors
        (retrying marathon fuel function timeout attempt history) := by
  obtain ⟨errors, last, rounds, few, lastRound⟩ :=
    retry_ends attempts.patient (by norm_num)
      (le_refl (marathon.now (history ++ [.looked]))) enough
      (timedOut function) Stop.unfinished
  obtain ⟨rfl, failures, begun⟩ := attempts.failedRounds rounds
  refine ⟨errors, few, failures, begun, ?_⟩
  change LastRound _ _ _ _ _
    (retrying marathon fuel function timeout attempt history) at lastRound
  generalize retrying marathon fuel function timeout attempt history = outcome
    at lastRound ⊢
  cases lastRound with
  | @succeeded result after early ended =>
      refine Or.inl ⟨early, result, ?_⟩
      change attempt (_ ++ [.looked]) = _ at ended
      cases returned : value (marathon.answer
          (history ++ [.looked] ++ failedCalls call errors ++ [.looked]) call)
        with
      | some value =>
          rw [attempts.ended _ _ returned] at ended
          cases ended
          exact ⟨rfl, rfl⟩
      | none =>
          obtain ⟨error, -, raised⟩ := attempts.failed _ returned
          rw [raised] at ended
          cases ended
  | expired late => exact Or.inr ⟨late, rfl⟩

/-! ## How repeated calls end -/

/-- Events of tries that failed. -/
def FailedTries (call : McliCall) (tried : McliHistory) : Prop :=
  ∀ event ∈ tried, event = .looked ∨ event = .slept 10 ∨
    ∃ error, event = .called call (.error error)

/-- The calls among the events. -/
def isCall : McliEvent → Bool
  | .called _ _ => true
  | _ => false

/-- A repeated call ends with an answer that is none of the failures before it,
or with an exception after failures only.  At most `most` calls fail. -/
inductive CallEnds {Value : Type} (call : McliCall)
    (value : Except McliError call.Answer → Option Value) (function : String)
    (most : ℕ) (history : McliHistory) :
    EStateM.Result Stop McliHistory Value → Prop
  | returned {tried : McliHistory} {answer : Except McliError call.Answer}
      {result : Value} (failed : FailedTries call tried)
      (few : tried.countP isCall ≤ most)
      (found : value answer = some result) :
      CallEnds call value function most history
        (.ok result (history ++ (tried ++ [.called call answer])))
  | expired {tried : McliHistory} (failed : FailedTries call tried)
      (few : tried.countP isCall ≤ most) :
      CallEnds call value function most history
        (.error (timedOut function) (history ++ tried))

theorem failedTries_looked (call : McliCall) : FailedTries call [.looked] := by
  intro event member
  exact Or.inl (List.mem_singleton.mp member)

theorem FailedTries.append {first second : McliHistory}
    (failed : FailedTries call first) (failedLater : FailedTries call second) :
    FailedTries call (first ++ second) :=
  List.forall_mem_append.mpr ⟨failed, failedLater⟩

theorem failedTries_failedCalls (call : McliCall) (errors : List McliError) :
    FailedTries call (failedCalls call errors) := by
  intro event member
  obtain ⟨error, _, member⟩ := List.mem_flatMap.mp member
  simp only [List.mem_cons, List.not_mem_nil, or_false] at member
  rcases member with rfl | rfl | rfl
  · exact Or.inl rfl
  · exact Or.inr (Or.inr ⟨error, rfl⟩)
  · exact Or.inr (Or.inl rfl)

theorem countP_failedCalls (call : McliCall) (errors : List McliError) :
    (failedCalls call errors).countP isCall = errors.length := by
  induction errors with
  | nil => rfl
  | cons error errors ih =>
      rw [failedCalls_cons, List.countP_append, ih, List.length_cons]
      exact Nat.add_comm 1 errors.length

theorem Attempts.retrying_callEnds
    (attempts : Attempts marathon call value attempt) {timeout : ℚ} {fuel : Nat}
    (enough : ⌈timeout / 10⌉₊ < fuel) (function : String)
    (history : McliHistory) :
    CallEnds call value function ⌈timeout / 10⌉₊ history
      (retrying marathon fuel function timeout attempt history) := by
  obtain ⟨errors, few, ended⟩ :=
    attempts.retrying_ends enough function history
  have failed : FailedTries call
      ([McliEvent.looked] ++ (failedCalls call errors ++ [.looked])) :=
    (failedTries_looked call).append
      ((failedTries_failedCalls call errors).append (failedTries_looked call))
  have fewTried : ([McliEvent.looked] ++ (failedCalls call errors ++
      [McliEvent.looked])).countP isCall ≤ ⌈timeout / 10⌉₊ := by
    rw [List.countP_append, List.countP_append, countP_failedCalls]
    simpa [isCall] using few
  rcases ended.last with ⟨_, result, found, outcomeEq⟩ | ⟨_, outcomeEq⟩
  · rw [outcomeEq]
    simpa only [List.append_assoc] using
      CallEnds.returned failed fewTried found
  · rw [outcomeEq]
    simpa only [List.append_assoc] using CallEnds.expired failed fewTried

/-- The default timeout leaves time for thirty pauses. -/
theorem pausesInTimeout_lt {fuel : Nat} (enough : 30 < fuel) :
    ⌈(300 / 10 : ℚ)⌉₊ < fuel := by
  norm_num
  exact enough

end Retrying

/-- The three repeated calls end after at most one call for every ten seconds
of their timeout and one more, with the first answer that is not a failure, or
with an exception once the timeout is over. -/
theorem repeatedCalls_end (marathon : Marathon) (history : McliHistory)
    {timeout : ℚ} {fuel : Nat} (enough : ⌈timeout / 10⌉₊ < fuel) :
    let start := history ++ [.looked]
    let deadline := marathon.now start + timeout
    (∀ appId, ∃ errors, errors.length ≤ ⌈timeout / 10⌉₊ ∧
      EndsAfter marathon (.getApp appId) foundApp "get_app" deadline start
        errors (getApp marathon fuel appId timeout history)) ∧
    (∀ appId force, ∃ errors, errors.length ≤ ⌈timeout / 10⌉₊ ∧
      EndsAfter marathon (.deleteApp appId force) answered "delete_app"
        deadline start errors
        (deleteApp marathon fuel appId force timeout history)) ∧
    ∀ app scale, ∃ errors, errors.length ≤ ⌈timeout / 10⌉₊ ∧
      EndsAfter marathon (.scaleApp app scale) answered "scale_app" deadline
        start errors (scaleApp marathon fuel app scale timeout history) := by
  refine ⟨fun appId => ?_, fun appId force => ?_, fun app scale => ?_⟩
  · exact (getAppAttempt_attempts marathon appId).retrying_ends enough _ _
  · exact (mcli_attempts marathon (.deleteApp appId force)).retrying_ends
      enough _ _
  · exact (mcli_attempts marathon (.scaleApp app scale)).retrying_ends
      enough _ _

/-- Where every call must be repeated, the call is repeated. -/
theorem repeatedCalls_end_faltering :
    ∃ errors, errors ≠ [] ∧ errors.length ≤ ⌈(300 / 10 : ℚ)⌉₊ ∧
      EndsAfter (calmMarathon 1).faltering (.getApp "zst-sub") foundApp
        "get_app" 300 [.looked] errors
        (getApp (calmMarathon 1).faltering 31 "zst-sub" 300 []) := by
  have deadlineEq : (calmMarathon 1).faltering.now [.looked] + 300 = 300 := by
    simp [Marathon.faltering, calmMarathon, McliEvent.seconds]
  obtain ⟨errors, few, ended⟩ :=
    (repeatedCalls_end (calmMarathon 1).faltering []
      (pausesInTimeout_lt (show 30 < 31 by norm_num))).1 "zst-sub"
  rw [List.nil_append, deadlineEq] at ended
  refine ⟨errors, ?_, few, ended⟩
  rintro rfl
  rcases ended.last with ⟨_, result, found, _⟩ | ⟨late, _⟩
  · cases found
  · norm_num [Marathon.faltering, calmMarathon, McliEvent.seconds] at late

end MarathonIF

end MScale
