import MScale.ScannerSearch
import Mathlib.Data.List.Chain

/-!
# The search for the highest rate

`Scanner.find_max_rate` doubles the probed value until the reported rate grows
by less than two percent.  This file embeds the loop and proves that every
responder whose rates are bounded ends it, and that it then returns the
highest rate that was reported.
-/

namespace MScale

namespace Scanner

/-- The local variables of `find_max_rate` at the head of its loop; `none` is
the unset maximum, and the drop that is not assigned yet.  The source does not
count its calls, but a run function may answer by call. -/
structure MaxRateState where
  value : ℚ
  maxValueRate : Option ℚ
  maxValueDrop : Option ℚ
  lastRate : ℚ
  calls : Nat
  deriving DecidableEq, Repr

/-- The tuple returned by `find_max_rate`. -/
structure MaxRateResult where
  status : Bool
  maxValueRate : Option ℚ
  maxValueDrop : Option ℚ
  deriving DecidableEq, Repr

/-- The division by the last rate raised. -/
inductive ZeroDivision
  | zeroDivisionError
  deriving DecidableEq, Repr

def findMaxRateStart (startValue : ℚ) : MaxRateState where
  value := startValue
  maxValueRate := none
  maxValueDrop := none
  lastRate := 1 / 10
  calls := 0

/-- The truth value Python gives a number that may be `None`. -/
def truthy : Option ℚ → Bool
  | none => false
  | some number => number ≠ 0

/-- `(max_value_rate, max_value_drop)` after a measurement, whose `res` is the
drop. -/
def nextMaxRate (kept : Option ℚ × Option ℚ) (measurement : Measurement) :
    Option ℚ × Option ℚ :=
  if !truthy kept.1 ∨ ∃ rate ∈ kept.1, rate < measurement.rate then
    (some measurement.rate, some measurement.res)
  else
    kept

/-- The loop state after a round that does not break. -/
def climb (state : MaxRateState) (measurement : Measurement) : MaxRateState :=
  let kept := nextMaxRate (state.maxValueRate, state.maxValueDrop) measurement
  { value := state.value + state.value
    maxValueRate := kept.1
    maxValueDrop := kept.2
    lastRate := measurement.rate
    calls := state.calls + 1 }

/-- One round of the `while True` loop of `find_max_rate`. -/
def findMaxRateBody (runfn : RunFn) (state : MaxRateState) :
    Except ZeroDivision MaxRateResult ⊕ MaxRateState :=
  let measurement := runfn state.calls state.value
  let kept := nextMaxRate (state.maxValueRate, state.maxValueDrop) measurement
  if state.lastRate = 0 then
    .inl (.error .zeroDivisionError)
  else if 1 * (measurement.rate - state.lastRate) / state.lastRate < 1 / 50 then
    -- max rate is likely rate
    .inl (.ok ⟨true, kept.1, kept.2⟩)
  else if measurement.rate < 1 then
    .inl (.ok ⟨true, kept.1, kept.2⟩)
  else
    .inr (climb state measurement)

/-- `Scanner.find_max_rate`, executed for at most `fuel` rounds. -/
def findMaxRate (runfn : RunFn) (startValue : ℚ) (fuel : Nat) :
    Option (Except ZeroDivision MaxRateResult) :=
  BreakLoop.run (findMaxRateBody runfn) fuel (findMaxRateStart startValue)

/-- A finite run of `find_max_rate`: the loop states in which a test was run,
and what it ended with. -/
abbrev MaxRateRun (runfn : RunFn) :=
  BreakLoop.Run (findMaxRateBody runfn)

/-- What was reported for the value probed in a loop state. -/
def probed (runfn : RunFn) (state : MaxRateState) : Measurement :=
  runfn state.calls state.value

variable {runfn : RunFn} {state later : MaxRateState}
variable {ending : Except ZeroDivision MaxRateResult}

/-! ### One round -/

/-- The two percent test, without the division. -/
theorem growth_lt_iff {rate lastRate : ℚ} (positive : 0 < lastRate) :
    1 * (rate - lastRate) / lastRate < 1 / 50 ↔ rate < 51 / 50 * lastRate := by
  rw [one_mul, div_lt_iff₀ positive]
  constructor <;> intro below <;> linarith

/-- The rate of a round goes on climbing: it is two percent above the last one
and at least one. -/
def Climbs (lastRate rate : ℚ) : Prop :=
  51 / 50 * lastRate ≤ rate ∧ 1 ≤ rate

theorem findMaxRateBody_of_climbs (positive : 0 < state.lastRate)
    (climbs : Climbs state.lastRate (probed runfn state).rate) :
    findMaxRateBody runfn state = .inr (climb state (probed runfn state)) := by
  have fast : ¬ 1 * ((probed runfn state).rate - state.lastRate) /
      state.lastRate < 1 / 50 :=
    fun slow => not_lt_of_ge climbs.1 ((growth_lt_iff positive).mp slow)
  have high : ¬ (probed runfn state).rate < 1 := not_lt_of_ge climbs.2
  rw [probed] at fast high
  rw [findMaxRateBody, if_neg positive.ne', if_neg fast, if_neg high, probed]

theorem findMaxRateBody_of_not_climbs (positive : 0 < state.lastRate)
    (flat : ¬ Climbs state.lastRate (probed runfn state).rate) :
    findMaxRateBody runfn state = .inl (.ok ⟨true,
      (climb state (probed runfn state)).maxValueRate,
      (climb state (probed runfn state)).maxValueDrop⟩) := by
  rw [findMaxRateBody, if_neg positive.ne']
  by_cases slow : 1 * ((probed runfn state).rate - state.lastRate) /
      state.lastRate < 1 / 50
  · rw [probed] at slow
    rw [if_pos slow]
    rfl
  · have low : (probed runfn state).rate < 1 := by
      rw [growth_lt_iff positive, not_lt] at slow
      exact lt_of_not_ge fun high => flat ⟨slow, high⟩
    rw [probed] at slow low
    rw [if_neg slow, if_pos low]
    rfl

/-! ### Termination -/

/-- Rates that climb two percent in every round exceed any bound. -/
theorem maxRate_terminates_of_lt {capacity : ℚ}
    (bounded : ∀ call value, (runfn call value).rate ≤ capacity)
    (rounds : Nat) :
    ∀ {state : MaxRateState}, 0 < state.lastRate →
      capacity < (51 / 50) ^ rounds * state.lastRate →
      BreakLoop.Terminates (findMaxRateBody runfn) state := by
  have stops {state : MaxRateState} (positive : 0 < state.lastRate)
      (flat : ¬ Climbs state.lastRate (probed runfn state).rate) :
      BreakLoop.Terminates (findMaxRateBody runfn) state :=
    BreakLoop.terminates_of_stop (findMaxRateBody_of_not_climbs positive flat)
  induction rounds with
  | zero =>
      intro state positive beyond
      refine stops positive fun climbs => ?_
      have rateLe : (probed runfn state).rate ≤ capacity := bounded _ _
      rw [pow_zero, one_mul] at beyond
      linarith [climbs.1]
  | succ rounds ih =>
      intro state positive beyond
      by_cases climbs : Climbs state.lastRate (probed runfn state).rate
      · rw [BreakLoop.terminates_iff_of_next
          (findMaxRateBody_of_climbs positive climbs)]
        have scaled : (51 / 50 : ℚ) ^ rounds * (51 / 50 * state.lastRate) ≤
            (51 / 50) ^ rounds * (probed runfn state).rate :=
          mul_le_mul_of_nonneg_left climbs.1 (by positivity)
        rw [pow_succ, mul_assoc] at beyond
        exact ih (lt_of_lt_of_le one_pos climbs.2) (lt_of_lt_of_le beyond scaled)
      · exact stops positive climbs

theorem maxRate_terminates {capacity : ℚ}
    (bounded : ∀ call value, (runfn call value).rate ≤ capacity)
    (positive : 0 < state.lastRate) :
    BreakLoop.Terminates (findMaxRateBody runfn) state := by
  obtain ⟨rounds, enough⟩ := pow_unbounded_of_one_lt
    (capacity / state.lastRate) (by norm_num : (1 : ℚ) < 51 / 50)
  exact maxRate_terminates_of_lt bounded rounds positive
    ((div_lt_iff₀ positive).mp enough)

/-! ### The rates and the kept maximum of a run -/

theorem Climbs.lt {lastRate rate : ℚ} (climbs : Climbs lastRate rate) :
    lastRate < rate := by
  obtain ⟨grown, high⟩ := climbs
  rcases le_or_gt lastRate 0 with nonpos | positive
  · linarith
  · linarith

/-- A round that goes on has climbed. -/
theorem climbs_of_next (positive : 0 < state.lastRate)
    (continued : findMaxRateBody runfn state = .inr later) :
    Climbs state.lastRate (probed runfn state).rate ∧
      later = climb state (probed runfn state) := by
  by_cases climbs : Climbs state.lastRate (probed runfn state).rate
  · rw [findMaxRateBody_of_climbs positive climbs] at continued
    exact ⟨climbs, (Sum.inr.inj continued).symm⟩
  · rw [findMaxRateBody_of_not_climbs positive climbs] at continued
    cases continued

/-- The rates reported in a run, in order. -/
def reportedRates (runfn : RunFn) (visited : List MaxRateState) : List ℚ :=
  visited.map fun state => (probed runfn state).rate

/-- In a run every rate but the last climbs above the one before. -/
theorem MaxRateRun.climbs {visited : List MaxRateState}
    (finite : MaxRateRun runfn state visited ending)
    (positive : 0 < state.lastRate) :
    (state.lastRate :: (reportedRates runfn visited).dropLast).IsChain
      Climbs := by
  induction finite with
  | stop broke => exact .singleton _
  | @next state later visited ending continued rest ih =>
      obtain ⟨climbs, rfl⟩ := climbs_of_next positive continued
      have laterPositive : 0 < (climb state (probed runfn state)).lastRate :=
        lt_of_lt_of_le one_pos climbs.2
      have nonempty : reportedRates runfn visited ≠ [] := by
        simpa [reportedRates] using List.ne_nil_of_mem rest.start_mem
      have consEq : reportedRates runfn (state :: visited) =
          (probed runfn state).rate :: reportedRates runfn visited := rfl
      rw [consEq, List.dropLast_cons_of_ne_nil nonempty]
      exact .cons_cons climbs (ih laterPositive)

/-- The first of the measurements whose rate is the highest one reported this
rate and drop. -/
def FirstHighest (measurements : List Measurement) (rate drop : ℚ) : Prop :=
  ∃ before first after, measurements = before ++ first :: after ∧
    first.rate = rate ∧ first.res = drop ∧
    (∀ earlier ∈ before, earlier.rate < rate) ∧
    ∀ other ∈ after, other.rate ≤ rate

/-- The maximum kept in a loop state is that of the measurements made so far.
It is at least one, so it is never taken for an unset one. -/
def Keeps (measurements : List Measurement) (state : MaxRateState) : Prop :=
  (measurements = [] ∧ state.maxValueRate = none) ∨
    ∃ rate drop, state.maxValueRate = some rate ∧
      state.maxValueDrop = some drop ∧ 1 ≤ rate ∧
      FirstHighest measurements rate drop

theorem FirstHighest.singleton (measurement : Measurement) :
    FirstHighest [measurement] measurement.rate measurement.res :=
  ⟨[], measurement, [], rfl, rfl, rfl, by simp, by simp⟩

theorem FirstHighest.concat_of_le {measurements : List Measurement}
    {rate drop : ℚ} (highest : FirstHighest measurements rate drop)
    {measurement : Measurement} (lower : measurement.rate ≤ rate) :
    FirstHighest (measurements ++ [measurement]) rate drop := by
  obtain ⟨before, first, after, rfl, rateEq, dropEq, below, above⟩ := highest
  refine ⟨before, first, after ++ [measurement], by simp, rateEq, dropEq,
    below, fun other member => ?_⟩
  rcases List.mem_append.mp member with earlier | last
  · exact above other earlier
  · exact List.mem_singleton.mp last ▸ lower

theorem FirstHighest.le {measurements : List Measurement} {rate drop : ℚ}
    (highest : FirstHighest measurements rate drop)
    {measurement : Measurement} (member : measurement ∈ measurements) :
    measurement.rate ≤ rate := by
  obtain ⟨before, first, after, rfl, rateEq, _, below, above⟩ := highest
  rcases List.mem_append.mp member with earlier | rest
  · exact (below _ earlier).le
  · rcases List.mem_cons.mp rest with rfl | later
    · exact rateEq.le
    · exact above _ later

theorem FirstHighest.concat_of_lt {measurements : List Measurement}
    {rate drop : ℚ} (highest : FirstHighest measurements rate drop)
    {measurement : Measurement} (higher : rate < measurement.rate) :
    FirstHighest (measurements ++ [measurement]) measurement.rate
      measurement.res :=
  ⟨measurements, measurement, [], rfl, rfl, rfl,
    fun _ member => lt_of_le_of_lt (highest.le member) higher, by simp⟩

/-- After one more measurement the maximum kept is that of them all. -/
theorem Keeps.climb {measurements : List Measurement}
    (keeps : Keeps measurements state) (measurement : Measurement) :
    ∃ rate drop, (climb state measurement).maxValueRate = some rate ∧
      (climb state measurement).maxValueDrop = some drop ∧
      measurement.rate ≤ rate ∧
      FirstHighest (measurements ++ [measurement]) rate drop := by
  rcases keeps with ⟨rfl, unset⟩ | ⟨rate, drop, rateEq, dropEq, high, highest⟩
  · refine ⟨measurement.rate, measurement.res, ?_, ?_, le_rfl,
      .singleton measurement⟩ <;> simp [Scanner.climb, nextMaxRate, truthy, unset]
  · have nonzero : rate ≠ 0 := by linarith
    by_cases higher : rate < measurement.rate
    · refine ⟨measurement.rate, measurement.res, ?_, ?_, le_rfl,
        highest.concat_of_lt higher⟩ <;>
          simp [Scanner.climb, nextMaxRate, rateEq, higher]
    · refine ⟨rate, drop, ?_, ?_, not_lt.mp higher,
        highest.concat_of_le (not_lt.mp higher)⟩ <;>
          simp [Scanner.climb, nextMaxRate, truthy, rateEq, dropEq, nonzero,
            higher]

/-- A run that starts with the maximum of some measurements returns the maximum
of these and its own. -/
theorem MaxRateRun.returns {visited : List MaxRateState}
    (finite : MaxRateRun runfn state visited ending)
    (positive : 0 < state.lastRate) {measurements : List Measurement}
    (keeps : Keeps measurements state) :
    ∃ rate drop, ending = .ok ⟨true, some rate, some drop⟩ ∧
      FirstHighest (measurements ++ visited.map (probed runfn)) rate drop := by
  induction finite generalizing measurements with
  | @stop state ending broke =>
      obtain ⟨rate, drop, rateEq, dropEq, _, highest⟩ :=
        keeps.climb (probed runfn state)
      by_cases climbs : Climbs state.lastRate (probed runfn state).rate
      · rw [findMaxRateBody_of_climbs positive climbs] at broke
        cases broke
      · rw [findMaxRateBody_of_not_climbs positive climbs, rateEq,
          dropEq] at broke
        exact ⟨rate, drop, (Sum.inl.inj broke).symm, highest⟩
  | @next state later visited ending continued rest ih =>
      obtain ⟨climbs, rfl⟩ := climbs_of_next positive continued
      obtain ⟨rate, drop, rateEq, dropEq, rateLe, highest⟩ :=
        keeps.climb (probed runfn state)
      obtain ⟨maxRate, maxDrop, endingEq, maximal⟩ :=
        ih (lt_of_lt_of_le one_pos climbs.2)
          (.inr ⟨rate, drop, rateEq, dropEq, climbs.2.trans rateLe, highest⟩)
      exact ⟨maxRate, maxDrop, endingEq, by simpa using maximal⟩

/-- Against bounded rates the search ends without a division by zero and
returns the highest reported rate with the drop first reported with it; up to
the last probe the rates rise by two percent each. -/
theorem findMaxRate_returns_maximum {capacity : ℚ} (startValue : ℚ)
    (bounded : ∀ call value, (runfn call value).rate ≤ capacity) :
    ∃ visited rate drop,
      MaxRateRun runfn (findMaxRateStart startValue) visited
        (.ok ⟨true, some rate, some drop⟩) ∧
      (∀ fuel, visited.length ≤ fuel →
        findMaxRate runfn startValue fuel =
          some (.ok ⟨true, some rate, some drop⟩)) ∧
      FirstHighest (visited.map (probed runfn)) rate drop ∧
      (reportedRates runfn visited).dropLast.Pairwise (· < ·) ∧
      (reportedRates runfn visited).dropLast.IsChain
        fun previous next => 102 / 100 * previous ≤ next := by
  have positive : 0 < (findMaxRateStart startValue).lastRate := by
    norm_num [findMaxRateStart]
  obtain ⟨visited, ending, finite⟩ := maxRate_terminates bounded positive
  obtain ⟨rate, drop, rfl, highest⟩ :=
    MaxRateRun.returns finite positive (.inl ⟨rfl, rfl⟩)
  have climbing := (MaxRateRun.climbs finite positive).tail
  refine ⟨visited, rate, drop, finite,
    fun fuel enough => BreakLoop.run_eq_of_run finite enough,
    highest, ?_, ?_⟩
  · exact List.isChain_iff_pairwise.mp
      (climbing.imp fun _ _ climbs => climbs.lt)
  · refine climbing.imp fun previous next climbs => ?_
    linarith [climbs.1]

/-- A system that delivers what is asked of it up to 700 messages per second
and drops a tenth from there on. -/
def saturatesAtSevenHundred : RunFn := fun _ value =>
  if value ≤ 700 then ⟨true, value, 0⟩ else ⟨true, 700, 10⟩

theorem saturatesAtSevenHundred_rate_le (call : Nat) (value : ℚ) :
    (saturatesAtSevenHundred call value).rate ≤ 700 := by
  unfold saturatesAtSevenHundred
  split
  · assumption
  · exact le_rfl

theorem saturatesAtSevenHundred_returns_maximum :
    ∃ visited rate drop,
      MaxRateRun saturatesAtSevenHundred (findMaxRateStart 100) visited
        (.ok ⟨true, some rate, some drop⟩) ∧
      (∀ fuel, visited.length ≤ fuel →
        findMaxRate saturatesAtSevenHundred 100 fuel =
          some (.ok ⟨true, some rate, some drop⟩)) ∧
      FirstHighest (visited.map (probed saturatesAtSevenHundred)) rate drop ∧
      (reportedRates saturatesAtSevenHundred visited).dropLast.Pairwise
        (· < ·) ∧
      (reportedRates saturatesAtSevenHundred visited).dropLast.IsChain
        fun previous next => 102 / 100 * previous ≤ next :=
  findMaxRate_returns_maximum 100 saturatesAtSevenHundred_rate_le

/-- It is probed at 100, 200, 400, 800 and 1600. -/
example : findMaxRate saturatesAtSevenHundred 100 5 =
    some (.ok ⟨true, some 700, some 10⟩) := by
  decide +kernel

end Scanner

end MScale
