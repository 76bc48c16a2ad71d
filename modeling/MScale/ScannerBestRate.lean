import MScale.KeptCandidates
import MScale.ScannerRounding

/-!
# The rate reported by the boundary search

The callers of `Scanner.search` print the returned `best_rate` as the highest
rate that met the target.  The search selects it by comparing each result with
the target and with the best result so far.  This file reduces the returned
pair to the measurement that is kept of the sequence of measurements, and finds
a condition under which it is what the callers print.  Which measurement is
kept depends on their order; the condition compares measurements in pairs.
-/

namespace MScale

namespace Scanner

open KeptCandidates

variable {round : ℚ → ℚ} {runfn : RunFn} {expectedResult errorPercentage : ℚ}

/-- What the callers print: the kept pair belongs to a measurement that met
the target, and no measurement that met the target had a higher rate. -/
def KeepsHighestMet (expectedResult : ℚ) (measurements : List Measurement)
    (best : ℚ × ℚ) : Prop :=
  ∃ kept ∈ measurements, kept.res ≤ expectedResult ∧
    best = (kept.res, kept.rate) ∧
      ∀ other ∈ measurements, other.res ≤ expectedResult →
        other.rate ≤ kept.rate

/-! ### The kept measurement -/

/-- A measurement takes the place of the one that is kept. -/
def TakesPlace (round : ℚ → ℚ) (expectedResult : ℚ)
    (held measurement : Measurement) : Prop :=
  RoundedDisplaces round expectedResult held.res measurement.res ∨
    (measurement.res = held.res ∧ measurement.rate > held.rate)

instance (round : ℚ → ℚ) (expectedResult : ℚ) :
    DecidableRel (TakesPlace round expectedResult) :=
  fun _ _ => inferInstanceAs (Decidable (_ ∨ _))

/-- `best_res` and `best_rate` are those of a measurement. -/
def Measurement.best (measurement : Measurement) : ℚ × ℚ :=
  (measurement.res, measurement.rate)

/-- The initial `best_res` gives way to every measurement. -/
theorem roundedBest_first (bestRate : ℚ) (measurement : Measurement) :
    roundedBest round expectedResult (-1, bestRate) measurement =
      measurement.best :=
  if_pos (Or.inl rfl)

/-- No later `best_res` is mistaken for the initial one. -/
theorem roundedBest_best {held measurement : Measurement}
    (nonneg : 0 ≤ held.res) :
    roundedBest round expectedResult held.best measurement =
      (keep (TakesPlace round expectedResult) held measurement).best := by
  have notInitial : held.res ≠ -1 := by linarith
  have takes_iff : RoundedTakesBest round expectedResult held.best.1
      held.best.2 measurement ↔
        TakesPlace round expectedResult held measurement := by
    simp [RoundedTakesBest, TakesPlace, Measurement.best, notInitial]
  by_cases takes : TakesPlace round expectedResult held measurement
  · rw [keep_of_takes takes]
    exact if_pos (takes_iff.mpr takes)
  · rw [keep_of_not_takes takes]
    exact if_neg (mt takes_iff.mp takes)

theorem foldl_roundedBest {first : Measurement} {rest : List Measurement}
    (nonneg : ∀ measurement ∈ first :: rest, 0 ≤ measurement.res) :
    rest.foldl (roundedBest round expectedResult) first.best =
      (kept (TakesPlace round expectedResult) first rest).best := by
  induction rest using List.reverseRecOn with
  | nil => rfl
  | append_singleton rest last ih =>
      have earlierNonneg :
          ∀ measurement ∈ first :: rest, 0 ≤ measurement.res :=
        fun measurement member => nonneg measurement
          (List.mem_append_left [last] member)
      rw [List.foldl_append, ih earlierNonneg, kept_concat]
      exact roundedBest_best (earlierNonneg _ (kept_mem first rest))

/-- A run left by the accuracy test carries the fold of its measurements. -/
theorem best_eq_foldl {state : SearchState} {visited : List SearchState}
    {exit : SearchExit}
    (finite : RoundedRun round runfn expectedResult errorPercentage state
      visited exit) (accurate : exit.status = true) :
    (exit.bestRes, exit.bestRate) =
      (visited.map (measured runfn)).foldl (roundedBest round expectedResult)
        (state.bestRes, state.bestRate) := by
  induction finite with
  | stop broke => exact roundedBody_eq_exit accurate broke
  | next continued rest ih =>
      rw [ih accurate, roundedBody_eq_next continued]
      rfl

/-- The search returns the measurement that is kept. -/
theorem exists_best_eq_kept {startValue : ℚ} {visited : List SearchState}
    {exit : SearchExit}
    (finite : RoundedRun round runfn expectedResult errorPercentage
      (searchStart startValue) visited exit)
    (accurate : exit.status = true)
    (nonneg : ∀ measurement ∈ visited.map (measured runfn),
      0 ≤ measurement.res) :
    ∃ first rest, visited.map (measured runfn) = first :: rest ∧
      (exit.bestRes, exit.bestRate) =
        (kept (TakesPlace round expectedResult) first rest).best := by
  obtain ⟨first, rest, measurements⟩ := List.exists_cons_of_ne_nil
    (List.ne_nil_of_mem (List.mem_map_of_mem finite.start_mem))
  refine ⟨first, rest, measurements, ?_⟩
  rw [best_eq_foldl finite accurate, measurements, List.foldl_cons]
  rw [measurements] at nonneg
  calc rest.foldl (roundedBest round expectedResult)
        (roundedBest round expectedResult (-1, 0) first)
      = rest.foldl (roundedBest round expectedResult) first.best := by
        rw [roundedBest_first]
    _ = (kept (TakesPlace round expectedResult) first rest).best :=
        foldl_roundedBest nonneg

/-! ### The highest rate -/

/-- No measurement that met the target had a higher rate. -/
def HighestAmongMet (expectedResult : ℚ) (measurements : List Measurement)
    (highest : Measurement) : Prop :=
  ∀ other ∈ measurements, other.res ≤ expectedResult →
    other.rate ≤ highest.rate

/-- Of the measurements that met the target, one of highest rate lies between
the earlier and the later ones, and none of the later ones takes its place. -/
structure HighestStands (round : ℚ → ℚ) (expectedResult : ℚ)
    (measurements earlier : List Measurement) (highest : Measurement)
    (later : List Measurement) : Prop where
  split : measurements = earlier ++ highest :: later
  met : highest.res ≤ expectedResult
  ofHighestRate : HighestAmongMet expectedResult measurements highest
  stands : Stands (TakesPlace round expectedResult) highest later

/-- It also takes the place of every earlier one that stands until it comes. -/
def HighestTakesEvery (round : ℚ → ℚ) (expectedResult : ℚ)
    (measurements : List Measurement) : Prop :=
  ∃ earlier highest later,
    HighestStands round expectedResult measurements earlier highest later ∧
    ∀ before held between, earlier = before ++ held :: between →
      Stands (TakesPlace round expectedResult) held between →
        TakesPlace round expectedResult held highest

/-- It is the first measurement, or takes the place of an earlier one that
stands until it comes. -/
def HighestTakesSome (round : ℚ → ℚ) (expectedResult : ℚ)
    (measurements : List Measurement) : Prop :=
  ∃ earlier highest later,
    HighestStands round expectedResult measurements earlier highest later ∧
    (earlier = [] ∨ ∃ before held between, earlier = before ++ held :: between ∧
      Stands (TakesPlace round expectedResult) held between ∧
        TakesPlace round expectedResult held highest)

section Kept

variable {first : Measurement} {rest : List Measurement}

theorem HighestTakesEvery.keepsHighestMet
    (takesEvery : HighestTakesEvery round expectedResult (first :: rest)) :
    KeepsHighestMet expectedResult (first :: rest)
      (kept (TakesPlace round expectedResult) first rest).best := by
  obtain ⟨earlier, highest, later, highestStands, takesStanding⟩ := takesEvery
  rw [kept_eq_of_takes_standing highestStands.split takesStanding
    highestStands.stands]
  refine ⟨highest, ?_, highestStands.met, rfl, highestStands.ofHighestRate⟩
  rw [highestStands.split]
  exact List.mem_append_right _ List.mem_cons_self

theorem KeepsHighestMet.takesSome
    (keeps : KeepsHighestMet expectedResult (first :: rest)
      (kept (TakesPlace round expectedResult) first rest).best) :
    HighestTakesSome round expectedResult (first :: rest) := by
  obtain ⟨highest, _, met, same, ofHighestRate⟩ := keeps
  obtain ⟨sameRes, sameRate⟩ := Prod.mk.inj same
  obtain ⟨earlier, later, split, stands, tookPlace⟩ :=
    @exists_kept_split _ (TakesPlace round expectedResult) _ first rest
  refine ⟨earlier, _, later, ⟨split, sameRes.trans_le met, ?_, stands⟩,
    tookPlace⟩
  intro other member otherMet
  exact (ofHighestRate other member otherMet).trans_eq sameRate.symm

end Kept

/-- A search returns the highest rate that met the target if no measurement met
it, or if one of highest rate takes the place of every one that stands until it
comes and then stands itself.  Conversely it has to take the place of one of
them.  Which of them is kept is decided by all measurements before. -/
theorem search_keepsHighestMet {startValue : ℚ} {visited : List SearchState}
    {exit : SearchExit}
    (finite : RoundedRun round runfn expectedResult errorPercentage
      (searchStart startValue) visited exit)
    (accurate : exit.status = true)
    (nonneg : ∀ measurement ∈ visited.map (measured runfn),
      0 ≤ measurement.res) :
    ((∀ measurement ∈ visited.map (measured runfn),
          expectedResult < measurement.res) ∨
        HighestTakesEvery round expectedResult (visited.map (measured runfn)) →
      (∃ measurement ∈ visited.map (measured runfn),
          measurement.res ≤ expectedResult) →
        KeepsHighestMet expectedResult (visited.map (measured runfn))
          (exit.bestRes, exit.bestRate)) ∧
    (((∃ measurement ∈ visited.map (measured runfn),
          measurement.res ≤ expectedResult) →
        KeepsHighestMet expectedResult (visited.map (measured runfn))
          (exit.bestRes, exit.bestRate)) →
      (∀ measurement ∈ visited.map (measured runfn),
          expectedResult < measurement.res) ∨
        HighestTakesSome round expectedResult
          (visited.map (measured runfn))) := by
  obtain ⟨first, rest, measurements, bestEq⟩ :=
    exists_best_eq_kept finite accurate nonneg
  rw [bestEq, measurements]
  constructor
  · rintro (missed | takesEvery) ⟨measurement, member, met⟩
    · exact absurd met (not_le_of_gt (missed measurement member))
    · exact takesEvery.keepsHighestMet
  · intro keeps
    by_cases met : ∃ measurement ∈ first :: rest,
        measurement.res ≤ expectedResult
    · exact Or.inr (keeps met).takesSome
    · push Not at met
      exact Or.inl met

/-- The condition holds if a measurement of highest rate hits the target, as
every one that meets the target zero does.  The rounding must only tell every
other result from the target. -/
theorem highestTakesEvery_of_hit {measurements : List Measurement}
    (zero : round 0 = 0)
    (apart : ∀ measurement ∈ measurements,
      round (measurement.res - expectedResult) = 0 →
        measurement.res = expectedResult)
    {hit : Measurement} (member : hit ∈ measurements)
    (exact : hit.res = expectedResult)
    (ofHighestRate : HighestAmongMet expectedResult measurements hit) :
    HighestTakesEvery round expectedResult measurements := by
  -- Of several such measurements the first one is kept.
  let isHit (measurement : Measurement) : Bool :=
    measurement.res = expectedResult ∧ measurement.rate = hit.rate
  have someHit : (measurements.find? isHit).isSome :=
    List.find?_isSome.mpr ⟨hit, member, by simp [isHit, exact]⟩
  obtain ⟨highest, found⟩ := Option.isSome_iff_exists.mp someHit
  obtain ⟨highestHit, earlier, later, split, notEarlier⟩ :=
    List.find?_eq_some_iff_append.mp found
  simp only [isHit, decide_eq_true_eq] at highestHit
  obtain ⟨highestExact, sameRate⟩ := highestHit
  have highestMember : ∀ held ∈ earlier, held ∈ measurements := by
    intro held heldMember
    rw [split]
    exact List.mem_append_left _ heldMember
  refine ⟨earlier, highest, later, ⟨split, highestExact.le, ?_, ?_⟩, ?_⟩
  · intro other otherMember otherMet
    exact (ofHighestRate other otherMember otherMet).trans_eq sameRate.symm
  · rintro next nextMember (displaces | ⟨sameRes, higher⟩)
    · rw [RoundedDisplaces, highestExact, lt_self_iff_false] at displaces
      exact displaces
    · have nextOfMeasurements : next ∈ measurements := by
        rw [split]
        exact List.mem_append_right _ (List.mem_cons_of_mem _ nextMember)
      have notHigher := ofHighestRate next nextOfMeasurements
        (sameRes.trans highestExact).le
      rw [← sameRate] at notHigher
      exact absurd higher (not_lt_of_ge notHigher)
  · rintro before held between rfl _
    have heldEarlier : held ∈ before ++ held :: between :=
      List.mem_append_right _ List.mem_cons_self
    have heldMember := highestMember held heldEarlier
    by_cases heldExact : held.res = expectedResult
    · right
      refine ⟨highestExact.trans heldExact.symm, ?_⟩
      rw [sameRate]
      apply lt_of_le_of_ne (ofHighestRate held heldMember heldExact.le)
      intro heldRate
      have notHit := notEarlier held heldEarlier
      simp [isHit, heldExact, heldRate] at notHit
    · left
      rw [RoundedDisplaces, highestExact, sub_self, zero, abs_zero, abs_pos]
      exact fun same => heldExact (apart held heldMember same)

/-- It is enough that it takes the place of every earlier one. -/
theorem HighestStands.takesEvery {measurements earlier later : List Measurement}
    {highest : Measurement}
    (highestStands : HighestStands round expectedResult measurements earlier
      highest later)
    (takesAll : ∀ held ∈ earlier,
      TakesPlace round expectedResult held highest) :
    HighestTakesEvery round expectedResult measurements := by
  refine ⟨earlier, highest, later, highestStands, ?_⟩
  rintro before held between rfl _
  exact takesAll held (List.mem_append_right _ List.mem_cons_self)

/-! ### Responders with a step -/

/-- Up to 1000 messages per second a quarter of a percent is dropped, above it
3. -/
def quarterDrop : RunFn := fun _ value =>
  ⟨true, value, if value ≤ 1000 then 1 / 4 else 3⟩

/-- The rates that a search from 900 with the target 0.5 tries.  Halving them is
exact. -/
def quarterMeasurements : List Measurement :=
  [⟨true, 900, 1 / 4⟩, ⟨true, 1800, 3⟩, ⟨true, 1350, 3⟩, ⟨true, 1125, 3⟩,
    ⟨true, 2025 / 2, 3⟩, ⟨true, 3825 / 4, 1 / 4⟩, ⟨true, 7875 / 8, 1 / 4⟩,
    ⟨true, 15975 / 16, 1 / 4⟩]

/-- The last rate takes the place of all before it, also of the accepted ones,
which it exceeds. -/
theorem quarterMeasurements_takesEvery :
    HighestTakesEvery id (1 / 2) quarterMeasurements := by
  have highestStands : HighestStands id (1 / 2) quarterMeasurements
      quarterMeasurements.dropLast ⟨true, 15975 / 16, 1 / 4⟩ [] :=
    ⟨rfl, by norm_num, by unfold HighestAmongMet; decide +kernel,
      by simp [Stands]⟩
  exact highestStands.takesEvery (by decide +kernel)

theorem quarterDrop_keepsHighestMet :
    ∃ visited exit,
      RoundedRun id quarterDrop (1 / 2) (1 / 64) (searchStart 900) visited
        exit ∧
      exit.status = true ∧
      (∀ measurement ∈ visited.map (measured quarterDrop),
        0 ≤ measurement.res) ∧
      HighestTakesEvery id (1 / 2) (visited.map (measured quarterDrop)) ∧
      KeepsHighestMet (1 / 2) (visited.map (measured quarterDrop))
        (exit.bestRes, exit.bestRate) := by
  have finished : BreakLoop.run (roundedBody id quarterDrop (1 / 2) (1 / 64)) 20
      (searchStart 900) = some ⟨true, 7, 1 / 4, 15975 / 16⟩ := by
    decide +kernel
  have finite := BreakLoop.run_visits finished
  generalize visitedEq : BreakLoop.visits _ _ _ = visited at finite
  have measurements : visited.map (measured quarterDrop) =
      quarterMeasurements := by
    rw [← visitedEq]
    decide +kernel
  have nonneg : ∀ measurement ∈ visited.map (measured quarterDrop),
      0 ≤ measurement.res := by
    rw [measurements]
    decide +kernel
  have takesEvery : HighestTakesEvery id (1 / 2)
      (visited.map (measured quarterDrop)) := by
    rw [measurements]
    exact quarterMeasurements_takesEvery
  have someMet : ∃ measurement ∈ visited.map (measured quarterDrop),
      measurement.res ≤ 1 / 2 := by
    rw [measurements]
    decide +kernel
  exact ⟨visited, _, finite, rfl, nonneg, takesEvery,
    (search_keepsHighestMet finite rfl nonneg).1 (Or.inr takesEvery) someMet⟩

/-- Up to 1000 messages per second 0.2 percent are dropped, above it 3. -/
def steppedDrop : RunFn := fun _ value =>
  ⟨true, value, if value ≤ 1000 then 1 / 5 else 3⟩

theorem steppedDrop_res_nonneg (state : SearchState) :
    0 ≤ (measured steppedDrop state).res := by
  simp only [measured, steppedDrop]
  split <;> norm_num

/-- With the target 0.5 the first rejected rate displaces the accepted one and
is returned. -/
theorem steppedDrop_returns_rejected_rate :
    ∃ visited exit,
      SearchRun steppedDrop (1 / 2) (1 / 100) (searchStart 1000) visited exit ∧
      exit.status = true ∧
      (∀ measurement ∈ visited.map (measured steppedDrop),
        0 ≤ measurement.res) ∧
      (∃ measurement ∈ visited.map (measured steppedDrop),
        measurement.res ≤ 1 / 2) ∧
      ¬ KeepsHighestMet (1 / 2) (visited.map (measured steppedDrop))
        (exit.bestRes, exit.bestRate) := by
  have finished : BreakLoop.run (searchBody steppedDrop (1 / 2) (1 / 100)) 20
      (searchStart 1000) = some ⟨true, 8, 3, 2000⟩ := by
    decide +kernel
  have finite := BreakLoop.run_visits finished
  refine ⟨_, ⟨true, 8, 3, 2000⟩, finite, rfl, ?_, ?_, ?_⟩
  · intro measurement member
    obtain ⟨state, _, rfl⟩ := List.mem_map.mp member
    exact steppedDrop_res_nonneg state
  · refine ⟨measured steppedDrop (searchStart 1000),
      List.mem_map_of_mem finite.start_mem, ?_⟩
    decide +kernel
  · rintro ⟨kept, _, met, bestEq, _⟩
    rw [← (Prod.mk.inj bestEq).1] at met
    norm_num at met

end Scanner

end MScale
