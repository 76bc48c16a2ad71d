import MScale.StateErrors
import Mathlib.Data.List.Basic

/-!
# Calls that follow a schedule

A computation that may fail makes calls, which its state records.  It follows a
schedule of places if its calls come in phases, one place of the schedule after
the other, and each call of a phase is one that its place allows.  A place may
be skipped, and a failure leaves out the places after it.  The rules follow the
structure of the computation, as those of a Hoare logic.
-/

namespace MScale

namespace ScheduledCalls

open StateErrors

variable {Error State Call Place Value Result : Type}

/-- What is recorded, and which calls a place allows. -/
structure Record (State Call Place : Type) where
  calls : State → List Call
  Allows : Place → Call → Prop

variable {record : Record State Call Place}

/-- The calls between two states come in phases that follow the schedule. -/
def Follows (record : Record State Call Place) (schedule : List Place)
    (before after : State) : Prop :=
  ∃ phases : List (Place × List Call),
    record.calls after = record.calls before ++ phases.flatMap Prod.snd ∧
    List.Sublist (phases.map Prod.fst) schedule ∧
    ∀ phase ∈ phases, ∀ call ∈ phase.2, record.Allows phase.1 call

theorem follows_of_calls_eq {before after : State}
    (same : record.calls after = record.calls before) (schedule : List Place) :
    Follows record schedule before after :=
  ⟨[], by simp [same], List.nil_sublist schedule, by simp⟩

/-- Calls that one place allows. -/
theorem follows_of_allowed {before after : State} {place : Place}
    {made : List Call} (calls : record.calls after = record.calls before ++ made)
    (allowed : ∀ call ∈ made, record.Allows place call) :
    Follows record [place] before after :=
  ⟨[(place, made)], by simp [calls], List.Sublist.refl _, by simpa using allowed⟩

theorem Follows.trans {first second : List Place} {before middle after : State}
    (follows : Follows record first before middle)
    (rest : Follows record second middle after) :
    Follows record (first ++ second) before after := by
  obtain ⟨phases, calls, places, allowed⟩ := follows
  obtain ⟨later, laterCalls, laterPlaces, laterAllowed⟩ := rest
  refine ⟨phases ++ later, ?_, ?_, ?_⟩
  · rw [laterCalls, calls, List.append_assoc, List.flatMap_append]
  · rw [List.map_append]
    exact places.append laterPlaces
  · intro phase member
    rcases List.mem_append.mp member with member | member
    · exact allowed phase member
    · exact laterAllowed phase member

theorem Follows.mono {first second : List Place} {before after : State}
    (follows : Follows record first before after)
    (places : List.Sublist first second) :
    Follows record second before after := by
  obtain ⟨phases, calls, taken, allowed⟩ := follows
  exact ⟨phases, calls, taken.trans places, allowed⟩

/-- However a computation ends, it has followed the schedule; and a value comes
with the postcondition. -/
def Schedules (record : Record State Call Place) (Before : State → Prop)
    (schedule : List Place) (computation : EStateM Error State Value)
    (After : Value → State → Prop) : Prop :=
  ∀ state, Before state →
    Follows record schedule state (stateAfter (computation state)) ∧
    ∀ value final, computation state = .ok value final → After value final

section Rules

variable {Before : State → Prop} {Middle : Value → State → Prop}
  {After : Result → State → Prop} {first second : List Place}
  {computation : EStateM Error State Value}

theorem Schedules.bind {rest : Value → EStateM Error State Result}
    (schedules : Schedules record Before first computation Middle)
    (schedulesRest : ∀ value,
      Schedules record (Middle value) second (rest value) After) :
    Schedules record Before (first ++ second) (computation >>= rest) After := by
  intro state holds
  obtain ⟨follows, middle⟩ := schedules state holds
  cases ended : computation state with
  | error error failed =>
      rw [ended] at follows
      rw [bind_of_error ended]
      refine ⟨follows.mono (List.sublist_append_left _ _), ?_⟩
      intro value final impossible
      cases impossible
  | ok value final =>
      rw [ended] at follows
      rw [bind_of_ok ended]
      obtain ⟨followsRest, after⟩ :=
        schedulesRest value final (middle value final ended)
      exact ⟨follows.trans followsRest, after⟩

/-- The rule for a part that makes no calls. -/
theorem Schedules.bind_silent {rest : Value → EStateM Error State Result}
    {schedule : List Place}
    (silent : Schedules record Before [] computation Middle)
    (schedulesRest : ∀ value,
      Schedules record (Middle value) schedule (rest value) After) :
    Schedules record Before schedule (computation >>= rest) After :=
  silent.bind schedulesRest

/-- The rule for a sequence that ends with a part that makes no calls. -/
theorem Schedules.bind_last {rest : Value → EStateM Error State Result}
    {schedule : List Place}
    (schedules : Schedules record Before schedule computation Middle)
    (silentRest : ∀ value,
      Schedules record (Middle value) [] (rest value) After) :
    Schedules record Before schedule (computation >>= rest) After := by
  have whole := schedules.bind silentRest
  rw [List.append_nil] at whole
  exact whole

theorem Schedules.mono (schedules : Schedules record Before first computation
      Middle)
    (places : List.Sublist first second) :
    Schedules record Before second computation Middle := by
  intro state holds
  obtain ⟨follows, middle⟩ := schedules state holds
  exact ⟨follows.mono places, middle⟩

theorem Schedules.imp {Weaker : Value → State → Prop}
    (schedules : Schedules record Before first computation Middle)
    (implies : ∀ value state, Middle value state → Weaker value state) :
    Schedules record Before first computation Weaker := by
  intro state holds
  obtain ⟨follows, middle⟩ := schedules state holds
  exact ⟨follows, fun value final ended =>
    implies value final (middle value final ended)⟩

/-- A value that the postcondition does not look at. -/
theorem schedules_done (Before : State → Prop) (value : Value)
    (schedule : List Place) :
    Schedules record Before schedule (pure value : EStateM Error State Value)
      fun _ => Before := by
  intro state before
  refine ⟨follows_of_calls_eq rfl schedule, ?_⟩
  rintro value final ended
  cases ended
  exact before

theorem schedules_throw (error : Error) (schedule : List Place) :
    Schedules record Before schedule (throw error : EStateM Error State Value)
      Middle := by
  intro state before
  refine ⟨follows_of_calls_eq rfl schedule, ?_⟩
  rintro value final impossible
  cases impossible

theorem schedules_modify {change : State → State} {Changed : State → Prop}
    (silent : ∀ state, record.calls (change state) = record.calls state)
    (holds : ∀ state, Before state → Changed (change state)) :
    Schedules record Before []
      (modify change : EStateM Error State PUnit) fun _ => Changed := by
  intro state before
  refine ⟨follows_of_calls_eq (silent state) [], ?_⟩
  rintro value final ended
  cases ended
  exact holds state before

end Rules

end ScheduledCalls

end MScale
