import MScale.BoundaryOptions
import MScale.RunSuitMaxRate
import MScale.ScheduledCalls

/-!
# The tests of the ZMQ suite

The suite makes its tests in the order of its client counts and searches, and
before each client count it resets the shares of slow and of reconnecting
clients.  The name under which it resets the latter is not the name of the
option.  So with `flaky_clients` the plain searches of all client counts but the
first run with ten percent reconnecting clients.
-/

namespace MScale

namespace RunSuitMaxRate

open BoundaryRunnerBase StateErrors Scanner ScheduledCalls

/-- A search of the suite with the share of reconnecting clients it runs
with. -/
structure Place where
  clientCount : Nat
  search : Search
  recClientsPercent : ℚ
  deriving DecidableEq, Repr

def Place.slowClientsPercent (place : Place) : ℚ :=
  if place.search = .slowClients then 10 else 0

/-- The options of the suite that the place determines. -/
def Place.settings (place : Place) : List (String × OptionValue) :=
  [("total_sub_apps", .number (place.clientCount / 10 : Nat)),
    ("slow_clients_percent", .number place.slowClientsPercent),
    ("rec_clients_percent", .number place.recClientsPercent)]

/-- A test belongs to a place if it runs with the settings of the place. -/
def tests : Record SuitState (TestCall OptionValue) Place where
  calls state := state.runner.calls
  Allows place call := call.isTest = true →
    ∀ setting ∈ place.settings, call.value setting.1 = some setting.2

/-- The searches for one client count. -/
def searches (flaky : Bool) : List Search :=
  [.maxRate, .noDrop] ++ if flaky then [.slowClients, .recClients] else []

/-- The share of reconnecting clients during a search. -/
def recClientsPercent (plainPercent : ℚ) : Search → ℚ
  | .maxRate => plainPercent
  | .noDrop => plainPercent
  | .slowClients => 0
  | .recClients => 10

def clientSchedule (flaky : Bool) (plainPercent : ℚ) (clientCount : Nat) :
    List Place :=
  (searches flaky).map fun search =>
    ⟨clientCount, search, recClientsPercent plainPercent search⟩

/-- The searches of the ZMQ suite.  With `flaky_clients` the plain searches for
the first client count alone have no reconnecting clients. -/
def schedule (flaky : Bool) : List Place :=
  zmqtest.clientSet.flatMap fun clientCount =>
    clientSchedule flaky (if flaky ∧ clientCount ≠ 30 then 10 else 0) clientCount

/-! ### One search -/

/-- The options have the given values, and before the first client count no
test was made. -/
structure InForce (first : Bool) (settings : List (String × OptionValue))
    (state : SuitState) : Prop where
  arg1name : state.runner.boundaryArg1name = "msg_rate"
  options : ∀ setting ∈ settings,
    state.runner.boundaryOptions setting.1 = setting.2
  unused : first = true → state.runner.calls = []

/-- The runner has made tests with the same options. -/
def SameRunner (before after : SuitState) : Prop :=
  SameOptions before.runner after.runner

theorem SameRunner.refl (state : SuitState) : SameRunner state state :=
  SameOptions.refl state.runner

theorem SameRunner.trans {first second third : SuitState}
    (same : SameRunner first second) (later : SameRunner second third) :
    SameRunner first third :=
  SameOptions.trans same later

section Rules

variable {Value Result : Type}

theorem sameRunner_pure (value : Value) :
    LeadsAlong SameRunner (pure value : SuitM Value) :=
  leadsAlong_pure SameRunner.refl value

theorem sameRunner_throw (error : SuitStop) :
    LeadsAlong SameRunner (throw error : SuitM Value) :=
  leadsAlong_throw SameRunner.refl error

theorem sameRunner_bind {first : SuitM Value} {rest : Value → SuitM Result}
    (same : LeadsAlong SameRunner first)
    (sameRest : ∀ value, LeadsAlong SameRunner (rest value)) :
    LeadsAlong SameRunner (first >>= rest) := by
  refine LeadsAlong.bind ?_ same sameRest
  intro _ _ _
  exact SameRunner.trans

end Rules

theorem onRunner_sameRunner {Value : Type}
    {method : BoundaryM OptionValue Results Value}
    (same : LeadsAlong SameOptions method) :
    LeadsAlong SameRunner (onRunner method) := by
  intro state
  have kept := same state.runner
  unfold onRunner
  cases ended : method state.runner with
  | ok value runner =>
      rw [ended] at kept
      exact kept
  | error error runner =>
      rw [ended] at kept
      exact kept

section Searches

variable {suit : Suit} {parts : TestParts OptionValue Results} {fuel : Nat}

theorem run_sameRunner (value : ℚ) :
    LeadsAlong SameRunner (run suit parts value) := by
  refine sameRunner_bind (onRunner_sameRunner (boundaryRun_sameOptions _))
    fun answer => ?_
  cases answer with
  | ok answer => exact sameRunner_pure _
  | error error => exact sameRunner_throw _

theorem logFound_sameRunner (clientCount : Nat) (search : Search)
    (result : MaxRateResult ⊕ SearchResult) :
    LeadsAlong SameRunner (logFound clientCount search result) :=
  fun state => SameOptions.refl state.runner

/-- The rounds of a search run tests and nothing else. -/
theorem asking_sameRunner {Loop Result : Type} (value : Loop → ℚ)
    (goBy : Measurement → Loop → Result ⊕ Loop) (loop : Loop) :
    LeadsAlong SameRunner
      (repeatUntil .unfinished
        (AskingLoop.body (run suit parts) value goBy) fuel loop) := by
  refine leadsAlong_repeatUntil SameRunner.refl (fun _ _ _ => SameRunner.trans)
    (fun loop => ?_) fuel loop
  exact sameRunner_bind (run_sameRunner _) fun answer => sameRunner_pure _

theorem findMaxRate_sameRunner (clientCount : Nat) :
    LeadsAlong SameRunner (findMaxRate suit parts fuel clientCount) := by
  refine sameRunner_bind (asking_sameRunner _ _ _) fun ending => ?_
  split
  · exact sameRunner_bind (logFound_sameRunner _ _ _) fun _ => sameRunner_pure _
  · exact sameRunner_throw _
  · exact sameRunner_throw _

theorem searchBelow_sameRunner (clientCount : Nat) (search : Search)
    (maxRate : ℚ) :
    LeadsAlong SameRunner
      (searchBelow suit parts fuel clientCount search maxRate) := by
  have searched : LeadsAlong SameRunner
      (searchWith (run suit parts) .unfinished (maxRate / 2) (1 / 2) (1 / 100)
        fuel) :=
    sameRunner_bind (asking_sameRunner _ _ _) fun _ => sameRunner_pure _
  refine sameRunner_bind searched fun result => ?_
  exact sameRunner_bind (logFound_sameRunner _ _ _) fun _ => sameRunner_pure _

theorem findNoDropRate_sameRunner (clientCount : Nat) (rate drop : ℚ) :
    LeadsAlong SameRunner
      (findNoDropRate suit parts fuel clientCount rate drop) := by
  unfold findNoDropRate
  split
  · exact sameRunner_bind (searchBelow_sameRunner _ _ _)
      fun _ => sameRunner_pure _
  · exact sameRunner_pure _

/-- A search belongs to the place whose settings are in force, and leaves all
options in force. -/
theorem schedules_of_sameRunner {Value : Type} {computation : SuitM Value}
    (same : LeadsAlong SameRunner computation) (place : Place)
    (settings : List (String × OptionValue))
    (tuned : ∀ setting ∈ place.settings ++ settings, setting.1 ≠ "msg_rate") :
    Schedules tests (InForce false (place.settings ++ settings)) [place]
      computation fun _ => InForce false (place.settings ++ settings) := by
  intro state inForce
  have kept := same state
  have untuned : ∀ setting ∈ place.settings ++ settings,
      setting.1 ≠ state.runner.boundaryArg1name := by
    rw [inForce.arg1name]
    exact tuned
  refine ⟨?_, fun value final ended => ?_⟩
  · obtain ⟨made, calls, agree⟩ := kept.calls
    refine follows_of_allowed calls fun call member isTest setting set => ?_
    have within := List.mem_append_left settings set
    rw [agree call member isTest setting.1 (untuned setting within),
      inForce.options setting within]
  · rw [ended] at kept
    refine ⟨kept.arg1name.trans inForce.arg1name, fun setting set => ?_,
      fun impossible => by cases impossible⟩
    rw [← inForce.options setting set]
    exact kept.options setting.1 (untuned setting set)

end Searches

/-! ### One client count -/

section Clients

variable {apps : Applications} {parts : TestParts OptionValue Results}
  {fuel : Nat} {flaky : OptionValue} {first : Bool}

theorem schedules_setOption {name : String} {value : OptionValue}
    {before after : List (String × OptionValue)}
    (kept : ∀ setting ∈ after,
      setting = (name, value) ∨ setting.1 ≠ name ∧ setting ∈ before) :
    Schedules tests (InForce first before) [] (setOption name value)
      fun _ => InForce first after := by
  refine schedules_modify (fun state => rfl) fun state inForce => ?_
  refine ⟨inForce.arg1name, fun setting set => ?_, inForce.unused⟩
  rcases kept setting set with rfl | ⟨other, set⟩
  · exact Function.update_self ..
  · exact (Function.update_of_ne other ..).trans (inForce.options setting set)

theorem schedules_liftExcept (outcome : Except PyError Unit)
    (Before : SuitState → Prop) :
    Schedules tests Before [] (liftExcept outcome) fun _ => Before := by
  cases outcome with
  | ok done => exact schedules_done Before () []
  | error error => exact schedules_throw _ []

/-- Neither the construction of the runner nor the scaling sets an option. -/
theorem schedules_prepareRunner (settings : List (String × OptionValue)) :
    Schedules tests (InForce first settings) [] (prepareRunner apps first)
      fun _ => InForce false settings := by
  have later : ∀ state, InForce first settings state →
      InForce false settings state := fun state inForce =>
    ⟨inForce.arg1name, inForce.options, fun impossible => by cases impossible⟩
  intro state inForce
  rw [prepareRunner, bind_of_ok (get_ok state)]
  cases first with
  | false => exact schedules_liftExcept _ (InForce false settings) state inForce
  | true =>
      have constructs : Schedules tests
          (fun other => other = state ∧ InForce true settings other) []
          (set { state with
            runner := constructed state.runner.boundaryOptions false } :
            SuitM PUnit)
          fun _ => InForce false settings := by
        rintro other ⟨rfl, inForce⟩
        refine ⟨follows_of_calls_eq (inForce.unused rfl).symm [], ?_⟩
        rintro value final ended
        cases ended
        exact ⟨rfl, inForce.options, fun impossible => by cases impossible⟩
      refine Schedules.bind_silent (schedules_liftExcept _
        fun other => other = state ∧ InForce true settings other)
        (fun _ => ?_) state ⟨rfl, inForce⟩
      exact constructs.bind_silent fun _ => schedules_liftExcept _ _

/-- The options during the searches for one client count. -/
def searchOptions (flaky : OptionValue) (place : Place) :
    List (String × OptionValue) :=
  place.settings ++ [("flaky_clients", flaky)]

/-- The options between two client counts that concern the later ones. -/
def laterOptions (flaky : OptionValue) (recClientsPercent : ℚ) :
    List (String × OptionValue) :=
  [("rec_clients_percent", .number recClientsPercent), ("flaky_clients", flaky)]

theorem schedules_search {Value : Type} {computation : SuitM Value}
    (same : LeadsAlong SameRunner computation) (place : Place) :
    Schedules tests (InForce false (searchOptions flaky place)) [place]
      computation fun _ => InForce false (searchOptions flaky place) :=
  schedules_of_sameRunner same place _ (by simp [Place.settings])

theorem schedules_findFlakyRates (clientCount : Nat) (plainPercent : ℚ)
    (rate noDropRate : ℚ) :
    Schedules tests
      (InForce false (searchOptions flaky ⟨clientCount, .noDrop, plainPercent⟩))
      [⟨clientCount, .slowClients, 0⟩, ⟨clientCount, .recClients, 10⟩]
      (findFlakyRates zmqtest parts fuel clientCount rate noDropRate)
      fun _ => InForce false
        (searchOptions flaky ⟨clientCount, .recClients, 10⟩) := by
  have slowSet : Schedules tests
      (InForce false (searchOptions flaky ⟨clientCount, .noDrop, plainPercent⟩))
      [] (setOption "slow_clients_percent" (.number 10))
      fun _ => InForce false
        (searchOptions flaky ⟨clientCount, .slowClients, plainPercent⟩) := by
    apply schedules_setOption
    simp [searchOptions, Place.settings, Place.slowClientsPercent]
  have recCleared : Schedules tests
      (InForce false
        (searchOptions flaky ⟨clientCount, .slowClients, plainPercent⟩))
      [] (setOption "rec_clients_percent" (.number 0))
      fun _ => InForce false
        (searchOptions flaky ⟨clientCount, .slowClients, 0⟩) := by
    apply schedules_setOption
    simp [searchOptions, Place.settings, Place.slowClientsPercent]
  have slowCleared : Schedules tests
      (InForce false (searchOptions flaky ⟨clientCount, .slowClients, 0⟩))
      [] (setOption "slow_clients_percent" (.number 0))
      fun _ => InForce false
        (searchOptions flaky ⟨clientCount, .recClients, 0⟩) := by
    apply schedules_setOption
    simp [searchOptions, Place.settings, Place.slowClientsPercent]
  have recSet : Schedules tests
      (InForce false (searchOptions flaky ⟨clientCount, .recClients, 0⟩))
      [] (setOption "rec_clients_percent" (.number 10))
      fun _ => InForce false
        (searchOptions flaky ⟨clientCount, .recClients, 10⟩) := by
    apply schedules_setOption
    simp [searchOptions, Place.settings, Place.slowClientsPercent]
  have spared : ∀ (place : Place) (name : String) (value : OptionValue),
      (∀ setting ∈ searchOptions flaky place, setting.1 ≠ name) →
      Schedules tests (InForce false (searchOptions flaky place)) []
        (setOption name value)
        fun _ => InForce false (searchOptions flaky place) :=
    fun place name value other => schedules_setOption fun setting set =>
      .inr ⟨other setting set, set⟩
  have rated : ∀ (place : Place) (name : String),
      name = "slow_clients_rate" ∨ name = "rec_clients_rate" →
      ∀ setting ∈ searchOptions flaky place, setting.1 ≠ name := by
    rintro place name (rfl | rfl) <;> simp [searchOptions, Place.settings]
  refine slowSet.bind_silent fun _ => ?_
  refine (spared _ _ _ (rated _ _ (.inl rfl))).bind_silent fun _ => ?_
  refine recCleared.bind_silent fun _ => ?_
  refine (spared _ _ _ (rated _ _ (.inr rfl))).bind_silent fun _ => ?_
  refine (schedules_search (searchBelow_sameRunner _ _ _) _).bind fun _ => ?_
  refine slowCleared.bind_silent fun _ => ?_
  refine (spared _ _ _ (rated _ _ (.inl rfl))).bind_silent fun _ => ?_
  refine recSet.bind_silent fun _ => ?_
  refine (spared _ _ _ (rated _ _ (.inr rfl))).bind_silent fun _ => ?_
  exact (schedules_search (searchBelow_sameRunner _ _ _) _).bind_last
    fun _ => schedules_done _ () []

/-- What the reset of the client options leaves: the share of reconnecting
clients is as before. -/
theorem schedules_clientOptions (clientCount : Nat) (plainPercent : ℚ) :
    Schedules tests
      (InForce first (("total_sub_apps", .number (clientCount / 10 : Nat)) ::
        laterOptions flaky plainPercent)) []
      (setOptions (zmqtest.clientOptions.map fun name => (name, .number 0)))
      fun _ => InForce first
        (searchOptions flaky ⟨clientCount, .maxRate, plainPercent⟩) := by
  have slowCleared : Schedules tests
      (InForce first (("total_sub_apps", .number (clientCount / 10 : Nat)) ::
        laterOptions flaky plainPercent)) []
      (setOption "slow_clients_percent" (.number 0))
      fun _ => InForce first
        (searchOptions flaky ⟨clientCount, .maxRate, plainPercent⟩) := by
    apply schedules_setOption
    simp [searchOptions, laterOptions, Place.settings, Place.slowClientsPercent]
  have otherSet : Schedules tests
      (InForce first (searchOptions flaky ⟨clientCount, .maxRate, plainPercent⟩))
      [] (setOption "reconnecting_clients_percent" (.number 0))
      fun _ => InForce first
        (searchOptions flaky ⟨clientCount, .maxRate, plainPercent⟩) := by
    apply schedules_setOption
    simp [searchOptions, Place.settings]
  refine slowCleared.bind_silent fun _ => ?_
  exact otherSet.bind_silent fun _ => schedules_done _ () []

theorem InForce.mono {before after : List (String × OptionValue)}
    {state : SuitState} (inForce : InForce first before state)
    (subset : after ⊆ before) : InForce first after state :=
  ⟨inForce.arg1name, fun setting set => inForce.options setting (subset set),
    inForce.unused⟩

theorem schedules_searchClients (clientCount : Nat) (plainPercent : ℚ) :
    Schedules tests (InForce first (laterOptions flaky plainPercent))
      (clientSchedule flaky.truthy plainPercent clientCount)
      (searchClients zmqtest apps parts fuel first clientCount)
      fun _ => InForce false (laterOptions flaky
        (if flaky.truthy then 10 else plainPercent)) := by
  have totalSet : Schedules tests
      (InForce first (laterOptions flaky plainPercent)) []
      (setOption "total_sub_apps" (.number (clientCount / 10 : Nat)))
      fun _ => InForce first
        (("total_sub_apps", .number (clientCount / 10 : Nat)) ::
          laterOptions flaky plainPercent) := by
    apply schedules_setOption
    simp [laterOptions]
  have plain : searchOptions flaky ⟨clientCount, .maxRate, plainPercent⟩ =
      searchOptions flaky ⟨clientCount, .noDrop, plainPercent⟩ := by
    simp [searchOptions, Place.settings, Place.slowClientsPercent]
  refine totalSet.bind_silent fun _ => ?_
  refine (schedules_clientOptions clientCount plainPercent).bind_silent
    fun _ => ?_
  refine (schedules_prepareRunner _).bind_silent fun _ => ?_
  refine (schedules_search (findMaxRate_sameRunner clientCount) _).bind
    fun found => ?_
  rw [plain]
  refine (schedules_search (findNoDropRate_sameRunner _ _ _) _).bind
    fun noDropRate => ?_
  have read : Schedules tests
      (InForce false (searchOptions flaky ⟨clientCount, .noDrop, plainPercent⟩))
      [] (getOption "flaky_clients")
      fun value state => value = flaky ∧ InForce false
        (searchOptions flaky ⟨clientCount, .noDrop, plainPercent⟩) state := by
    intro state inForce
    refine ⟨follows_of_calls_eq rfl [], fun value final ended => ?_⟩
    cases ended
    exact ⟨inForce.options ("flaky_clients", flaky) (by simp [searchOptions]),
      inForce⟩
  refine read.bind_silent fun value => ?_
  rintro state ⟨rfl, inForce⟩
  cases truthy : value.truthy with
  | false =>
      simp only [Bool.and_false, Bool.false_eq_true, if_false]
      refine schedules_done (InForce false (laterOptions value plainPercent)) ()
        [] state (inForce.mono ?_)
      simp [laterOptions, searchOptions, Place.settings]
  | true =>
      simp only [zmqtest, Bool.and_self, if_true]
      refine (schedules_findFlakyRates clientCount plainPercent _ _).imp
        (fun _ after kept => kept.mono ?_) state inForce
      simp [laterOptions, searchOptions, Place.settings]

theorem schedules_searchAll (clientSet : List Nat) :
    Schedules tests (InForce false (laterOptions flaky
        (if flaky.truthy then 10 else 0)))
      (clientSet.flatMap
        (clientSchedule flaky.truthy (if flaky.truthy then 10 else 0)))
      (searchAll zmqtest apps parts fuel false clientSet)
      fun _ => InForce false (laterOptions flaky
        (if flaky.truthy then 10 else 0)) := by
  induction clientSet with
  | nil => exact schedules_done _ () []
  | cons clientCount clientSet ih =>
      refine ((schedules_searchClients clientCount _).imp ?_).bind fun _ => ih
      intro _ state inForce
      cases truthy : flaky.truthy <;> simpa [truthy] using inForce

end Clients

/-! ### The suite -/

section Suit

variable (apps : Applications) (parts : TestParts OptionValue Results)
  (fuel : Nat)

theorem schedule_eq (flaky : Bool) :
    schedule flaky = clientSchedule flaky 0 30 ++
      zmqtest.clientSet.tail.flatMap
        (clientSchedule flaky (if flaky then 10 else 0)) := by
  cases flaky <;> decide +kernel

theorem schedules_options {flaky : OptionValue} :
    Schedules tests (InForce true [("flaky_clients", flaky)]) []
      (setOptions zmqtest.options)
      fun _ => InForce true (laterOptions flaky 0) := by
  have spared : ∀ (name : String) (value : OptionValue),
      "flaky_clients" ≠ name →
      Schedules tests (InForce true [("flaky_clients", flaky)]) []
        (setOption name value)
        fun _ => InForce true [("flaky_clients", flaky)] := by
    intro name value other
    apply schedules_setOption
    simp [other]
  have recCleared : Schedules tests (InForce true [("flaky_clients", flaky)]) []
      (setOption "rec_clients_percent" (.number 0))
      fun _ => InForce true (laterOptions flaky 0) := by
    apply schedules_setOption
    simp [laterOptions]
  refine (spared _ _ (by decide)).bind_silent fun _ => ?_
  refine (spared _ _ (by decide)).bind_silent fun _ => ?_
  refine (spared _ _ (by decide)).bind_silent fun _ => ?_
  exact recCleared.bind_silent fun _ => schedules_done _ () []

theorem schedules_searches (options : Options OptionValue) :
    Follows tests (schedule (options "flaky_clients").truthy)
      (suitStart options)
      (stateAfter ((do
        setOptions zmqtest.options
        searchAll zmqtest apps parts fuel true zmqtest.clientSet : SuitM Unit)
        (suitStart options))) := by
  have whole : Schedules tests
      (InForce true [("flaky_clients", options "flaky_clients")])
      (schedule (options "flaky_clients").truthy)
      (do
        setOptions zmqtest.options
        searchAll zmqtest apps parts fuel true zmqtest.clientSet : SuitM Unit)
      fun _ => InForce false (laterOptions (options "flaky_clients")
        (if (options "flaky_clients").truthy then 10 else 0)) := by
    rw [schedule_eq]
    refine schedules_options.bind_silent fun _ => ?_
    refine (schedules_searchClients 30 0).bind fun _ => ?_
    exact schedules_searchAll zmqtest.clientSet.tail
  refine (whole (suitStart options) ⟨rfl, ?_, fun _ => rfl⟩).1
  simp [suitStart, constructed, start]

/-- What is left after the searches deletes the applications, or fails to. -/
theorem cleanUp_calls :
    LeadsAlong (fun before after : SuitState =>
        ∃ cleanUp, after.runner.calls = before.runner.calls ++ cleanUp ∧
          (cleanUp = [] ∨ cleanUp = [.deleteAllLaunchedApps]))
      (do
        onRunner (deleteAllLaunchedApps parts)
        liftExcept apps.stopAppserver) := by
  intro state
  refine ⟨[.deleteAllLaunchedApps], ?_, .inr rfl⟩
  have deleted : (stateAfter (onRunner (deleteAllLaunchedApps parts)
      state)).runner.calls =
      state.runner.calls ++ [.deleteAllLaunchedApps] := by
    unfold onRunner deleteAllLaunchedApps
    cases parts.delete state.runner.calls <;> rfl
  cases ended : onRunner (deleteAllLaunchedApps parts) state with
  | error error after =>
      rw [ended] at deleted
      rw [bind_of_error ended]
      exact deleted
  | ok done after =>
      rw [ended] at deleted
      rw [bind_of_ok ended]
      cases apps.stopAppserver <;> exact deleted

/-- However the suite ends, its tests come in phases in the order of the
schedule, and each test runs with the settings of its phase. -/
theorem runSuit_follows_schedule (options : Options OptionValue) :
    ∃ (phases : List (Place × List (TestCall OptionValue)))
      (cleanUp : List (TestCall OptionValue)),
      (stateAfter (runSuit zmqtest apps parts fuel
        (suitStart options))).runner.calls =
          phases.flatMap Prod.snd ++ cleanUp ∧
      (cleanUp = [] ∨ cleanUp = [.deleteAllLaunchedApps]) ∧
      List.Sublist (phases.map Prod.fst)
        (schedule (options "flaky_clients").truthy) ∧
      ∀ phase ∈ phases, ∀ call ∈ phase.2, call.isTest = true →
        ∀ setting ∈ phase.1.settings, call.value setting.1 = some setting.2 := by
  obtain ⟨phases, calls, places, allowed⟩ :=
    schedules_searches apps parts fuel options
  obtain ⟨cleanUp, finished, kind⟩ := leads_bind
    (fun state => ⟨[], (List.append_nil _).symm, .inl rfl⟩)
    (do
      setOptions zmqtest.options
      searchAll zmqtest apps parts fuel true zmqtest.clientSet : SuitM Unit)
    (fun _ => cleanUp_calls apps parts) (suitStart options)
  refine ⟨phases, cleanUp, ?_, kind, places, allowed⟩
  have started : tests.calls (suitStart options) = [] := rfl
  rw [bind_assoc] at finished
  rw [started, List.nil_append] at calls
  rw [← calls]
  exact finished

end Suit

end RunSuitMaxRate

end MScale
