import MScale.HydraGroupShares
import MScale.TestLaunches

/-!
# What is set up when a test starts

A test that signals its publisher to start runs on what the last launch has set
up.  Here calls of a runner follow each other, where `rerun_test` is called only
after a test that succeeded.  At every signal one publisher is registered, which
is the one that is talked to, and the registered subscribers are those that
answered their ping after the last launch.
-/

namespace MScale

namespace TestLaunch

open StateErrors HydraBase LabelledRuns

variable {setting : Setting} {program : Program}

/-! ## A launch that returns -/

/-- The publisher that was found is the only one registered. -/
def FoundPub (pub : String) (master : Master) (address : Int × String) : Prop :=
  ∃ info task, master.world.hydra.apps.lookup pub = some (.refreshed info) ∧
    info.ipPortMap.entries = [⟨task, address⟩] ∧
    master.haPub = some (address.2, address.1, task)

theorem onHydra_ok_iff {Value : Type} {program : HydraM Value} {value : Value}
    {master after : Master} :
    onHydra program master = .ok value after ↔
      ∃ world, program master.world = .ok value world ∧
        after = { master with world } :=
  onPart_ok_iff

theorem findPub_returned {pub : String} {master after : Master} {info : AppInfo}
    (registered : master.world.hydra.apps.lookup pub = some (.refreshed info))
    (returned : findPub pub master = .ok () after) :
    ∃ address, FoundPub pub after address ∧ after.world = master.world := by
  obtain ⟨ipm, middle, asked, found⟩ := bind_ok_iff.mp returned
  obtain ⟨world, mapped, rfl⟩ := onHydra_ok_iff.mp asked
  change getAppIpportMap pub master.world = .ok ipm world at mapped
  rw [getAppIpportMap_eq registered] at mapped
  cases mapped
  rcases entries : info.ipPortMap.entries with _ | ⟨entry, _ | ⟨other, more⟩⟩
  · simp only [entries] at found
    cases found
  · simp only [entries] at found
    cases found
    exact ⟨entry.snd, ⟨info, entry.fst, registered, entries, rfl⟩, rfl⟩
  · simp only [entries] at found
    cases found

/-- A launch of the publisher that returns has created it and has found its only
instance. -/
theorem launchPub_returned {pub : String} {creation : Creation}
    {master after : Master}
    (returned : launchPub setting pub creation master = .ok () after) :
    Created pub creation.cmd master.world.history after.world.history ∧
      (∃ address, FoundPub pub after address) ∧
      after.world.hydra.appGroup = master.world.hydra.appGroup := by
  obtain ⟨_, middle, launched, found⟩ := bind_ok_iff.mp returned
  obtain ⟨world, madeBy, rfl⟩ := onHydra_ok_iff.mp launched
  obtain ⟨created, reply, answered, hydraEq⟩ := create_returned madeBy
  have registered : world.hydra.apps.lookup pub =
      some (.refreshed { ipPortMap := ipPortMapOf reply.looked }) := by
    rw [hydraEq]
    exact (withReply_self answered).1
  obtain ⟨address, foundPub, same⟩ := findPub_returned registered found
  rw [same]
  refine ⟨created, ⟨address, foundPub⟩, ?_⟩
  rw [hydraEq, withReply_appGroup]

/-- A launch of the subscribers that returns has created them for the publisher,
and has kept those that answered. -/
theorem launchSub_returned {sub : String} {creation : String → Creation}
    {totalSubApps : Int} {master after : Master} {pubIp task : String}
    {port : Int} (haPub : master.haPub = some (pubIp, port, task))
    (noGroups : master.world.hydra.NoGroups)
    (returned : launchSub setting sub creation totalSubApps master =
      .ok () after) :
    ∃ app made more info, app.cmd = (creation pubIp).cmd ∧
      after.world.history =
        master.world.history ++ ⟨.createApp sub app, .ok made⟩ :: more ∧
      (∀ exchange ∈ more, Prepares exchange) ∧
      SubsFound sub totalSubApps more after.world.hydra info ∧
      (∀ other, other ≠ sub → after.world.hydra.apps.lookup other =
        master.world.hydra.apps.lookup other) ∧
      after.haPub = master.haPub := by
  unfold launchSub at returned
  rw [bind_of_ok (get_ok master), haPub] at returned
  obtain ⟨_, middle, launched, scaled⟩ := bind_ok_iff.mp returned
  obtain ⟨world, madeBy, rfl⟩ := onHydra_ok_iff.mp launched
  obtain ⟨world', scaledBy, rfl⟩ := onHydra_ok_iff.mp scaled
  obtain ⟨⟨app, made, early, cmdEq, createdAt, prepares⟩, reply, answered,
    hydraEq⟩ := create_returned madeBy
  have noGroupsYet : world.hydra.NoGroups := by
    intro groupName
    rw [hydraEq, withReply_appGroup]
    exact noGroups groupName
  obtain ⟨late, info, scaledAt, preparesLate, found, others, _⟩ :=
    scaleSubApp_returned noGroupsYet scaledBy
  refine ⟨app, made, early ++ late, info, cmdEq, ?_, ?_, ?_, ?_, rfl⟩
  · dsimp only
    rw [scaledAt, createdAt, List.append_assoc, List.cons_append]
  · exact List.forall_mem_append.mpr ⟨prepares, preparesLate⟩
  · exact found.mono fun _ member => List.mem_append_right early member
  · intro other different
    rw [others other different, hydraEq, withReply_other different]

/-! ## Groups -/

/-- A registry without groups stays without groups. -/
def KeepsNoGroups (before after : Master) : Prop :=
  before.world.hydra.NoGroups → after.world.hydra.NoGroups

theorem KeepsNoGroups.refl (master : Master) : KeepsNoGroups master master :=
  id

theorem KeepsNoGroups.trans (first second third : Master)
    (keeps : KeepsNoGroups first second)
    (keepsToo : KeepsNoGroups second third) : KeepsNoGroups first third :=
  keepsToo ∘ keeps

theorem GroupsTrimmed.noGroups {before after : World}
    (trimmed : GroupsTrimmed before after) (noGroups : before.hydra.NoGroups) :
    after.hydra.NoGroups := by
  intro groupName
  rw [AList.lookup_eq_none, trimmed.names, ← AList.lookup_eq_none]
  exact noGroups groupName

theorem onHydra_keepsNoGroups {Value : Type} {program : HydraM Value}
    (trims : LeadsAlong GroupsTrimmed program) :
    LeadsAlong KeepsNoGroups (onHydra program) := by
  intro master noGroups
  rw [onHydra, stateAfter_onPart]
  exact GroupsTrimmed.noGroups (trims master.world) noGroups

theorem deleteApps_trims (pub sub : String) :
    LeadsAlong GroupsTrimmed (deleteApps setting pub sub) := by
  apply LeadsAlong.bind GroupsTrimmed.trans
  · intro world
    apply groupsTrimmed_of_appGroup
    rw [deleteApp_after]
  · intro _ world
    apply groupsTrimmed_of_appGroup
    rw [deleteApp_after]

theorem create_trims (name : String) (ports : List Int)
    (constraints : List MarathonConstraint) (creation : Creation) :
    LeadsAlong GroupsTrimmed
      (create setting name ports constraints creation) := by
  intro world
  rw [create_eq, stateAfter_discard]
  exact groupsTrimmed_of_appGroup (launchApp_appGroup name _ _ world)

theorem scaleSubApp_trims (sub : String) (totalSubApps : Int) :
    LeadsAlong GroupsTrimmed (scaleSubApp setting sub totalSubApps) := by
  apply LeadsAlong.bind GroupsTrimmed.trans
  · intro world
    exact groupsTrimmed_of_appGroup (scaleApp_appGroup _ _ _ _ _ _ world)
  · exact fun _ => removeUnresponsiveTasks_trims setting.backend sub ""

theorem resetAllAppStats_trims (backend : Backend) (name groupName : String) :
    LeadsAlong GroupsTrimmed (resetAllAppStats backend name groupName) := by
  apply getHydra_trims.bind GroupsTrimmed.trans
  intro hydra
  apply (assertThat_trims _).bind GroupsTrimmed.trans
  intro _
  apply (scannedTasks_trims hydra name groupName).bind GroupsTrimmed.trans
  intro taskList
  apply (getAppIpportMap_trims name).bind GroupsTrimmed.trans
  exact fun ipPortMap => onBackend_trims _

theorem updateSubConfigs_trims (backend : Backend) (sub : String)
    (options : RunTestZMQ.Options) :
    LeadsAlong GroupsTrimmed
      (RunTestZMQ.updateSubConfigs backend sub options) := by
  have propertyTrims : ∀ pname,
      LeadsAlong GroupsTrimmed (getAppProperty sub pname) := by
    intro pname world
    exact groupsTrimmed_of_appGroup
      (@getAppProperty_subsOnly sub sub pname world).appGroup
  apply (getAppIpportMap_trims sub).bind GroupsTrimmed.trans
  intro ipm
  apply (propertyTrims _).bind GroupsTrimmed.trans
  intro slowSet
  apply (propertyTrims _).bind GroupsTrimmed.trans
  exact fun recSet => onBackend_trims _

theorem selectClients_trims (sub pname : String) (num : Nat)
    (draws : Nat → Nat) :
    LeadsAlong GroupsTrimmed (RunTestZMQ.selectClients sub pname num draws) := by
  intro world
  exact groupsTrimmed_of_appGroup
    (selectClients_subsOnly pname num draws world).appGroup

theorem chooseClients_trims (round : ℚ → ℚ) (backend : Backend) (sub : String)
    (options : RunTestZMQ.Options) (slowDraws recDraws : Nat → Nat) :
    LeadsAlong GroupsTrimmed
      (RunTestZMQ.chooseClients round backend sub options slowDraws
        recDraws) := by
  apply (onBackend_trims _).bind GroupsTrimmed.trans
  intro _
  apply (resetAllAppStats_trims _ _ _).bind GroupsTrimmed.trans
  intro _
  apply LeadsAlong.bind GroupsTrimmed.trans
  · apply (getAppIpportMap_trims _).bind GroupsTrimmed.trans
    exact fun ipPortMap => leadsAlong_pure GroupsTrimmed.refl _
  · intro acnt
    apply (selectClients_trims _ _ _ _).bind GroupsTrimmed.trans
    intro slowUpdate
    apply (selectClients_trims _ _ _ _).bind GroupsTrimmed.trans
    exact fun recUpdate => leadsAlong_pure GroupsTrimmed.refl _

theorem rerunTest_trims (options : Options) (slowDraws recDraws : Nat → Nat) :
    LeadsAlong GroupsTrimmed
      (program.rerunTest setting options slowDraws recDraws) := by
  cases program with
  | zmq =>
      apply LeadsAlong.bind GroupsTrimmed.trans
      · apply (chooseClients_trims _ _ _ _ _ _).bind GroupsTrimmed.trans
        intro updating
        cases updating with
        | true => exact updateSubConfigs_trims _ _ _
        | false => exact leadsAlong_pure GroupsTrimmed.refl _
      · exact fun _ => onBackend_trims _
  | kafka =>
      apply (onBackend_trims _).bind GroupsTrimmed.trans
      intro _
      apply (resetAllAppStats_trims _ _ _).bind GroupsTrimmed.trans
      exact fun _ => onBackend_trims _

theorem withPub_keepsNoGroups {rerun : HydraM Unit}
    (trims : LeadsAlong GroupsTrimmed rerun) :
    LeadsAlong KeepsNoGroups (withPub rerun) := by
  intro master
  unfold withPub
  rw [bind_of_ok (get_ok master)]
  cases master.haPub with
  | none => exact KeepsNoGroups.refl master
  | some haPub => exact onHydra_keepsNoGroups trims master

theorem launchPub_keepsNoGroups (pub : String) (creation : Creation) :
    LeadsAlong KeepsNoGroups (launchPub setting pub creation) := by
  apply (onHydra_keepsNoGroups (create_trims _ _ _ _)).bind KeepsNoGroups.trans
  intro _
  apply (onHydra_keepsNoGroups (getAppIpportMap_trims pub)).bind
    KeepsNoGroups.trans
  intro ipm master
  generalize ipm.entries = entries
  rcases entries with _ | ⟨entry, _ | ⟨other, more⟩⟩
  · exact KeepsNoGroups.refl master
  · exact id
  · exact KeepsNoGroups.refl master

theorem launchSub_keepsNoGroups (sub : String) (creation : String → Creation)
    (totalSubApps : Int) :
    LeadsAlong KeepsNoGroups (launchSub setting sub creation totalSubApps) := by
  intro master
  unfold launchSub
  rw [bind_of_ok (get_ok master)]
  cases master.haPub with
  | none => exact KeepsNoGroups.refl master
  | some haPub =>
      apply (onHydra_keepsNoGroups (create_trims _ _ _ _)).bind
        KeepsNoGroups.trans
      exact fun _ => onHydra_keepsNoGroups (scaleSubApp_trims sub totalSubApps)

/-! ## The parts of a call -/

theorem perform_runTest (options : Options) (slowDraws recDraws : Nat → Nat) :
    perform setting program (.runTest options slowDraws recDraws) =
      (do
        onHydra (deleteApps setting (program.pub setting)
          (program.sub setting))
        launchPub setting (program.pub setting)
          (program.pubCreation setting options)
        launchSub setting (program.sub setting)
          (program.subCreation setting options) options.totalSubApps
        withPub (program.rerunTest setting options slowDraws recDraws)) := by
  cases program <;> rfl

theorem perform_rerunTest (options : Options) (slowDraws recDraws : Nat → Nat) :
    perform setting program (.rerunTest options slowDraws recDraws) =
      withPub (program.rerunTest setting options slowDraws recDraws) := by
  cases program <;> rfl

theorem perform_deleteAllLaunchedApps :
    perform setting program .deleteAllLaunchedApps =
      onHydra (deleteApps setting (program.pub setting)
        (program.sub setting)) := by
  cases program <;> rfl

/-- However a call ends, it makes no groups. -/
theorem perform_keepsNoGroups (call : MasterCall) :
    LeadsAlong KeepsNoGroups (perform setting program call) := by
  cases call with
  | runTest options slowDraws recDraws =>
      rw [perform_runTest]
      apply (onHydra_keepsNoGroups (deleteApps_trims _ _)).bind
        KeepsNoGroups.trans
      intro _
      apply (launchPub_keepsNoGroups _ _).bind KeepsNoGroups.trans
      intro _
      apply (launchSub_keepsNoGroups _ _ _).bind KeepsNoGroups.trans
      exact fun _ => withPub_keepsNoGroups (rerunTest_trims _ _ _)
  | rerunTest options slowDraws recDraws =>
      rw [perform_rerunTest]
      exact withPub_keepsNoGroups (rerunTest_trims _ _ _)
  | deleteAllLaunchedApps =>
      rw [perform_deleteAllLaunchedApps]
      exact onHydra_keepsNoGroups (deleteApps_trims _ _)

/-! ## What a signal finds -/

/-- An exchange after which the same applications run. -/
def KeepsApps (exchange : Exchange) : Prop :=
  Prepares exchange ∨ exchange.request = .startTest

/-- The exchanges since a launch: the publisher was created, then the
subscribers for it, and after that no application was created or deleted and no
task was killed. -/
def LaunchedSince (setting : Setting) (program : Program) (options : Options)
    (pubIp : String) (since : History) : Prop :=
  ∃ pubApp pubMade early subApp subMade late,
    pubApp.cmd = (program.pubCreation setting options).cmd ∧
    subApp.cmd = (program.subCreation setting options pubIp).cmd ∧
    since = ⟨.createApp (program.pub setting) pubApp, .ok pubMade⟩ ::
      (early ++ ⟨.createApp (program.sub setting) subApp, .ok subMade⟩ ::
        late) ∧
    ∀ exchange ∈ early ++ late, KeepsApps exchange

/-- What a launch has set up: one publisher, which is the one that was found,
and the subscribers that answered. -/
structure SetUp (setting : Setting) (program : Program) (options : Options)
    (since : History) (info : AppInfo) (master : Master) : Prop where
  publisher : ∃ address, FoundPub (program.pub setting) master address ∧
    LaunchedSince setting program options address.2 since
  subscribers : SubsFound (program.sub setting) options.totalSubApps since
    master.world.hydra info

/-- The exchanges of a test until its start: the publisher is configured, every
subscriber is reset, then all of them or none are configured, and the signal is
sent. -/
def Signals (options : RunTestZMQ.Options) (ipPortMap : Dict (Int × String))
    (signal : History) : Prop :=
  ∃ resets configs, signal =
      ⟨.updatePubConfig options.testDuration options.msgBatch options.msgRate,
        .ok ()⟩ :: (resets ++ configs ++ [⟨.startTest, .ok ()⟩]) ∧
    List.Forall₂ (IsReset ipPortMap) ipPortMap.keys resets ∧
    (configs = [] ∨ List.Forall₂ (IsConfig ipPortMap) ipPortMap.keys configs)

theorem pub_ne_sub (setting : Setting) (program : Program) :
    program.pub setting ≠ program.sub setting := by
  intro same
  cases program with
  | zmq => exact absurd ((String.append_right_inj _).mp same) (by decide)
  | kafka => exact absurd ((String.append_right_inj _).mp same) (by decide)

theorem forall_keepsApps_of_forall₂ {Item : Type}
    {Related : Item → Exchange → Prop}
    (prepares : ∀ item exchange, Related item exchange → Prepares exchange)
    {items : List Item} {exchanges : History}
    (related : List.Forall₂ Related items exchanges) :
    ∀ exchange ∈ exchanges, KeepsApps exchange := by
  induction related with
  | nil => exact fun _ member => absurd member List.not_mem_nil
  | cons here rest ih =>
      exact List.forall_mem_cons.mpr ⟨.inl (prepares _ _ here), ih⟩

theorem Signals.keepsApps {options : RunTestZMQ.Options}
    {ipPortMap : Dict (Int × String)} {signal : History}
    (signals : Signals options ipPortMap signal) :
    ∀ exchange ∈ signal, KeepsApps exchange := by
  obtain ⟨resets, configs, rfl, allReset, allOrNone⟩ := signals
  simp only [List.forall_mem_cons, List.forall_mem_append]
  refine ⟨.inl rfl, ⟨?_, ?_⟩, .inr rfl, fun _ member => by cases member⟩
  · apply forall_keepsApps_of_forall₂ _ allReset
    rintro task exchange ⟨address, _, rfl⟩
    rfl
  · rcases allOrNone with rfl | allConfigured
    · exact fun _ member => by cases member
    · apply forall_keepsApps_of_forall₂ _ allConfigured
      rintro task exchange ⟨address, _, _, _, rfl⟩
      rfl

theorem LaunchedSince.append {options : Options} {pubIp : String}
    {since signal : History}
    (launched : LaunchedSince setting program options pubIp since)
    (keeps : ∀ exchange ∈ signal, KeepsApps exchange) :
    LaunchedSince setting program options pubIp (since ++ signal) := by
  obtain ⟨pubApp, pubMade, early, subApp, subMade, late, pubCmd, subCmd, rfl,
    kept⟩ := launched
  refine ⟨pubApp, pubMade, early, subApp, subMade, late ++ signal, pubCmd,
    subCmd, ?_, ?_⟩
  · simp
  · rw [← List.append_assoc]
    exact List.forall_mem_append.mpr ⟨kept, keeps⟩

/-- A test on what a launch has set up signals the publisher and leaves the rest
as it is. -/
theorem SetUp.signals {launchOptions options : Options} {since : History}
    {info : AppInfo} {master after : Master} {slowDraws recDraws : Nat → Nat}
    (setUp : SetUp setting program launchOptions since info master)
    (returned : withPub (program.rerunTest setting options slowDraws recDraws)
      master = .ok () after) :
    ∃ signal info', after.world.history = master.world.history ++ signal ∧
      Signals options.toOptions info'.ipPortMap signal ∧
      SetUp setting program launchOptions (since ++ signal) info' after := by
  obtain ⟨address, foundPub, launched⟩ := setUp.publisher
  obtain ⟨pubInfo, task, registered, single, haPub⟩ := foundPub
  unfold withPub at returned
  rw [bind_of_ok (get_ok master), haPub] at returned
  obtain ⟨world, rerun, rfl⟩ := onHydra_ok_iff.mp returned
  obtain ⟨⟨resets, configs, exchanged, allReset, allOrNone⟩,
    ⟨info', registered', sameMap⟩, only⟩ :=
    rerunTest_returned program setUp.subscribers.registered
      setUp.subscribers.listed rerun
  rw [← sameMap] at allReset allOrNone
  have signals : Signals options.toOptions info'.ipPortMap _ :=
    ⟨resets, configs, rfl, allReset, allOrNone⟩
  obtain ⟨_, listed, looked, answers, answering⟩ :=
    setUp.subscribers.mono fun _ member =>
      List.mem_append_left _ member
  refine ⟨_, info', exchanged, signals, ?_, registered', ?_, looked, answers, ?_⟩
  · refine ⟨address, ⟨pubInfo, task, ?_, single, haPub⟩,
      launched.append signals.keepsApps⟩
    rw [only.otherApps _ (pub_ne_sub setting program)]
    exact registered
  · rw [only.allTaskIds, listed, sameMap]
  · rw [sameMap]
    exact answering

/-- A `run_test` that comes to its signal has launched the test before. -/
theorem runTest_signals {options : Options} {slowDraws recDraws : Nat → Nat}
    {master after : Master} (noGroups : master.world.hydra.NoGroups)
    (returned : perform setting program (.runTest options slowDraws recDraws)
      master = .ok () after) :
    ∃ past since signal info,
      after.world.history = past ++ (since ++ signal) ∧
      Signals options.toOptions info.ipPortMap signal ∧
      SetUp setting program options (since ++ signal) info after := by
  rw [perform_runTest] at returned
  obtain ⟨_, cleared, deleted, returned⟩ := bind_ok_iff.mp returned
  obtain ⟨_, published, launchedPub, returned⟩ := bind_ok_iff.mp returned
  obtain ⟨_, subscribed, launchedSub, rerun⟩ := bind_ok_iff.mp returned
  obtain ⟨⟨pubApp, pubMade, early, pubCmd, pubAt, pubPrepares⟩,
    ⟨address, info, task, registered, single, haPub⟩, sameGroups⟩ :=
    launchPub_returned launchedPub
  have noGroupsYet : published.world.hydra.NoGroups := by
    have keeps := onHydra_keepsNoGroups (@deleteApps_trims setting
      (program.pub setting) (program.sub setting)) master
    rw [deleted] at keeps
    intro groupName
    rw [sameGroups]
    exact keeps noGroups groupName
  obtain ⟨subApp, subMade, late, subInfo, subCmd, subAt, subPrepares, subsFound,
    others, samePub⟩ := launchSub_returned haPub noGroupsYet launchedSub
  have setUp : SetUp setting program options
      (⟨.createApp (program.pub setting) pubApp, .ok pubMade⟩ ::
        (early ++ ⟨.createApp (program.sub setting) subApp, .ok subMade⟩ ::
          late)) subInfo subscribed := by
    refine ⟨⟨address, ⟨info, task, ?_, single, samePub.trans haPub⟩, pubApp,
      pubMade, early, subApp, subMade, late, pubCmd, subCmd, rfl, ?_⟩, ?_⟩
    · rw [others _ (pub_ne_sub setting program)]
      exact registered
    · intro exchange member
      rcases List.mem_append.mp member with isEarly | isLate
      · exact .inl (pubPrepares exchange isEarly)
      · exact .inl (subPrepares exchange isLate)
    · exact subsFound.mono fun exchange member => by simp [member]
  obtain ⟨signal, info', signalAt, signals, setUpAfter⟩ := setUp.signals rerun
  refine ⟨cleared.world.history, _, signal, info', ?_, signals, setUpAfter⟩
  rw [signalAt, subAt, pubAt]
  simp

/-! ## Runs of calls -/

/-- The options of a call that tests. -/
def MasterCall.testOptions : MasterCall → Option Options
  | .runTest options _ _ => some options
  | .rerunTest options _ _ => some options
  | .deleteAllLaunchedApps => none

def MasterCall.isRerun : MasterCall → Bool
  | .rerunTest _ _ _ => true
  | _ => false

/-- The options of the last launch after a call that succeeds. -/
def MasterCall.launch (launched : Option Options) :
    MasterCall → Option Options
  | .runTest options _ _ => some options
  | .rerunTest _ _ _ => launched
  | .deleteAllLaunchedApps => none

/-- The runner, and the options of the last launch if the call before was a test
that succeeded. -/
structure Standing where
  master : Master
  launched : Option Options

/-- A call returns or raises.  A test that has signalled its publisher may still
fail when it collects its results, and `rerun_test` is only called after a test
that succeeded. -/
def CallStep (setting : Setting) (program : Program) (before : Standing)
    (call : MasterCall) (after : Standing) : Prop :=
  (call.isRerun = true → before.launched.isSome = true) ∧
    ((perform setting program call before.master = .ok () after.master ∧
        (after.launched = call.launch before.launched ∨
          after.launched = none)) ∨
      ∃ error, perform setting program call before.master =
          .error (.raised error) after.master ∧
        after.launched = none)

/-- The publisher and the subscribers of a launch with these options are set
up. -/
def IsSetUp (setting : Setting) (program : Program) (launchOptions : Options)
    (master : Master) : Prop :=
  ∃ past since info, master.world.history = past ++ since ∧
    SetUp setting program launchOptions since info master

/-- A test with `options` has signalled the publisher of a launch with
`launchOptions` to start, and that launch is set up. -/
def StartsOn (setting : Setting) (program : Program)
    (launchOptions options : Options) (master : Master) : Prop :=
  ∃ past since signal info,
    master.world.history = past ++ (since ++ signal) ∧
    Signals options.toOptions info.ipPortMap signal ∧
    SetUp setting program launchOptions (since ++ signal) info master

theorem StartsOn.isSetUp {launchOptions options : Options} {master : Master}
    (starts : StartsOn setting program launchOptions options master) :
    IsSetUp setting program launchOptions master := by
  obtain ⟨past, since, signal, info, historyEq, _, setUp⟩ := starts
  exact ⟨past, since ++ signal, info, historyEq, setUp⟩

/-- No groups are registered, and a launch that is still tested is set up. -/
structure Sound (setting : Setting) (program : Program) (standing : Standing) :
    Prop where
  noGroups : standing.master.world.hydra.NoGroups
  setUp : ∀ launchOptions, standing.launched = some launchOptions →
    IsSetUp setting program launchOptions standing.master

section Steps

variable {before after : Standing} {call : MasterCall} {options : Options}

/-- A test that returns has started on the last launch. -/
theorem CallStep.startsOn (step : CallStep setting program before call after)
    (sound : Sound setting program before)
    (tests : call.testOptions = some options)
    (returned : perform setting program call before.master =
      .ok () after.master) :
    ∃ launchOptions, call.launch before.launched = some launchOptions ∧
      StartsOn setting program launchOptions options after.master := by
  cases call with
  | runTest options' slowDraws recDraws =>
      cases tests
      exact ⟨options, rfl, runTest_signals sound.noGroups returned⟩
  | rerunTest options' slowDraws recDraws =>
      cases tests
      obtain ⟨launchOptions, launched⟩ :=
        Option.isSome_iff_exists.mp (step.1 rfl)
      obtain ⟨past, since, info, historyEq, setUp⟩ :=
        sound.setUp launchOptions launched
      rw [perform_rerunTest] at returned
      obtain ⟨signal, info', signalAt, signals, setUpAfter⟩ :=
        setUp.signals returned
      refine ⟨launchOptions, launched, past, since, signal, info', ?_, signals,
        setUpAfter⟩
      rw [signalAt, historyEq, List.append_assoc]
  | deleteAllLaunchedApps => cases tests

theorem CallStep.ended (step : CallStep setting program before call after) :
    stateAfter (perform setting program call before.master) = after.master := by
  rcases step.2 with ⟨returned, _⟩ | ⟨error, raised, _⟩
  · rw [returned]
    rfl
  · rw [raised]
    rfl

theorem CallStep.sound (step : CallStep setting program before call after)
    (sound : Sound setting program before) :
    Sound setting program after := by
  constructor
  · rw [← step.ended]
    exact perform_keepsNoGroups call before.master sound.noGroups
  · intro launchOptions launched
    rcases step.2 with ⟨returned, launch | failed⟩ | ⟨error, raised, failed⟩
    · rw [launch] at launched
      cases tests : call.testOptions with
      | none => cases call <;> cases tests; cases launched
      | some options =>
          obtain ⟨launchOptions', launched', starts⟩ :=
            step.startsOn sound tests returned
          cases Option.some.inj (launched'.symm.trans launched)
          exact starts.isSetUp
    · cases failed.symm.trans launched
    · cases failed.symm.trans launched

end Steps

/-- In every sequence of calls, every test that returns has signalled its start
on what the last launch has set up. -/
theorem tests_startOn_launch {start final : Standing}
    {steps : List (Step Standing MasterCall)}
    (noGroups : start.master.world.hydra.NoGroups)
    (untested : start.launched = none)
    (run : Run (CallStep setting program) start steps final) :
    ∀ step ∈ steps, ∀ options, step.label.testOptions = some options →
      perform setting program step.label step.before.master =
        .ok () step.after.master →
      ∃ launchOptions,
        step.label.launch step.before.launched = some launchOptions ∧
        StartsOn setting program launchOptions options step.after.master := by
  have initially : Sound setting program start := by
    refine ⟨noGroups, ?_⟩
    rw [untested]
    exact fun _ launched => by cases launched
  intro step member options tests returned
  obtain ⟨taken, sound, _⟩ := run.invariant
    (fun _ _ _ sound step => CallStep.sound step sound) initially step member
  exact taken.startsOn sound tests returned

/-- A cluster that runs a publisher and three subscribers, of which the second
does not answer. -/
def oneSilentSub : Backend := fun history request =>
  match request with
  | .getApp appId =>
      .ok (some (if appId = "/zst-pub" then
        ⟨[⟨"zst-pub.1", "slave-0", [31000]⟩], 1, []⟩
      else
        ⟨[⟨"zst-sub.1", "slave-0", [31001]⟩,
          ⟨"zst-sub.2", "slave-1", [31001]⟩,
          ⟨"zst-sub.3", "slave-1", [31002]⟩], 3, []⟩))
  | .doPing _ _ taskId => .ok (taskId ≠ "zst-sub.2_PORT31001")
  | request => steadyBackend history request

def silentSetting : Setting :=
  ⟨oneSilentSub, 4, id, "", fun _ => none, fun number => toString number.num⟩

/-- Three subscribers are launched; half of those that answer are slow. -/
def slowOptions (msgRate : ℚ) : Options :=
  { testDuration := 10
    msgBatch := 100
    msgRate := msgRate
    slowClientsPercent := 50
    slowClientsRate := 500
    recClientsPercent := 0
    recClientsRate := 0
    totalSubApps := 3
    cPub := false
    cSub := false
    acks := 1
    lingerMs := 0
    consumerMaxBufferSize := 0 }

def newMaster : Master :=
  ⟨newWorld "zmqScale" "http://10.0.0.9:9800" [], none⟩

def launchAndTest : MasterCall :=
  .runTest (slowOptions 1000) (fun _ => 0) fun _ => 0

def testAgain : MasterCall :=
  .rerunTest (slowOptions 2000) (fun _ => 0) fun _ => 0

def testedMaster : Master :=
  stateAfter (perform silentSetting .zmq launchAndTest newMaster)

def retestedMaster : Master :=
  stateAfter (perform silentSetting .zmq testAgain testedMaster)

theorem launchAndTest_returned :
    perform silentSetting .zmq launchAndTest newMaster =
      .ok () testedMaster :=
  eq_ok_of_returns (by decide +kernel)

theorem testAgain_returned :
    perform silentSetting .zmq testAgain testedMaster =
      .ok () retestedMaster :=
  eq_ok_of_returns (by decide +kernel)

/-- The second test starts on the launch of the first, without the silent
subscriber. -/
theorem silentSub_startsOn :
    ∃ tested retested,
      perform silentSetting .zmq launchAndTest newMaster = .ok () tested ∧
      perform silentSetting .zmq testAgain tested = .ok () retested ∧
      retested.world.hydra.allTaskIds.lookup "/zst-sub" =
        some ["zst-sub.3_PORT31002", "zst-sub.1_PORT31001"] ∧
      StartsOn silentSetting .zmq (slowOptions 1000) (slowOptions 2000)
        retested := by
  have launched := launchAndTest_returned
  have tested := testAgain_returned
  have listed : retestedMaster.world.hydra.allTaskIds.lookup "/zst-sub" =
      some ["zst-sub.3_PORT31002", "zst-sub.1_PORT31001"] := by
    decide +kernel
  generalize testedMaster = first at launched tested
  generalize retestedMaster = second at tested listed
  have run : Run (CallStep silentSetting .zmq) ⟨newMaster, none⟩
      [⟨⟨newMaster, none⟩, launchAndTest, ⟨first, some (slowOptions 1000)⟩⟩,
        ⟨⟨first, some (slowOptions 1000)⟩, testAgain,
          ⟨second, some (slowOptions 1000)⟩⟩]
      ⟨second, some (slowOptions 1000)⟩ :=
    .next ⟨Bool.noConfusion, Or.inl ⟨launched, Or.inl rfl⟩⟩
      (.next ⟨fun _ => rfl, Or.inl ⟨tested, Or.inl rfl⟩⟩ .stop)
  obtain ⟨launchOptions, launchedWith, starts⟩ :=
    tests_startOn_launch (newWorld_noGroups _ _ _) rfl run _
      (List.mem_cons_of_mem _ (List.mem_singleton_self _)) (slowOptions 2000)
      rfl tested
  cases Option.some.inj launchedWith
  exact ⟨first, second, launched, tested, listed, starts⟩

end TestLaunch

end MScale
