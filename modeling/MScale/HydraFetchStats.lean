import MScale.HAnalyserReplies
import MScale.HydraInstanceKeys
import MScale.HydraUnresponsive
import MScale.SuccessStreaks

/-!
# Fetching the statistics of the instances

`fetch_app_stats` asks the instances of an application, or of a group, for
their statistics one after the other.  It reads an instance again until two
reads in a row have the same `msg_cnt`, and gives up this check for all further
instances after more than 40 such pairs in a row.  This file embeds the
function and determines what is stored, and which of the stored counts were
read again.
-/

namespace MScale

open StateErrors HAnalyser SuccessStreaks

/-- What `get_stats` returns. -/
abbrev InstanceStats (FloatNum Json : Type) := Dict (StatValue FloatNum Json)

/-- The address and the task an `HAnalyser` is made for. -/
structure AnalyserPeer where
  ip : String
  port : Int
  taskId : String
  deriving DecidableEq, Repr

/-- A call of `get_stats` that returned. -/
structure StatsRead (FloatNum Json : Type) where
  haSub : AnalyserPeer
  stats : InstanceStats FloatNum Json

/-- The registry, which a fetch only reads, the dict `apps[name]['stats']` of
each application with the statistics as they were decoded, and all reads. -/
structure FetchWorld (FloatNum Json : Type) where
  world : World
  stats : Dict (Dict (InstanceStats FloatNum Json))
  reads : List (StatsRead FloatNum Json)

abbrev FetchM (FloatNum Json : Type) := EStateM Stop (FetchWorld FloatNum Json)

/-- What `do_req_resp('getstats')` comes back with, after the given reads. -/
abbrev StatsReplies (FloatNum Json : Type) :=
  List (StatsRead FloatNum Json) → AnalyserPeer →
    Except RespError (RespResult FloatNum)

/-- How an exception of `get_stats` ends the fetch. -/
def HAnalyser.StatsError.stop : StatsError → Stop
  | .resp .decode => .raised (.exception "DecodeError")
  | .resp (.keyError key) => .raised (.keyError key)
  | .assertionError => .raised .assertionError
  | .attributeError => .raised .attributeError

/-- The variables of the loop that waits for a stable count. -/
structure SettleLoop (FloatNum Json : Type) where
  firstItr : Bool
  noDelayNeededCount : Nat
  stats : InstanceStats FloatNum Json

namespace HydraBase

variable {FloatNum Json : Type}

/-- `str(ip) + ':' + str(port)`. -/
def endpoint (info : Int × String) : String :=
  info.2 ++ ":" ++ toString info.1

/-- Run a computation that needs the registry only. -/
def onRegistry {Value : Type} (computation : HydraM Value) :
    FetchM FloatNum Json Value :=
  onPart FetchWorld.world (fun world fetch => { fetch with world }) computation

/-- `apps[name]['stats'] = {}`. -/
def clearStats (name : String) : FetchM FloatNum Json Unit :=
  modify fun fetch => { fetch with stats := fetch.stats.insert name ∅ }

/-- `apps[name]['stats'][key] = stats`. -/
def storeStats (name key : String) (stats : InstanceStats FloatNum Json) :
    FetchM FloatNum Json Unit := do
  let ofApp ← index (← get).stats name
  modify fun fetch =>
    { fetch with stats := fetch.stats.insert name (ofApp.insert key stats) }

section Fetch

variable (json : JsonLib Json)
  (pyEq : StatValue FloatNum Json → StatValue FloatNum Json → Bool)
  (replies : StatsReplies FloatNum Json)

/-- `ha_sub.get_stats()`. -/
def getStats (haSub : AnalyserPeer) :
    FetchM FloatNum Json (InstanceStats FloatNum Json) := fun fetch =>
  match loadsStats json (replies fetch.reads haSub) with
  | .ok stats =>
      .ok stats { fetch with reads := fetch.reads ++ [⟨haSub, stats⟩] }
  | .error error => .error error.stop fetch

/-- One round of the loop `while first_itr`, where `pyEq` is Python's `==`. -/
def settleBody (haSub : AnalyserPeer) (loop : SettleLoop FloatNum Json) :
    FetchM FloatNum Json
      (SettleLoop FloatNum Json ⊕ SettleLoop FloatNum Json) := do
  if loop.firstItr then
    let stats2 ← getStats json replies haSub
    let msgCnt ← index loop.stats "msg_cnt"
    let msgCnt2 ← index stats2 "msg_cnt"
    if pyEq msgCnt msgCnt2 then
      let noDelayNeededCount := loop.noDelayNeededCount + 1
      pure (.inl ⟨if noDelayNeededCount > 40 then false else loop.firstItr,
        noDelayNeededCount, loop.stats⟩)
    else
      pure (.inr ⟨loop.firstItr, 0, stats2⟩)
  else
    pure (.inl loop)

/-- The loop of `fetch_app_stats` over the tasks. -/
def fetchTasks (fuel : Nat) (name : String) :
    List String → Bool → Nat → FetchM FloatNum Json Unit
  | [], _, _ => pure ()
  | taskId :: taskList, firstItr, noDelayNeededCount => do
      let info ← index (← onRegistry (getAppIpportMap name)) taskId
      let haSub : AnalyserPeer := ⟨info.2, info.1, taskId⟩
      let stats ← getStats json replies haSub
      let loop ← repeatUntil .unfinished (settleBody json pyEq replies haSub)
        fuel ⟨firstItr, noDelayNeededCount, stats⟩
      storeStats name (endpoint info)
        (loop.stats.insert "task_id" (.field (.str taskId)))
      fetchTasks fuel name taskList loop.firstItr loop.noDelayNeededCount

/-- `fetch_app_stats`. -/
def fetchAppStats (fuel : Nat) (name groupName : String) :
    FetchM FloatNum Json Unit := do
  let hydra ← onRegistry getHydra
  assertThat (name ∈ hydra.apps)
  let taskList ← onRegistry (scannedTasks hydra name groupName)
  clearStats name
  fetchTasks json pyEq replies fuel name taskList true 0

end Fetch

/-! ## Reads of one task -/

/-- What a fetch did for one task: the address it found, the statistics it read
in turn, and those it stored. -/
structure TaskFetch (FloatNum Json : Type) where
  taskId : String
  info : Int × String
  reads : List (InstanceStats FloatNum Json)
  recorded : InstanceStats FloatNum Json

namespace TaskFetch

variable (fetch : TaskFetch FloatNum Json)

def haSub : AnalyserPeer :=
  ⟨fetch.info.2, fetch.info.1, fetch.taskId⟩

def statsReads : List (StatsRead FloatNum Json) :=
  fetch.reads.map fun stats => ⟨fetch.haSub, stats⟩

/-- The entry of `apps[name]['stats']`. -/
def record : InstanceStats FloatNum Json :=
  fetch.recorded.insert "task_id" (.field (.str fetch.taskId))

end TaskFetch

section Reads

variable (pyEq : StatValue FloatNum Json → StatValue FloatNum Json → Bool)

/-- Two reads have the same `msg_cnt`. -/
def sameMsgCnt (first second : InstanceStats FloatNum Json) : Bool :=
  match first.lookup "msg_cnt", second.lookup "msg_cnt" with
  | some msgCnt, some msgCnt2 => pyEq msgCnt msgCnt2
  | _, _ => false

/-- For each two reads in a row, whether they are stable. -/
def stablePairs : List (InstanceStats FloatNum Json) → List Bool
  | first :: second :: reads =>
      sameMsgCnt pyEq first second :: stablePairs (second :: reads)
  | _ => []

/-- The recorded statistics were read again, with the same `msg_cnt`, and the
instance was not read any more. -/
def TaskFetch.Checked (fetch : TaskFetch FloatNum Json) : Prop :=
  ∃ earlier again, fetch.reads = earlier ++ [fetch.recorded, again] ∧
    sameMsgCnt pyEq fetch.recorded again = true

/-- The instance was read once. -/
def TaskFetch.Unchecked (fetch : TaskFetch FloatNum Json) : Prop :=
  fetch.reads = [fetch.recorded]

theorem stablePairs_append (earlier : List (InstanceStats FloatNum Json))
    (first second : InstanceStats FloatNum Json) :
    stablePairs pyEq (earlier ++ [first, second]) =
      stablePairs pyEq (earlier ++ [first]) ++
        [sameMsgCnt pyEq first second] := by
  induction earlier with
  | nil => rfl
  | cons read earlier ih =>
      cases earlier with
      | nil => rfl
      | cons next earlier =>
          simp only [List.cons_append, stablePairs] at ih ⊢
          rw [ih]

end Reads

section Spec

variable {json : JsonLib Json}
  {pyEq : StatValue FloatNum Json → StatValue FloatNum Json → Bool}
  {replies : StatsReplies FloatNum Json}
  {before after : FetchWorld FloatNum Json}

/-- The reads are the decoded replies, one after the other. -/
def Answered (json : JsonLib Json) (replies : StatsReplies FloatNum Json) :
    List (StatsRead FloatNum Json) → List (StatsRead FloatNum Json) → Prop
  | _, [] => True
  | earlier, read :: reads =>
      loadsStats json (replies earlier read.haSub) = .ok read.stats ∧
        Answered json replies (earlier ++ [read]) reads

theorem Answered.append
    {earlier first second : List (StatsRead FloatNum Json)}
    (answered : Answered json replies earlier first)
    (answeredLater : Answered json replies (earlier ++ first) second) :
    Answered json replies earlier (first ++ second) := by
  induction first generalizing earlier with
  | nil => simpa using answeredLater
  | cons read first ih =>
      refine ⟨answered.1, ih answered.2 ?_⟩
      simpa using answeredLater

/-- From one state to another only these reads were made. -/
structure Reads (json : JsonLib Json) (replies : StatsReplies FloatNum Json)
    (before : FetchWorld FloatNum Json) (reads : List (StatsRead FloatNum Json))
    (after : FetchWorld FloatNum Json) : Prop where
  answered : Answered json replies before.reads reads
  state : after = { before with reads := before.reads ++ reads }

theorem Reads.append {middle : FetchWorld FloatNum Json}
    {first second : List (StatsRead FloatNum Json)}
    (reads : Reads json replies before first middle)
    (readsLater : Reads json replies middle second after) :
    Reads json replies before (first ++ second) after where
  answered := by
    apply reads.answered.append
    have answered := readsLater.answered
    rw [reads.state] at answered
    exact answered
  state := by
    rw [readsLater.state, reads.state, List.append_assoc]

theorem getStats_reads {haSub : AnalyserPeer}
    {stats : InstanceStats FloatNum Json}
    (returned : getStats json replies haSub before = .ok stats after) :
    Reads json replies before [⟨haSub, stats⟩] after := by
  unfold getStats at returned
  cases loaded : loadsStats json (replies before.reads haSub) with
  | error error =>
      rw [loaded] at returned
      cases returned
  | ok stats' =>
      rw [loaded] at returned
      cases returned
      exact ⟨⟨loaded, trivial⟩, rfl⟩

/-! ## The loop that waits for a stable count -/

/-- What a round does that waits: it reads once more, and breaks if the pair is
stable. -/
theorem settleBody_waiting {haSub : AnalyserPeer}
    {loop : SettleLoop FloatNum Json}
    {next : SettleLoop FloatNum Json ⊕ SettleLoop FloatNum Json}
    (waiting : loop.firstItr = true)
    (returned : settleBody json pyEq replies haSub loop before =
      .ok next after) :
    ∃ again, Reads json replies before [⟨haSub, again⟩] after ∧
      next = if sameMsgCnt pyEq loop.stats again then
          .inl ⟨decide (loop.noDelayNeededCount + 1 ≤ 40),
            loop.noDelayNeededCount + 1, loop.stats⟩
        else .inr ⟨true, 0, again⟩ := by
  rw [settleBody, if_pos waiting] at returned
  obtain ⟨again, middle, read, compared⟩ := bind_ok_iff.mp returned
  refine ⟨again, ?_⟩
  rw [index_bind] at compared
  cases found : loop.stats.lookup "msg_cnt" with
  | none =>
      rw [found] at compared
      cases compared
  | some msgCnt =>
      rw [found] at compared
      simp only [index_bind] at compared
      cases foundAgain : again.lookup "msg_cnt" with
      | none =>
          rw [foundAgain] at compared
          cases compared
      | some msgCnt2 =>
          simp only [foundAgain, waiting] at compared
          simp only [sameMsgCnt, found, foundAgain]
          split at compared
          · next stable =>
              have latched : (if loop.noDelayNeededCount + 1 > 40 then false
                  else true) = decide (loop.noDelayNeededCount + 1 ≤ 40) := by
                split <;> simp <;> omega
              cases compared
              exact ⟨getStats_reads read, by rw [if_pos stable, latched]⟩
          · next unstable =>
              cases compared
              exact ⟨getStats_reads read, by rw [if_neg unstable]⟩

/-- What the loop has done when it starts a round: it read the instance, and
every pair of reads was unstable. -/
structure Waits (json : JsonLib Json)
    (pyEq : StatValue FloatNum Json → StatValue FloatNum Json → Bool)
    (replies : StatsReplies FloatNum Json) (haSub : AnalyserPeer)
    (pairs : List Bool) (firstItr : Bool) (before : FetchWorld FloatNum Json)
    (earlier : List (InstanceStats FloatNum Json))
    (loop : SettleLoop FloatNum Json) (state : FetchWorld FloatNum Json) :
    Prop where
  flag : loop.firstItr = firstItr
  once : firstItr = false → earlier = []
  follows : Follows 40 (pairs ++ stablePairs pyEq (earlier ++ [loop.stats]))
    loop.firstItr loop.noDelayNeededCount
  reads : Reads json replies before
    ((earlier ++ [loop.stats]).map fun stats => ⟨haSub, stats⟩) state

/-- What the loop has done when it ends: it read the instance until a pair of
reads was stable, or only once if it did not wait. -/
def SettleEnds (json : JsonLib Json)
    (pyEq : StatValue FloatNum Json → StatValue FloatNum Json → Bool)
    (replies : StatsReplies FloatNum Json) (haSub : AnalyserPeer)
    (pairs : List Bool) (firstItr : Bool) (before : FetchWorld FloatNum Json)
    (result : SettleLoop FloatNum Json) (after : FetchWorld FloatNum Json) :
    Prop :=
  ∃ reads,
    Reads json replies before (reads.map fun stats => ⟨haSub, stats⟩) after ∧
    Follows 40 (pairs ++ stablePairs pyEq reads) result.firstItr
      result.noDelayNeededCount ∧
    if firstItr then
      ∃ earlier again, reads = earlier ++ [result.stats, again] ∧
        sameMsgCnt pyEq result.stats again = true
    else reads = [result.stats]

section Waits

variable {haSub : AnalyserPeer} {pairs : List Bool} {firstItr : Bool}
  {start state : FetchWorld FloatNum Json}
  {earlier : List (InstanceStats FloatNum Json)}
  {loop : SettleLoop FloatNum Json}

theorem settleBody_done (done : loop.firstItr = false)
    (state : FetchWorld FloatNum Json) :
    settleBody json pyEq replies haSub loop state = .ok (.inl loop) state := by
  rw [settleBody, if_neg (by simp [done])]
  rfl

/-- The pairs seen so far, after one more read. -/
theorem pairs_again (pairs : List Bool)
    (earlier : List (InstanceStats FloatNum Json))
    (first second : InstanceStats FloatNum Json) :
    pairs ++ stablePairs pyEq (earlier ++ [first, second]) =
      (pairs ++ stablePairs pyEq (earlier ++ [first])) ++
        [sameMsgCnt pyEq first second] := by
  rw [stablePairs_append, List.append_assoc]

theorem Reads.again {stats again : InstanceStats FloatNum Json}
    (reads : Reads json replies start
      ((earlier ++ [stats]).map fun stats => ⟨haSub, stats⟩) state)
    (read : Reads json replies state [⟨haSub, again⟩] after) :
    Reads json replies start
      ((earlier ++ [stats, again]).map fun stats => ⟨haSub, stats⟩) after := by
  simpa using reads.append read

/-- An unstable pair leaves the loop waiting, with a count of zero. -/
theorem Waits.again {later : SettleLoop FloatNum Json}
    (waits : Waits json pyEq replies haSub pairs firstItr start earlier loop
      state)
    (round : settleBody json pyEq replies haSub loop state =
      .ok (.inr later) after) :
    Waits json pyEq replies haSub pairs firstItr start (earlier ++ [loop.stats])
      later after := by
  cases waiting : loop.firstItr with
  | false =>
      rw [settleBody_done waiting] at round
      cases round
  | true =>
      have flag : firstItr = true := by
        rw [← waits.flag, waiting]
      obtain ⟨again, read, next⟩ := settleBody_waiting waiting round
      split at next
      · cases next
      · next unstable =>
          cases next
          rw [Bool.not_eq_true] at unstable
          constructor
          · exact flag.symm
          · simp [flag]
          · rw [List.append_assoc]
            change Follows 40
              (pairs ++ stablePairs pyEq (earlier ++ [loop.stats, again])) true 0
            rw [pairs_again, unstable]
            exact Follows.failure 40 _
          · rw [List.append_assoc]
            exact waits.reads.again read

/-- The loop ends with a stable pair, or at once if it does not wait. -/
theorem Waits.broke {result : SettleLoop FloatNum Json}
    (waits : Waits json pyEq replies haSub pairs firstItr start earlier loop
      state)
    (round : settleBody json pyEq replies haSub loop state =
      .ok (.inl result) after) :
    SettleEnds json pyEq replies haSub pairs firstItr start result after := by
  cases waiting : loop.firstItr with
  | false =>
      rw [settleBody_done waiting] at round
      cases round
      have flag : firstItr = false := by
        rw [← waits.flag, waiting]
      refine ⟨earlier ++ [loop.stats], waits.reads, waits.follows, ?_⟩
      rw [if_neg (by simp [flag]), waits.once flag]
      rfl
  | true =>
      have flag : firstItr = true := by
        rw [← waits.flag, waiting]
      have follows := waits.follows
      rw [waiting] at follows
      obtain ⟨again, read, next⟩ := settleBody_waiting waiting round
      split at next
      · next stable =>
          cases next
          refine ⟨earlier ++ [loop.stats, again], waits.reads.again read, ?_, ?_⟩
          · rw [pairs_again, stable]
            exact follows.success
          · rw [if_pos flag]
            exact ⟨earlier, again, rfl, stable⟩
      · cases next

/-- The loop reads until a pair is stable, or not at all if it gave up the
check before. -/
theorem settle_returned {noDelayNeededCount fuel : Nat}
    {stats : InstanceStats FloatNum Json} {middle : FetchWorld FloatNum Json}
    {result : SettleLoop FloatNum Json}
    (follows : Follows 40 pairs firstItr noDelayNeededCount)
    (read : Reads json replies start [⟨haSub, stats⟩] middle)
    (returned : repeatUntil .unfinished (settleBody json pyEq replies haSub)
      fuel ⟨firstItr, noDelayNeededCount, stats⟩ middle = .ok result after) :
    SettleEnds json pyEq replies haSub pairs firstItr start result after := by
  let Good := fun loop state => ∃ earlier,
    Waits json pyEq replies haSub pairs firstItr start earlier loop state
  have preserved : ∀ loop later state after, Good loop state →
      settleBody json pyEq replies haSub loop state = .ok (.inr later) after →
      Good later after := by
    rintro loop later state after ⟨earlier, waits⟩ round
    exact ⟨earlier ++ [loop.stats], waits.again round⟩
  have starts : Good ⟨firstItr, noDelayNeededCount, stats⟩ middle :=
    ⟨[], { flag := rfl
           once := fun _ => rfl
           follows := by simpa [stablePairs] using follows
           reads := read }⟩
  obtain ⟨last, state, ⟨earlier, waits⟩, round⟩ :=
    repeatUntil_returned preserved starts returned
  exact waits.broke round

end Waits

/-! ## The loop over the tasks -/

/-- The `ip_port_map` of an application, empty before its first refresh. -/
def ipPortMapAt (hydra : HydraBase) (name : String) : Dict (Int × String) :=
  match hydra.apps.lookup name with
  | some (.refreshed info) => info.ipPortMap
  | _ => ∅

theorem getAppIpportMap_ok {name : String} {ipPortMap : Dict (Int × String)}
    (returned : onRegistry (getAppIpportMap name) before =
      .ok ipPortMap after) :
    ipPortMap = ipPortMapAt before.world.hydra name ∧ after = before := by
  obtain ⟨world, onWorld, rfl⟩ := onPart_ok_iff.mp returned
  simp only [getAppIpportMap, getHydra_bind, index_bind] at onWorld
  unfold ipPortMapAt
  cases found : before.world.hydra.apps.lookup name with
  | none =>
      rw [found] at onWorld
      cases onWorld
  | some record =>
      rw [found] at onWorld
      cases record with
      | launched app type => cases onWorld
      | refreshed info =>
          cases onWorld
          exact ⟨rfl, rfl⟩

theorem storeStats_ok {name : String}
    {ofApp : Dict (InstanceStats FloatNum Json)}
    (stored : before.stats.lookup name = some ofApp) (key : String)
    (stats : InstanceStats FloatNum Json) :
    storeStats name key stats before =
      .ok () { before with
        stats := before.stats.insert name (ofApp.insert key stats) } := by
  rw [storeStats, bind_of_ok (get_ok before), index_bind, stored]
  rfl

/-- What the fetch of one task does between two states: `pairs` are the pairs
of reads of the earlier tasks, and `ofApp` holds their records. -/
structure FetchesTask (json : JsonLib Json)
    (pyEq : StatValue FloatNum Json → StatValue FloatNum Json → Bool)
    (replies : StatsReplies FloatNum Json) (name : String) (pairs : List Bool)
    (firstItr : Bool) (ofApp : Dict (InstanceStats FloatNum Json))
    (before : FetchWorld FloatNum Json) (fetch : TaskFetch FloatNum Json)
    (loop : SettleLoop FloatNum Json) (after : FetchWorld FloatNum Json) :
    Prop where
  mapped : (ipPortMapAt before.world.hydra name).lookup fetch.taskId =
    some fetch.info
  answered : Answered json replies before.reads fetch.statsReads
  state : after = ⟨before.world,
    before.stats.insert name (ofApp.insert (endpoint fetch.info) fetch.record),
    before.reads ++ fetch.statsReads⟩
  follows : Follows 40 (pairs ++ stablePairs pyEq fetch.reads) loop.firstItr
    loop.noDelayNeededCount
  check : if firstItr then fetch.Checked pyEq else fetch.Unchecked

theorem fetchTask_returned {name taskId : String} {taskList : List String}
    {pairs : List Bool} {firstItr : Bool} {noDelayNeededCount fuel : Nat}
    {ofApp : Dict (InstanceStats FloatNum Json)}
    (follows : Follows 40 pairs firstItr noDelayNeededCount)
    (stored : before.stats.lookup name = some ofApp)
    (returned : fetchTasks json pyEq replies fuel name (taskId :: taskList)
      firstItr noDelayNeededCount before = .ok () after) :
    ∃ fetch loop middle, fetch.taskId = taskId ∧
      FetchesTask json pyEq replies name pairs firstItr ofApp before fetch loop
        middle ∧
      fetchTasks json pyEq replies fuel name taskList loop.firstItr
        loop.noDelayNeededCount middle = .ok () after := by
  rw [fetchTasks] at returned
  obtain ⟨ipPortMap, same, mapRead, returned⟩ := bind_ok_iff.mp returned
  obtain ⟨mapEq, sameEq⟩ := getAppIpportMap_ok mapRead
  rw [mapEq, sameEq, index_bind] at returned
  cases found : (ipPortMapAt before.world.hydra name).lookup taskId with
  | none =>
      rw [found] at returned
      cases returned
  | some info =>
      simp only [found] at returned
      obtain ⟨stats, first, read, returned⟩ := bind_ok_iff.mp returned
      obtain ⟨loop, settled, waited, returned⟩ := bind_ok_iff.mp returned
      obtain ⟨reads, fromHere, followsLater, check⟩ :=
        settle_returned follows (getStats_reads read) waited
      have stillStored : settled.stats.lookup name = some ofApp := by
        rw [fromHere.state]
        exact stored
      rw [bind_of_ok (storeStats_ok stillStored _ _)] at returned
      refine ⟨⟨taskId, info, reads, loop.stats⟩, loop, _, rfl,
        ⟨found, fromHere.answered, ?_, followsLater, check⟩, returned⟩
      rw [fromHere.state]
      rfl

/-- The pairs of reads of these tasks. -/
def pairsOf (pyEq : StatValue FloatNum Json → StatValue FloatNum Json → Bool)
    (fetches : List (TaskFetch FloatNum Json)) : List Bool :=
  fetches.flatMap fun fetch => stablePairs pyEq fetch.reads

/-- A task is checked unless the pairs of reads before it end with more than 40
stable ones. -/
def ChecksUntilSettled
    (pyEq : StatValue FloatNum Json → StatValue FloatNum Json → Bool)
    (pairs : List Bool) (fetches : List (TaskFetch FloatNum Json)) : Prop :=
  ∀ earlier fetch later, fetches = earlier ++ fetch :: later →
    if List.replicate 41 true <:+ pairs ++ pairsOf pyEq earlier then
      fetch.Unchecked
    else fetch.Checked pyEq

theorem ChecksUntilSettled.cons {pairs : List Bool}
    {fetch : TaskFetch FloatNum Json} {fetches : List (TaskFetch FloatNum Json)}
    (first : if List.replicate 41 true <:+ pairs then fetch.Unchecked
      else fetch.Checked pyEq)
    (rest : ChecksUntilSettled pyEq (pairs ++ stablePairs pyEq fetch.reads)
      fetches) :
    ChecksUntilSettled pyEq pairs (fetch :: fetches) := by
  rintro earlier other later split
  cases earlier with
  | nil =>
      obtain ⟨rfl, rfl⟩ := List.cons.inj split
      simpa [pairsOf] using first
  | cons head earlier =>
      obtain ⟨rfl, others⟩ := List.cons.inj split
      have checked := rest earlier other later others
      rw [List.append_assoc] at checked
      exact checked

/-- What the loop over the tasks does between two states. -/
structure FetchesTasks (json : JsonLib Json)
    (pyEq : StatValue FloatNum Json → StatValue FloatNum Json → Bool)
    (replies : StatsReplies FloatNum Json) (name : String) (pairs : List Bool)
    (ofApp : Dict (InstanceStats FloatNum Json))
    (before : FetchWorld FloatNum Json) (taskList : List String)
    (fetches : List (TaskFetch FloatNum Json))
    (after : FetchWorld FloatNum Json) : Prop where
  tasks : fetches.map TaskFetch.taskId = taskList
  mapped : ∀ fetch ∈ fetches,
    (ipPortMapAt before.world.hydra name).lookup fetch.taskId = some fetch.info
  world : after.world = before.world
  reads : after.reads = before.reads ++ fetches.flatMap TaskFetch.statsReads
  answered : Answered json replies before.reads
    (fetches.flatMap TaskFetch.statsReads)
  stored : after.stats.lookup name = some (EntryLists.fill
    (fun fetch => endpoint fetch.info) TaskFetch.record fetches ofApp)
  others : EntryLists.AgreeExcept name after.stats before.stats
  checks : ChecksUntilSettled pyEq pairs fetches

theorem fetchTasks_returned {name : String} {taskList : List String}
    {pairs : List Bool} {firstItr : Bool} {noDelayNeededCount fuel : Nat}
    {ofApp : Dict (InstanceStats FloatNum Json)}
    (follows : Follows 40 pairs firstItr noDelayNeededCount)
    (stored : before.stats.lookup name = some ofApp)
    (returned : fetchTasks json pyEq replies fuel name taskList
      firstItr noDelayNeededCount before = .ok () after) :
    ∃ fetches, FetchesTasks json pyEq replies name pairs ofApp before taskList
      fetches after := by
  induction taskList generalizing before pairs firstItr noDelayNeededCount
    ofApp with
  | nil =>
      cases returned
      refine ⟨[], rfl, by simp, rfl, by simp, trivial, stored,
        EntryLists.AgreeExcept.refl name _, ?_⟩
      intro earlier fetch later split
      simp at split
  | cons taskId taskList ih =>
      obtain ⟨fetch, loop, middle, rfl, fetched, rest⟩ :=
        fetchTask_returned follows stored returned
      have middleEq := fetched.state
      subst middleEq
      obtain ⟨fetches, later⟩ := ih fetched.follows (AList.lookup_insert _) rest
      refine ⟨fetch :: fetches, ?_⟩
      constructor
      · rw [List.map_cons, later.tasks]
      · exact List.forall_mem_cons.mpr ⟨fetched.mapped, later.mapped⟩
      · exact later.world
      · rw [later.reads, List.flatMap_cons, List.append_assoc]
      · rw [List.flatMap_cons]
        exact fetched.answered.append later.answered
      · exact later.stored
      · intro other different
        rw [later.others other different, AList.lookup_insert_ne different]
      · apply ChecksUntilSettled.cons _ later.checks
        have check := fetched.check
        cases firstItr with
        | false => rwa [if_pos (follows.stopped_iff.mp rfl)]
        | true =>
            rwa [if_neg (mt follows.stopped_iff.mpr (Bool.noConfusion ·))]

/-! ## The whole fetch -/

/-- Distinct addresses have distinct keys. -/
theorem endpoint_inj {first second : Int × String}
    (same : endpoint first = endpoint second) : first = second := by
  have texts := congrArg String.toList same
  simp only [endpoint, String.toList_append, List.append_assoc] at texts
  obtain ⟨ips, ports⟩ := LastSeparator.join_inj
    (notMem_port (by decide) (by decide) first.1)
    (notMem_port (by decide) (by decide) second.1) texts
  exact Prod.ext (port_inj (String.toList_inj.mp ports))
    (String.toList_inj.mp ips)

theorem scannedTasks_ok {hydra : HydraBase} {name groupName : String}
    {scanned taskList : List String} {world later : World}
    (isScanned : IsScanned hydra name groupName scanned)
    (returned : scannedTasks hydra name groupName world = .ok taskList later) :
    taskList = scanned ∧ later = world := by
  cases listed : hydra.allTaskIds.lookup name with
  | none =>
      rw [scannedTasks, index_bind, listed] at returned
      cases returned
  | some ids =>
      rw [scannedTasks_of_isScanned listed isScanned world] at returned
      cases returned
      exact ⟨rfl, rfl⟩

/-- A completed fetch: every task has one record, with its own id, under its
endpoint, and was checked unless more than 40 stable pairs in a row came before
it. -/
structure StatsFetched (json : JsonLib Json)
    (pyEq : StatValue FloatNum Json → StatValue FloatNum Json → Bool)
    (replies : StatsReplies FloatNum Json) (name : String)
    (before : FetchWorld FloatNum Json) (taskList : List String)
    (fetches : List (TaskFetch FloatNum Json))
    (after : FetchWorld FloatNum Json) : Prop where
  tasks : fetches.map TaskFetch.taskId = taskList
  mapped : ∀ fetch ∈ fetches,
    (ipPortMapAt before.world.hydra name).lookup fetch.taskId = some fetch.info
  world : after.world = before.world
  reads : after.reads = before.reads ++ fetches.flatMap TaskFetch.statsReads
  answered : Answered json replies before.reads
    (fetches.flatMap TaskFetch.statsReads)
  stored : ∃ ofApp, after.stats.lookup name = some ofApp ∧
    ofApp.keys.Perm (fetches.map fun fetch => endpoint fetch.info) ∧
    ∀ fetch ∈ fetches, ofApp.lookup (endpoint fetch.info) = some fetch.record
  ids : ∀ fetch ∈ fetches,
    fetch.record.lookup "task_id" = some (.field (.str fetch.taskId))
  others : EntryLists.AgreeExcept name after.stats before.stats
  checks : ChecksUntilSettled pyEq [] fetches

theorem FetchesTasks.infos {name : String} {pairs : List Bool}
    {ofApp : Dict (InstanceStats FloatNum Json)} {taskList : List String}
    {fetches : List (TaskFetch FloatNum Json)}
    (fetched : FetchesTasks json pyEq replies name pairs ofApp before taskList
      fetches after) :
    taskList.filterMap (fun taskId =>
        (ipPortMapAt before.world.hydra name).lookup taskId) =
      fetches.map TaskFetch.info := by
  rw [← fetched.tasks, List.filterMap_map, ← List.filterMap_eq_map]
  apply List.filterMap_congr
  intro fetch member
  exact fetched.mapped fetch member

/-- A fetch that returns has stored exactly one record for each task it went
through, and checked the tasks as it should. -/
theorem fetchAppStats_statsFetched {fuel : Nat} {name groupName : String}
    {taskList : List String}
    (isScanned : IsScanned before.world.hydra name groupName taskList)
    (distinct : (taskList.filterMap fun taskId =>
      (ipPortMapAt before.world.hydra name).lookup taskId).Nodup)
    (returned : fetchAppStats json pyEq replies fuel name groupName before =
      .ok () after) :
    ∃ fetches, StatsFetched json pyEq replies name before taskList fetches
      after := by
  rw [fetchAppStats] at returned
  obtain ⟨hydra, same, registry, returned⟩ := bind_ok_iff.mp returned
  obtain ⟨world, onWorld, sameEq⟩ := onPart_ok_iff.mp registry
  cases onWorld
  rw [sameEq, assertThat_bind] at returned
  split at returned
  · obtain ⟨scanned, later, scan, returned⟩ := bind_ok_iff.mp returned
    obtain ⟨world, onWorld, laterEq⟩ := onPart_ok_iff.mp scan
    obtain ⟨rfl, rfl⟩ := scannedTasks_ok isScanned onWorld
    rw [laterEq, clearStats, bind_of_ok (modify_ok _ _)] at returned
    obtain ⟨fetches, fetched⟩ := fetchTasks_returned (follows_start 40)
      (AList.lookup_insert _) returned
    have endpoints : (fetches.map fun fetch => endpoint fetch.info).Nodup := by
      have infos := fetched.infos
      change scanned.filterMap _ = _ at infos
      rw [infos] at distinct
      have mapped := distinct.map fun _ _ => endpoint_inj
      rwa [List.map_map] at mapped
    refine ⟨fetches, ?_⟩
    constructor
    · exact fetched.tasks
    · exact fetched.mapped
    · exact fetched.world
    · exact fetched.reads
    · exact fetched.answered
    · refine ⟨_, fetched.stored, ?_, ?_⟩
      · rw [EntryLists.keys_fill endpoints]
        exact List.reverse_perm _
      · intro fetch member
        rw [EntryLists.lookup_fill_eq_some_iff endpoints]
        exact ⟨fetch, member, rfl, rfl⟩
    · exact fun fetch _ => AList.lookup_insert _
    · intro other different
      rw [fetched.others other different, AList.lookup_insert_ne different]
    · exact fetched.checks
  · cases returned

end Spec

/-! ## Two subscribers -/

/-- A subscriber on one host, and one on another, with what an earlier fetch
stored. -/
def subscriberPair : FetchWorld ℚ Bool where
  world :=
    { hydra :=
        { testName := "zmqScale"
          myaddr := "http://10.0.0.9:9800"
          apps := AList.singleton "/zst-sub" (.refreshed
            { ipPortMap :=
                (AList.singleton "zst-sub.1_PORT31000" (31000, "10.0.0.1")).insert
                  "zst-sub.2_PORT31000" (31000, "10.0.0.2") })
          allTaskIds := AList.singleton "/zst-sub"
            ["zst-sub.1_PORT31000", "zst-sub.2_PORT31000"] }
      history := [] }
  stats := AList.singleton "/zst-sub" (AList.singleton "10.0.0.7:31000" ∅)
  reads := []

/-- The first subscriber has received everything only when it is read again. -/
def countedReplies : StatsReplies ℚ Bool := fun earlier _ =>
  .ok (.reply "ok" (.dict (AList.singleton "msg_cnt"
    (.int (if earlier.length = 0 then 4000 else 5000)))))

def subscriberFetch : EStateM.Result Stop (FetchWorld ℚ Bool) Unit :=
  fetchAppStats boolJson (fun first second => first = second) countedReplies 3
    "/zst-sub" "" subscriberPair

theorem subscriberFetch_statsFetched :
    IsScanned subscriberPair.world.hydra "/zst-sub" ""
        ["zst-sub.1_PORT31000", "zst-sub.2_PORT31000"] ∧
      subscriberFetch = .ok () (stateAfter subscriberFetch) ∧
      ∃ fetches, StatsFetched boolJson (fun first second => first = second)
        countedReplies "/zst-sub" subscriberPair
        ["zst-sub.1_PORT31000", "zst-sub.2_PORT31000"] fetches
        (stateAfter subscriberFetch) := by
  have isScanned : IsScanned subscriberPair.world.hydra "/zst-sub" ""
      ["zst-sub.1_PORT31000", "zst-sub.2_PORT31000"] := rfl
  have returned : subscriberFetch =
      .ok () (stateAfter subscriberFetch) := eq_ok_of_returns (by decide)
  exact ⟨isScanned, returned,
    fetchAppStats_statsFetched isScanned (by decide) returned⟩

end HydraBase

end MScale
