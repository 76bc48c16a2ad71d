import MScale.RunTestZMQ
import MScale.HydraCleanup
import MScale.LabelledRuns

/-!
# The configuration of the subscribers at the start signal

When `rerun_test` signals the publisher, as many subscribers as the options
ask for should be slow, and as many should reconnect, at the rates of the
options.  The configuration of an instance is the last one that was sent to
it.  Calls may also raise, and leave behind what they did until then.  This file
determines, from the choices remembered so far, the draws and the options,
exactly when a rerun gets this right, provided that no call before it was
interrupted between choosing clients and configuring the instances.
-/

namespace MScale

section Counting

variable {Instance Value : Type*} [DecidableEq Instance] [DecidableEq Value]
  [Zero Value] {instances chosen : Finset Instance} {value : Instance → Value}

theorem nonzero_subset_chosen
    (zeroElsewhere : ∀ key ∈ instances, key ∉ chosen → value key = 0) :
    instances.filter (value · ≠ 0) ⊆ chosen := by
  intro key member
  obtain ⟨isInstance, nonzero⟩ := Finset.mem_filter.mp member
  by_contra notChosen
  exact nonzero (zeroElsewhere key isInstance notChosen)

/-- At most `num` instances are chosen.  Exactly `num` instances have a value,
and it is `rate`, if and only if `num` instances are chosen and all of them
have the value `rate`. -/
theorem nonzero_card_iff {num : Nat} {rate : Value}
    (within : chosen ⊆ instances)
    (zeroElsewhere : ∀ key ∈ instances, key ∉ chosen → value key = 0)
    (few : chosen.card ≤ num) (rateNonzero : rate ≠ 0) :
    ((instances.filter (value · ≠ 0)).card = num ∧
      ∀ key ∈ instances, value key ≠ 0 → value key = rate) ↔
    chosen.card = num ∧ ∀ key ∈ chosen, value key = rate := by
  have subset := nonzero_subset_chosen zeroElsewhere
  constructor
  · rintro ⟨count, atRate⟩
    have cardLe := Finset.card_le_card subset
    have cardEq : chosen.card = num := by omega
    have same : instances.filter (value · ≠ 0) = chosen :=
      Finset.eq_of_subset_of_card_le subset (by omega)
    refine ⟨cardEq, ?_⟩
    intro key member
    rw [← same] at member
    obtain ⟨isInstance, nonzero⟩ := Finset.mem_filter.mp member
    exact atRate key isInstance nonzero
  · rintro ⟨cardEq, atRate⟩
    have same : instances.filter (value · ≠ 0) = chosen := by
      apply Finset.Subset.antisymm subset
      intro key member
      refine Finset.mem_filter.mpr ⟨within member, ?_⟩
      rw [atRate key member]
      exact rateNonzero
    refine ⟨by rw [same, cardEq], ?_⟩
    intro key isInstance nonzero
    refine atRate key (subset ?_)
    exact Finset.mem_filter.mpr ⟨isInstance, nonzero⟩

/-- No instance has a value if and only if no chosen instance has one. -/
theorem nonzero_card_zero_iff {rate : Value} (within : chosen ⊆ instances)
    (zeroElsewhere : ∀ key ∈ instances, key ∉ chosen → value key = 0) :
    ((instances.filter (value · ≠ 0)).card = 0 ∧
      ∀ key ∈ instances, value key ≠ 0 → value key = rate) ↔
    ∀ key ∈ chosen, value key = 0 := by
  constructor
  · rintro ⟨none, _⟩ key member
    by_contra nonzero
    have counted : key ∈ instances.filter (value · ≠ 0) :=
      Finset.mem_filter.mpr ⟨within member, nonzero⟩
    rw [Finset.card_eq_zero.mp none] at counted
    exact absurd counted (Finset.notMem_empty key)
  · intro zero
    have allZero : ∀ key ∈ instances, value key = 0 := by
      intro key isInstance
      by_cases member : key ∈ chosen
      · exact zero key member
      · exact zeroElsewhere key isInstance member
    refine ⟨?_, fun key isInstance nonzero =>
      absurd (allZero key isInstance) nonzero⟩
    rw [Finset.card_eq_zero]
    exact Finset.filter_eq_empty_iff.mpr fun key isInstance =>
      not_not.mpr (allZero key isInstance)

end Counting

namespace RunTestZMQ

open StateErrors HydraBase LabelledRuns

/-- What an instance stores for a rate that is sent to it: the message and the
handler may round it, but zero stays zero. -/
structure StoredRates where
  recv : ℚ → ℚ
  reconnect : ℚ → ℚ
  recv_zero : recv 0 = 0
  reconnect_zero : reconnect 0 = 0

/-- `recv_rate` and `reconnect_rate` of an instance after an exchange. -/
def configAfter (stored : StoredRates) (taskId : String) (config : ℚ × ℚ)
    (exchange : Exchange) : ℚ × ℚ :=
  match exchange.request with
  | .updateSubConfig _ _ key recvRate reconnectRate =>
      if key = taskId then
        (stored.recv recvRate, stored.reconnect reconnectRate)
      else config
  | _ => config

/-- The most recent configuration of an instance. -/
def subConfig (stored : StoredRates) (history : History) (taskId : String) :
    ℚ × ℚ :=
  history.foldl (configAfter stored taskId) (0, 0)

/-- One call of `rerun_test`, with the random numbers it uses where it chooses
instances. -/
structure Rerun where
  options : Options
  slowDraws : Nat → Nat
  recDraws : Nat → Nat

/-- The options a test may set. -/
structure Options.Valid (options : Options) : Prop where
  slowPercent : 0 ≤ options.slowClientsPercent ∧
    options.slowClientsPercent < 100
  recPercent : 0 ≤ options.recClientsPercent ∧ options.recClientsPercent < 100
  slowRate : options.slowClientsRate ≠ 0
  recRate : options.recClientsRate ≠ 0

section Configured

variable (round : ℚ → ℚ) (backend : Backend) (zstsub : String)

/-- One call, whether it returns or raises. -/
def Calls (before : World) (rerun : Rerun) (after : World) : Prop :=
  rerun.options.Valid ∧
    stateAfter (rerunTest round backend zstsub rerun.options rerun.slowDraws
      rerun.recDraws before) = after

/-- A call that starts in the first state signals the publisher in the second
one. -/
def Signals (before : World) (rerun : Rerun) (signal : World) : Prop :=
  configureTest round backend zstsub rerun.options rerun.slowDraws
    rerun.recDraws before = .ok () signal

def instances (info : AppInfo) : Finset String :=
  info.ipPortMap.keys.toFinset

/-- As many instances as asked for have a value, and it is the given rate. -/
def RatesSet (info : AppInfo) (percent rate : ℚ) (value : String → ℚ) : Prop :=
  ((instances info).filter (value · ≠ 0)).card =
      clientNum round info.ipPortMap.keys.length percent ∧
    ∀ key ∈ instances info, value key ≠ 0 → value key = rate

/-- The subscribers are configured as the options say. -/
def Configured (stored : StoredRates) (options : Options) (world : World) :
    Prop :=
  ∃ info, world.hydra.apps.lookup zstsub = some (.refreshed info) ∧
    RatesSet round info options.slowClientsPercent options.slowClientsRate
      (fun key => (subConfig stored world.history key).1) ∧
    RatesSet round info options.recClientsPercent options.recClientsRate
      (fun key => (subConfig stored world.history key).2)

/-- The instances remembered under a property. -/
def remembered (info : AppInfo) (pname : String) : Finset String :=
  (info.property.lookup pname).getD ∅

/-- Instances are chosen anew when some are wanted and their number changed. -/
def Redraws (clients : Finset String) (num : Nat) : Prop :=
  num ≠ 0 ∧ (clients = ∅ ∨ num ≠ clients.card)

instance (clients : Finset String) (num : Nat) :
    Decidable (Redraws clients num) :=
  inferInstanceAs (Decidable (_ ∧ _))

/-- The condition on one kind of clients.  Where instances are drawn, the draws
are distinct and the rate is stored as it is.  Otherwise the remembered
instances already have, or are now sent, the right rate: none if no client of
the kind is wanted. -/
def KindMeets (info : AppInfo) (pname : String) (percent rate : ℚ)
    (stored : ℚ → ℚ) (config : String → ℚ) (draws : Nat → Nat)
    (updates : Prop) [Decidable updates] : Prop :=
  let num := clientNum round info.ipPortMap.keys.length percent
  if Redraws (remembered info pname) num then
    (drawnInstances info.ipPortMap.keys num draws).Nodup ∧ stored rate = rate
  else
    ∀ key ∈ remembered info pname,
      (if updates then stored rate else config key) =
        if num = 0 then 0 else rate

/-- The slow clients are chosen anew. -/
def RedrawsSlow (info : AppInfo) (options : Options) : Prop :=
  Redraws (remembered info "slow_clients")
    (clientNum round info.ipPortMap.keys.length options.slowClientsPercent)

/-- The reconnecting clients are chosen anew. -/
def RedrawsRec (info : AppInfo) (options : Options) : Prop :=
  Redraws (remembered info "reconnecting_clients")
    (clientNum round info.ipPortMap.keys.length options.recClientsPercent)

/-- Some kind of clients is chosen anew, so all instances are sent a
configuration. -/
def Updates (info : AppInfo) (options : Options) : Prop :=
  RedrawsSlow round info options ∨ RedrawsRec round info options

instance (info : AppInfo) (options : Options) :
    Decidable (RedrawsSlow round info options) :=
  inferInstanceAs (Decidable (Redraws _ _))

instance (info : AppInfo) (options : Options) :
    Decidable (RedrawsRec round info options) :=
  inferInstanceAs (Decidable (Redraws _ _))

instance (info : AppInfo) (options : Options) :
    Decidable (Updates round info options) :=
  inferInstanceAs (Decidable (_ ∨ _))

/-- The condition under which a call configures the subscribers as its options
say. -/
def Meets (stored : StoredRates) (world : World) (rerun : Rerun) : Prop :=
  ∀ info, world.hydra.apps.lookup zstsub = some (.refreshed info) →
    KindMeets round info "slow_clients" rerun.options.slowClientsPercent
      rerun.options.slowClientsRate stored.recv
      (fun key => (subConfig stored world.history key).1) rerun.slowDraws
      (Updates round info rerun.options) ∧
    KindMeets round info "reconnecting_clients" rerun.options.recClientsPercent
      rerun.options.recClientsRate stored.reconnect
      (fun key => (subConfig stored world.history key).2) rerun.recDraws
      (Updates round info rerun.options)

/-- A fact about the application that a lookup found is decidable. -/
instance decidableOfFound (found : Option AppRecord) (Holds : AppInfo → Prop)
    [DecidablePred Holds] :
    Decidable (∀ info, found = some (.refreshed info) → Holds info) :=
  match found with
  | some (.refreshed info) =>
      decidable_of_iff (Holds info)
        ⟨fun holds _ same => by cases same; exact holds, fun all => all info rfl⟩
  | some (.launched _ _) => isTrue fun _ same => by cases same
  | none => isTrue fun _ same => by cases same

instance (info : AppInfo) (pname : String) (percent rate : ℚ) (stored : ℚ → ℚ)
    (config : String → ℚ) (draws : Nat → Nat) (updates : Prop)
    [Decidable updates] :
    Decidable (KindMeets round info pname percent rate stored config draws
      updates) :=
  inferInstanceAs (Decidable (ite _ _ _))

instance (stored : StoredRates) (world : World) (rerun : Rerun) :
    Decidable (Meets round zstsub stored world rerun) :=
  decidableOfFound _ _

/-- Once a call has chosen clients anew, all instances are sent their
configuration: the requests for it are answered, and a call that has chosen slow
clients does not want as many reconnecting ones as there are instances. -/
structure Uninterrupted (before : World) (rerun : Rerun) : Prop where
  sent : ∀ chosen, chooseClients round backend zstsub rerun.options
      rerun.slowDraws rerun.recDraws before = .ok true chosen →
    ∃ signal, updateSubConfigs backend zstsub rerun.options chosen = .ok () signal
  enough : ∀ info, before.hydra.apps.lookup zstsub = some (.refreshed info) →
    RedrawsSlow round info rerun.options → RedrawsRec round info rerun.options →
      clientNum round info.ipPortMap.keys.length rerun.options.recClientsPercent <
        info.ipPortMap.keys.length

end Configured

section Kind

variable {round : ℚ → ℚ} {info : AppInfo}

/-- The remembered instances are instances, and the others have no rate. -/
structure KindTracked (info : AppInfo) (pname : String) (value : String → ℚ) :
    Prop where
  within : remembered info pname ⊆ instances info
  zeroElsewhere : ∀ key ∈ instances info, key ∉ remembered info pname →
    value key = 0

theorem drawnInstances_length {keys : List String} (nonempty : keys ≠ [])
    (cnt : Nat) (randint : Nat → Nat) :
    (drawnInstances keys cnt randint).length = cnt := by
  have positive : 0 < keys.length := List.length_pos_iff.mpr nonempty
  have all : ∀ idx ∈ List.range cnt,
      (keys[randint idx % keys.length]?).isSome := by
    intro idx _
    simp [Nat.mod_lt _ positive]
  rw [drawnInstances, List.filterMap_length_eq_length.mpr all,
    List.length_range]

theorem toFinset_card_eq_length_iff {keys : List String} :
    keys.toFinset.card = keys.length ↔ keys.Nodup :=
  @Multiset.toFinset_card_eq_card_iff_nodup String _ ↑keys

/-- Drawing `num` instances gives at most as many, and as many exactly if the
draws differ. -/
theorem drawnInstances_card {keys : List String} (nonempty : keys ≠ [])
    (num : Nat) (draws : Nat → Nat) :
    (drawnInstances keys num draws).toFinset.card ≤ num ∧
      ((drawnInstances keys num draws).toFinset.card = num ↔
        (drawnInstances keys num draws).Nodup) := by
  have lengthEq := drawnInstances_length nonempty num draws
  refine ⟨(List.toFinset_card_le _).trans_eq lengthEq, ?_⟩
  rw [← toFinset_card_eq_length_iff, lengthEq]

theorem drawnInstances_subset (keys : List String) (cnt : Nat)
    (randint : Nat → Nat) : drawnInstances keys cnt randint ⊆ keys := by
  intro key member
  obtain ⟨idx, _, found⟩ := List.mem_filterMap.mp member
  exact List.mem_of_getElem? found

/-- The instances remembered after a choice. -/
def afterSelect (keys : List String) (clients : Finset String) (num : Nat)
    (draws : Nat → Nat) : Finset String :=
  if Redraws clients num then (drawnInstances keys num draws).toFinset
  else clients

/-- What one call does to one kind of clients: it remembers a choice, and if it
updates the instances, it sends the rate to the remembered ones and zero to the
others. -/
structure KindStep (round : ℚ → ℚ) (info after : AppInfo) (pname : String)
    (percent rate : ℚ) (stored : ℚ → ℚ) (draws : Nat → Nat) (updates : Prop)
    [Decidable updates] (value value' : String → ℚ) : Prop where
  sameMap : after.ipPortMap = info.ipPortMap
  selected : remembered after pname =
    afterSelect info.ipPortMap.keys (remembered info pname)
      (clientNum round info.ipPortMap.keys.length percent) draws
  redrawUpdates : Redraws (remembered info pname)
    (clientNum round info.ipPortMap.keys.length percent) → updates
  sent : ∀ key ∈ instances info, value' key =
    if updates then stored (if key ∈ remembered after pname then rate else 0)
    else value key

section Step

variable {after : AppInfo} {pname : String} {percent rate : ℚ}
  {stored : ℚ → ℚ} {draws : Nat → Nat} {updates : Prop} [Decidable updates]
  {value value' : String → ℚ}

theorem KindStep.instances_eq
    (step : KindStep round info after pname percent rate stored draws updates
      value value') : instances after = instances info := by
  rw [instances, instances, step.sameMap]

/-- The remembered instances stay instances, and the others get no rate. -/
theorem KindTracked.step (tracked : KindTracked info pname value)
    (step : KindStep round info after pname percent rate stored draws updates
      value value') (storedZero : stored 0 = 0) :
    KindTracked after pname value' := by
  refine ⟨?_, ?_⟩
  · rw [step.instances_eq, step.selected, afterSelect]
    split
    · intro key member
      exact List.mem_toFinset.mpr
        (drawnInstances_subset _ _ _ (List.mem_toFinset.mp member))
    · exact tracked.within
  · intro key isInstance notRemembered
    rw [step.instances_eq] at isInstance
    rw [step.sent key isInstance, if_neg notRemembered, storedZero]
    split
    · rfl
    · next unchanged =>
        apply tracked.zeroElsewhere key isInstance
        rw [step.selected, afterSelect,
          if_neg fun redraws => unchanged (step.redrawUpdates redraws)]
          at notRemembered
        exact notRemembered

/-- On the remembered instances, a call that redraws leaves the stored rate. -/
theorem KindStep.sent_remembered
    (step : KindStep round info after pname percent rate stored draws updates
      value value') (within : remembered after pname ⊆ instances info) {key : String}
    (member : key ∈ remembered after pname) :
    value' key = if updates then stored rate else value key := by
  rw [step.sent key (within member), if_pos member]

/-- A call that draws instances configures its kind exactly if the draws differ
and the rate is stored as it is. -/
theorem KindTracked.ratesSet_drawn_iff (tracked : KindTracked info pname value)
    (step : KindStep round info after pname percent rate stored draws updates
      value value') (storedZero : stored 0 = 0)
    (nonempty : info.ipPortMap.keys ≠ []) (rateNonzero : rate ≠ 0)
    (redraws : Redraws (remembered info pname)
      (clientNum round info.ipPortMap.keys.length percent)) :
    RatesSet round after percent rate value' ↔
      (drawnInstances info.ipPortMap.keys
        (clientNum round info.ipPortMap.keys.length percent) draws).Nodup ∧
        stored rate = rate := by
  have trackedAfter := tracked.step step storedZero
  have drawn : remembered after pname = _ := step.selected
  rw [afterSelect, if_pos redraws] at drawn
  obtain ⟨few, sized⟩ := drawnInstances_card nonempty
    (clientNum round info.ipPortMap.keys.length percent) draws
  have chosen : (remembered after pname).Nonempty := by
    rw [drawn, List.toFinset_nonempty_iff, ← List.length_pos_iff,
      drawnInstances_length nonempty]
    exact Nat.pos_of_ne_zero redraws.1
  obtain ⟨someKey, isChosen⟩ := chosen
  have sentRate : ∀ key ∈ remembered after pname, value' key = stored rate := by
    intro key member
    rw [step.sent_remembered (step.instances_eq ▸ trackedAfter.within) member,
      if_pos (step.redrawUpdates redraws)]
  rw [← drawn] at few sized
  rw [RatesSet, step.sameMap, nonzero_card_iff trackedAfter.within
    trackedAfter.zeroElsewhere few rateNonzero, sized]
  refine and_congr_right fun _ => ⟨?_, ?_⟩
  · intro atRate
    rw [← sentRate someKey isChosen]
    exact atRate someKey isChosen
  · intro storedRate key member
    rw [sentRate key member, storedRate]

/-- A call that draws no instances configures its kind exactly if the remembered
ones have the right rate. -/
theorem KindTracked.ratesSet_kept_iff (tracked : KindTracked info pname value)
    (step : KindStep round info after pname percent rate stored draws updates
      value value') (storedZero : stored 0 = 0) (rateNonzero : rate ≠ 0)
    (kept : ¬ Redraws (remembered info pname)
      (clientNum round info.ipPortMap.keys.length percent)) :
    RatesSet round after percent rate value' ↔
      ∀ key ∈ remembered info pname,
        (if updates then stored rate else value key) =
          if clientNum round info.ipPortMap.keys.length percent = 0 then 0
          else rate := by
  have trackedAfter := tracked.step step storedZero
  have same : remembered after pname = _ := step.selected
  rw [afterSelect, if_neg kept] at same
  have sentKept : ∀ key ∈ remembered info pname,
      value' key = if updates then stored rate else value key := by
    intro key member
    exact step.sent_remembered (step.instances_eq ▸ trackedAfter.within)
      (same ▸ member)
  rw [RatesSet, step.sameMap]
  by_cases wanted : clientNum round info.ipPortMap.keys.length percent = 0
  · rw [wanted, nonzero_card_zero_iff trackedAfter.within
      trackedAfter.zeroElsewhere, same, if_pos rfl]
    exact forall₂_congr fun key member => by rw [sentKept key member]
  · have count : (remembered after pname).card =
        clientNum round info.ipPortMap.keys.length percent := by
      by_contra differs
      rw [same] at differs
      exact kept ⟨wanted, Or.inr fun equal => differs equal.symm⟩
    rw [nonzero_card_iff trackedAfter.within trackedAfter.zeroElsewhere count.le
      rateNonzero, if_neg wanted, same]
    rw [same] at count
    rw [and_iff_right count]
    exact forall₂_congr fun key member => by rw [sentKept key member]

/-- One kind of clients is configured as asked for exactly under its
condition. -/
theorem KindTracked.ratesSet_iff (tracked : KindTracked info pname value)
    (step : KindStep round info after pname percent rate stored draws updates
      value value') (storedZero : stored 0 = 0)
    (nonempty : info.ipPortMap.keys ≠ []) (rateNonzero : rate ≠ 0) :
    RatesSet round after percent rate value' ↔
      KindMeets round info pname percent rate stored value draws updates := by
  unfold KindMeets
  by_cases redraws : Redraws (remembered info pname)
      (clientNum round info.ipPortMap.keys.length percent)
  · simp only [redraws, if_true]
    exact tracked.ratesSet_drawn_iff step storedZero nonempty rateNonzero redraws
  · simp only [redraws, if_false]
    exact tracked.ratesSet_kept_iff step storedZero rateNonzero redraws

end Step

end Kind

/-- No configuration was sent between two points of the history. -/
def ConfigKept (stored : StoredRates) (before after : History) : Prop :=
  ∀ key, subConfig stored after key = subConfig stored before key

section Requests

variable {backend : Backend} {stored : StoredRates} {history later : History}

theorem subConfig_append (history : History) (exchange : Exchange)
    (key : String) :
    subConfig stored (history ++ [exchange]) key =
      configAfter stored key (subConfig stored history key) exchange := by
  simp [subConfig]

theorem remote_returned {request : Request} {answer : request.Answer}
    (returned : remote backend request history = .ok answer later) :
    later = history ++ [⟨request, .ok answer⟩] := by
  unfold remote at returned
  split at returned
  · cases returned
    rfl
  · cases returned

/-- However a request ends that is no configuration, none is sent by it. -/
theorem remote_configKept {request : Request}
    (other : ∀ answer config key,
      configAfter stored key config ⟨request, answer⟩ = config) :
    LeadsAlong (ConfigKept stored) (remote backend request) := by
  intro history key
  unfold remote
  split <;> rw [stateAfter, subConfig_append, other]

theorem ConfigKept.trans (first second third : History)
    (kept : ConfigKept stored first second)
    (keptLater : ConfigKept stored second third) :
    ConfigKept stored first third :=
  fun key => (keptLater key).trans (kept key)

theorem resetTasks_configKept (ipPortMap : Dict (Int × String))
    (taskList : List String) :
    LeadsAlong (ConfigKept stored) (resetTasks backend ipPortMap taskList) := by
  induction taskList with
  | nil => exact fun _ _ => rfl
  | cons taskId taskList ih =>
      intro history
      simp only [resetTasks, index_bind]
      cases ipPortMap.lookup taskId with
      | none => exact fun _ => rfl
      | some info =>
          exact LeadsAlong.bind ConfigKept.trans
            (remote_configKept fun _ _ _ => rfl) (fun _ => ih) history

/-- The update loop leaves every instance it goes through with the rates for
it. -/
theorem updateInstances_returned {options : Options}
    {ipm : Dict (Int × String)} {slowSet recSet : Option (Finset String)}
    {keys : List String}
    (returned : updateInstances backend options ipm slowSet recSet keys history =
      .ok () later) (key : String) :
    subConfig stored later key =
      if key ∈ keys then
        (stored.recv (rateFor slowSet options.slowClientsRate key),
          stored.reconnect (rateFor recSet options.recClientsRate key))
      else subConfig stored history key := by
  induction keys generalizing history with
  | nil =>
      cases returned
      simp
  | cons first keys ih =>
      simp only [updateInstances, index_bind] at returned
      cases found : ipm.lookup first with
      | none => simp [found] at returned
      | some info =>
          simp only [found, bind_ok_iff] at returned
          obtain ⟨_, middle, updated, rest⟩ := returned
          rw [ih rest, remote_returned updated, subConfig_append]
          by_cases sentLater : key ∈ keys
          · simp [sentLater]
          · by_cases same : first = key
            · subst same
              simp [sentLater, configAfter]
            · simp [sentLater, configAfter, same, Ne.symm same]

end Requests

section Calls

variable {backend : Backend} {stored : StoredRates} {world after : World}
  {zstsub : String} {info : AppInfo}

theorem mem_apps (registered : world.hydra.apps.lookup zstsub =
    some (.refreshed info)) : zstsub ∈ world.hydra.apps :=
  AList.lookup_isSome.mp (by rw [registered]; rfl)

theorem getAppProperty_eq (registered : world.hydra.apps.lookup zstsub =
    some (.refreshed info)) (pname : String) :
    getAppProperty zstsub pname world =
      .ok (info.property.lookup pname) world := by
  simp only [getAppProperty, getHydra_bind, assertThat_bind,
    mem_apps registered, decide_true, if_true, index_bind, registered]
  rfl

theorem setAppProperty_eq (registered : world.hydra.apps.lookup zstsub =
    some (.refreshed info)) (key : String) (value : Finset String) :
    setAppProperty zstsub key value world =
      .ok () ⟨world.hydra.setApp zstsub (.refreshed
        { info with property := info.property.insert key value }),
        world.history⟩ := by
  simp only [setAppProperty, getHydra_bind, assertThat_bind,
    mem_apps registered, decide_true, if_true, index_bind, registered]
  rfl

theorem getAppInstcnt_eq (registered : world.hydra.apps.lookup zstsub =
    some (.refreshed info)) :
    getAppInstcnt zstsub world = .ok info.ipPortMap.keys.length world := by
  rw [getAppInstcnt, bind_of_ok (getAppIpportMap_eq registered)]
  rfl

/-- Neither the registry nor the configuration of an instance changes. -/
def Unconfigured (stored : StoredRates) (before after : World) : Prop :=
  after.hydra = before.hydra ∧ ConfigKept stored before.history after.history

theorem Unconfigured.trans {first second third : World}
    (same : Unconfigured stored first second)
    (sameLater : Unconfigured stored second third) :
    Unconfigured stored first third :=
  ⟨sameLater.1.trans same.1, same.2.trans _ _ _ sameLater.2⟩

theorem onBackend_unconfigured {Value : Type} {program : RemoteM Value}
    (kept : LeadsAlong (ConfigKept stored) program) :
    LeadsAlong (Unconfigured stored) (onBackend program) := by
  intro world
  rw [onBackend, stateAfter_onPart]
  exact ⟨rfl, kept world.history⟩

theorem resetAllAppStats_unconfigured
    (registered : world.hydra.apps.lookup zstsub = some (.refreshed info))
    (groupName : String) :
    Unconfigured stored world
      (stateAfter (resetAllAppStats backend zstsub groupName world)) := by
  simp only [resetAllAppStats, getHydra_bind, assertThat_bind,
    mem_apps registered, decide_true, if_true]
  rcases scannedTasks_state world.hydra zstsub groupName world with
    ⟨error, failed⟩ | ⟨taskList, scanned, _⟩
  · rw [bind_of_error failed]
    exact ⟨rfl, fun _ => rfl⟩
  · rw [bind_of_ok scanned, bind_of_ok (getAppIpportMap_eq registered)]
    exact onBackend_unconfigured (resetTasks_configKept _ taskList) world

/-- What a choice of clients leaves: another property at most. -/
structure Selected (zstsub pname : String) (num : Nat) (draws : Nat → Nat)
    (info : AppInfo) (before after : World) (updated : Bool) (info' : AppInfo) :
    Prop where
  registered : after.hydra.apps.lookup zstsub = some (.refreshed info')
  history : after.history = before.history
  sameMap : info'.ipPortMap = info.ipPortMap
  selected : remembered info' pname =
    afterSelect info.ipPortMap.keys (remembered info pname) num draws
  others : ∀ other, other ≠ pname →
    remembered info' other = remembered info other
  updated : updated = decide (Redraws (remembered info pname) num)
  unchanged : ¬ Redraws (remembered info pname) num → after = before

/-- Choosing clients fails only where it should draw as many as there are. -/
theorem selectClients_outcome
    (registered : world.hydra.apps.lookup zstsub = some (.refreshed info))
    (pname : String) (num : Nat) (draws : Nat → Nat) :
    (∃ stop, selectClients zstsub pname num draws world = .error stop world ∧
      Redraws (remembered info pname) num ∧
      ¬ num < info.ipPortMap.keys.length) ∨
    ∃ updated after info',
      selectClients zstsub pname num draws world = .ok updated after ∧
      Selected zstsub pname num draws info world after updated info' := by
  unfold selectClients
  by_cases wanted : num = 0
  · right
    refine ⟨false, world, info, by rw [if_pos wanted]; rfl, registered, rfl, rfl,
      ?_, fun _ _ => rfl, ?_, fun _ => rfl⟩
    · simp [afterSelect, Redraws, wanted]
    · simp [Redraws, wanted]
  rw [if_neg wanted, bind_of_ok (getAppProperty_eq registered pname)]
  by_cases differs : remembered info pname = ∅ ∨
      num ≠ (remembered info pname).card
  · have redraws : Redraws (remembered info pname) num := ⟨wanted, differs⟩
    rw [remembered] at differs
    simp only [differs, if_true, randomSelectInstances, bind_assoc]
    rw [bind_of_ok (getAppIpportMap_eq registered)]
    simp only [assertThat_bind, pure_bind, decide_eq_true_eq]
    by_cases fewer : num < info.ipPortMap.keys.length
    · right
      rw [if_pos fewer, bind_of_ok (setAppProperty_eq registered _ _)]
      let drawn := (drawnInstances info.ipPortMap.keys num draws).toFinset
      refine ⟨true, _,
        { info with property := info.property.insert pname drawn }, rfl,
        by simp [setApp, drawn], rfl, rfl, ?_, ?_, by simp [redraws],
        fun keeps => absurd redraws keeps⟩
      · rw [afterSelect, if_pos redraws]
        simp [remembered, drawn]
      · intro other different
        simp [remembered, AList.lookup_insert_ne different]
    · left
      rw [if_neg fewer]
      exact ⟨_, rfl, redraws, fewer⟩
  · have keeps : ¬ Redraws (remembered info pname) num :=
      fun redraws => differs redraws.2
    rw [remembered] at differs
    simp only [differs, if_false]
    right
    exact ⟨false, world, info, rfl, registered, rfl, rfl,
      by simp [afterSelect, keeps], fun _ _ => rfl, by simp [keeps],
      fun _ => rfl⟩

/-- What the choice of both kinds of clients leaves. -/
structure Chosen (stored : StoredRates) (round : ℚ → ℚ) (zstsub : String)
    (rerun : Rerun) (info : AppInfo) (before after : World) (info' : AppInfo) :
    Prop where
  registered : after.hydra.apps.lookup zstsub = some (.refreshed info')
  sameMap : info'.ipPortMap = info.ipPortMap
  slowSelected : remembered info' "slow_clients" =
    afterSelect info.ipPortMap.keys (remembered info "slow_clients")
      (clientNum round info.ipPortMap.keys.length
        rerun.options.slowClientsPercent) rerun.slowDraws
  recSelected : remembered info' "reconnecting_clients" =
    afterSelect info.ipPortMap.keys (remembered info "reconnecting_clients")
      (clientNum round info.ipPortMap.keys.length
        rerun.options.recClientsPercent) rerun.recDraws
  unsent : ConfigKept stored before.history after.history

/-- The choice of both kinds fails only where it has changed nothing. -/
theorem selectBoth_outcome
    (registered : world.hydra.apps.lookup zstsub = some (.refreshed info))
    {round : ℚ → ℚ} (rerun : Rerun)
    (enough : RedrawsSlow round info rerun.options →
      RedrawsRec round info rerun.options →
        clientNum round info.ipPortMap.keys.length
          rerun.options.recClientsPercent < info.ipPortMap.keys.length) :
    (∃ stop, selectBoth round zstsub rerun.options rerun.slowDraws
        rerun.recDraws info.ipPortMap.keys.length world = .error stop world) ∨
    ∃ after info', selectBoth round zstsub rerun.options rerun.slowDraws
        rerun.recDraws info.ipPortMap.keys.length world =
          .ok (decide (Updates round info rerun.options)) after ∧
      Chosen stored round zstsub rerun info world after info' := by
  unfold selectBoth
  rcases selectClients_outcome registered "slow_clients"
      (clientNum round info.ipPortMap.keys.length
        rerun.options.slowClientsPercent) rerun.slowDraws with
    ⟨stop, failed, _⟩ | ⟨slowUpdate, slowWorld, slowInfo, slowOk, slow⟩
  · exact Or.inl ⟨stop, bind_of_error failed⟩
  rw [bind_of_ok slowOk]
  have recKept : remembered slowInfo "reconnecting_clients" =
      remembered info "reconnecting_clients" := slow.others _ (by decide)
  rcases selectClients_outcome slow.registered "reconnecting_clients"
      (clientNum round info.ipPortMap.keys.length
        rerun.options.recClientsPercent) rerun.recDraws with
    ⟨stop, failed, redraws, many⟩ | ⟨recUpdate, recWorld, recInfo, recOk, rec⟩
  · -- Then the slow clients were not chosen anew.
    rw [recKept] at redraws
    rw [slow.sameMap] at many
    have keeps := fun slowRedraws => many (enough slowRedraws redraws)
    rw [slow.unchanged keeps] at failed ⊢
    exact Or.inl ⟨stop, bind_of_error failed⟩
  · right
    rw [bind_of_ok recOk]
    refine ⟨recWorld, recInfo, ?_, rec.registered,
      rec.sameMap.trans slow.sameMap, ?_, ?_, ?_⟩
    · rw [slow.updated, rec.updated, recKept]
      exact congrArg (fun updates => EStateM.Result.ok updates recWorld)
        (Bool.decide_or _ _).symm
    · rw [rec.others _ (by decide), slow.selected]
    · rw [rec.selected, recKept, slow.sameMap]
    · intro key
      rw [rec.history, slow.history]

/-- A call that has chosen clients knows whether instances are to be updated.
Otherwise it has changed nothing. -/
theorem chooseClients_outcome
    (registered : world.hydra.apps.lookup zstsub = some (.refreshed info))
    {round : ℚ → ℚ} (rerun : Rerun)
    (enough : RedrawsSlow round info rerun.options →
      RedrawsRec round info rerun.options →
        clientNum round info.ipPortMap.keys.length
          rerun.options.recClientsPercent < info.ipPortMap.keys.length) :
    (∃ stop after, chooseClients round backend zstsub rerun.options
        rerun.slowDraws rerun.recDraws world = .error stop after ∧
      Unconfigured stored world after) ∨
    ∃ after info', chooseClients round backend zstsub rerun.options
        rerun.slowDraws rerun.recDraws world =
          .ok (decide (Updates round info rerun.options)) after ∧
      Chosen stored round zstsub rerun info world after info' := by
  unfold chooseClients
  have asked := onBackend_unconfigured (@remote_configKept backend stored
    (.updatePubConfig rerun.options.testDuration rerun.options.msgBatch
      rerun.options.msgRate) fun _ _ _ => rfl) world
  cases published : onBackend (remote backend
      (.updatePubConfig rerun.options.testDuration rerun.options.msgBatch
        rerun.options.msgRate)) world with
  | error stop after =>
      rw [published] at asked
      exact Or.inl ⟨stop, after, bind_of_error published, asked⟩
  | ok answer pub =>
      rw [published] at asked
      have samePub : pub.hydra = world.hydra := asked.1
      have registeredPub : pub.hydra.apps.lookup zstsub =
          some (.refreshed info) := by
        rw [samePub]
        exact registered
      have kept := @resetAllAppStats_unconfigured backend stored _ _ _
        registeredPub ""
      cases resetOk : resetAllAppStats backend zstsub "" pub with
      | error stop after =>
          rw [resetOk] at kept
          exact Or.inl ⟨stop, after,
            (bind_of_ok published).trans (bind_of_error resetOk),
            asked.trans kept⟩
      | ok answer reset =>
          rw [resetOk] at kept
          have same : Unconfigured stored world reset := asked.trans kept
          have registeredReset : reset.hydra.apps.lookup zstsub =
              some (.refreshed info) := by
            rw [same.1]
            exact registered
          rcases @selectBoth_outcome stored _ _ _ registeredReset round rerun
            enough with ⟨stop, failed⟩ | ⟨after, info', chose, chosen⟩
          · refine Or.inl ⟨stop, reset, (bind_of_ok published).trans
              ((bind_of_ok resetOk).trans ((bind_of_ok
                (getAppInstcnt_eq registeredReset)).trans failed)), same⟩
          · refine Or.inr ⟨after, info', (bind_of_ok published).trans
              ((bind_of_ok resetOk).trans ((bind_of_ok
                (getAppInstcnt_eq registeredReset)).trans chose)),
              chosen.registered, chosen.sameMap, chosen.slowSelected,
              chosen.recSelected, ?_⟩
            exact same.2.trans _ _ _ chosen.unsent

theorem updateSubConfigs_returned
    (registered : world.hydra.apps.lookup zstsub = some (.refreshed info))
    {options : Options}
    (returned : updateSubConfigs backend zstsub options world =
      .ok () after) :
    after.hydra = world.hydra ∧ ∀ key ∈ instances info,
      subConfig stored after.history key =
        (stored.recv (if key ∈ remembered info "slow_clients" then
          options.slowClientsRate else 0),
        stored.reconnect (if key ∈ remembered info "reconnecting_clients" then
          options.recClientsRate else 0)) := by
  unfold updateSubConfigs at returned
  rw [bind_of_ok (getAppIpportMap_eq registered),
    bind_of_ok (getAppProperty_eq registered _),
    bind_of_ok (getAppProperty_eq registered _)] at returned
  obtain ⟨later, updated, rfl⟩ := onBackend_ok_iff.mp returned
  refine ⟨rfl, ?_⟩
  intro key isInstance
  rw [updateInstances_returned updated key,
    if_pos (List.mem_toFinset.mp isInstance)]
  rfl

/-- A call that is not interrupted is one step for each kind of clients up to its
signal, or changes nothing. -/
theorem configureTest_outcome
    (registered : world.hydra.apps.lookup zstsub = some (.refreshed info))
    {round : ℚ → ℚ} {rerun : Rerun}
    (uninterrupted : Uninterrupted round backend zstsub world rerun) :
    (∃ stop after, configureTest round backend zstsub rerun.options
        rerun.slowDraws rerun.recDraws world = .error stop after ∧
      Unconfigured stored world after) ∨
    ∃ signal info', Signals round backend zstsub world rerun signal ∧
      signal.hydra.apps.lookup zstsub = some (.refreshed info') ∧
      KindStep round info info' "slow_clients" rerun.options.slowClientsPercent
        rerun.options.slowClientsRate stored.recv rerun.slowDraws
        (Updates round info rerun.options)
        (fun key => (subConfig stored world.history key).1)
        (fun key => (subConfig stored signal.history key).1) ∧
      KindStep round info info' "reconnecting_clients"
        rerun.options.recClientsPercent rerun.options.recClientsRate
        stored.reconnect rerun.recDraws (Updates round info rerun.options)
        (fun key => (subConfig stored world.history key).2)
        (fun key => (subConfig stored signal.history key).2) := by
  unfold Signals configureTest
  rcases @chooseClients_outcome backend stored _ _ _ registered round rerun
      (uninterrupted.enough info registered) with
    ⟨stop, after, failed, same⟩ | ⟨chosen, info', chose, isChosen⟩
  · exact Or.inl ⟨stop, after, bind_of_error failed, same⟩
  right
  have instancesEq : instances info' = instances info := by
    rw [instances, instances, isChosen.sameMap]
  by_cases updates : Updates round info rerun.options
  · rw [decide_eq_true updates] at chose
    obtain ⟨signal, sent⟩ := uninterrupted.sent chosen chose
    obtain ⟨sameHydra, config⟩ :=
      @updateSubConfigs_returned _ stored _ _ _ _ isChosen.registered _ sent
    rw [instancesEq] at config
    refine ⟨signal, info', (bind_of_ok chose).trans sent, ?_,
      ⟨isChosen.sameMap, isChosen.slowSelected, fun _ => updates, ?_⟩,
      ⟨isChosen.sameMap, isChosen.recSelected, fun _ => updates, ?_⟩⟩
    · rw [sameHydra]
      exact isChosen.registered
    · intro key isInstance
      rw [config key isInstance, if_pos updates]
    · intro key isInstance
      rw [config key isInstance, if_pos updates]
  · rw [decide_eq_false updates] at chose
    refine ⟨chosen, info', bind_of_ok chose, isChosen.registered,
      ⟨isChosen.sameMap, isChosen.slowSelected, Or.inl, ?_⟩,
      ⟨isChosen.sameMap, isChosen.recSelected, Or.inr, ?_⟩⟩
    · intro key _
      rw [if_neg updates, isChosen.unsent key]
    · intro key _
      rw [if_neg updates, isChosen.unsent key]

/-- The signal itself configures nothing. -/
theorem stateAfter_rerunTest {round : ℚ → ℚ} {rerun : Rerun} {signal : World}
    (signals : Signals round backend zstsub world rerun signal) :
    Unconfigured stored signal (stateAfter (rerunTest round backend zstsub
      rerun.options rerun.slowDraws rerun.recDraws world)) := by
  unfold rerunTest
  rw [bind_of_ok signals]
  exact onBackend_unconfigured (remote_configKept fun _ _ _ => rfl) signal

/-- A call that returns was not interrupted, and neither was one that raised
before clients were chosen. -/
theorem uninterrupted_of_ended {round : ℚ → ℚ} {rerun : Rerun}
    (ended : returns (configureTest round backend zstsub rerun.options
        rerun.slowDraws rerun.recDraws world) = true ∨
      returns (chooseClients round backend zstsub rerun.options
        rerun.slowDraws rerun.recDraws world) = false)
    (enough : ∀ info, world.hydra.apps.lookup zstsub = some (.refreshed info) →
      RedrawsSlow round info rerun.options → RedrawsRec round info rerun.options →
        clientNum round info.ipPortMap.keys.length
          rerun.options.recClientsPercent < info.ipPortMap.keys.length) :
    Uninterrupted round backend zstsub world rerun := by
  refine ⟨fun chosen chose => ?_, enough⟩
  rcases ended with returned | raised
  · rw [configureTest, bind_of_ok chose] at returned
    exact ⟨_, eq_ok_of_returns returned⟩
  · rw [chose] at raised
    cases raised

end Calls

section Runs

variable {round : ℚ → ℚ} {backend : Backend} {stored : StoredRates}
  {zstsub : String}

/-- The subscribers were launched and not configured yet. -/
def FreshSubs (stored : StoredRates) (zstsub : String) (world : World) : Prop :=
  ∃ info, world.hydra.apps.lookup zstsub = some (.refreshed info) ∧
    info.ipPortMap.keys ≠ [] ∧ info.property = ∅ ∧
    ∀ key, subConfig stored world.history key = (0, 0)

/-- In every run of reruns, of which any may raise, the subscribers are configured
as the options say whenever the publisher is signalled. -/
def ConfiguredThroughout (round : ℚ → ℚ) (stored : StoredRates) : Prop :=
  ∀ (backend : Backend) (zstsub : String) (start : World)
    (steps : List (Step World Rerun)) (final : World),
    FreshSubs stored zstsub start →
      Run (Calls round backend zstsub) start steps final →
        ∀ step ∈ steps, ∀ signal,
          Signals round backend zstsub step.before step.label signal →
            Configured round zstsub stored step.label.options signal

/-- The subscribers, and what is remembered about them. -/
def SubsTracked (stored : StoredRates) (zstsub : String) (world : World) :
    Prop :=
  ∃ info, world.hydra.apps.lookup zstsub = some (.refreshed info) ∧
    info.ipPortMap.keys ≠ [] ∧
    KindTracked info "slow_clients"
      (fun key => (subConfig stored world.history key).1) ∧
    KindTracked info "reconnecting_clients"
      (fun key => (subConfig stored world.history key).2)

theorem FreshSubs.tracked {world : World}
    (fresh : FreshSubs stored zstsub world) :
    SubsTracked stored zstsub world := by
  obtain ⟨info, registered, nonempty, noProperty, noConfig⟩ := fresh
  have none : ∀ pname, remembered info pname = ∅ := by
    intro pname
    simp [remembered, noProperty]
  refine ⟨info, registered, nonempty, ⟨?_, ?_⟩, ⟨?_, ?_⟩⟩
  · simp [none]
  · intro key _ _
    rw [noConfig key]
  · simp [none]
  · intro key _ _
    rw [noConfig key]

variable {before after signal : World} {rerun : Rerun}

theorem SubsTracked.congr (tracked : SubsTracked stored zstsub before)
    (same : Unconfigured stored before after) :
    SubsTracked stored zstsub after := by
  obtain ⟨info, registered, nonempty, slow, rec⟩ := tracked
  refine ⟨info, by rw [same.1, registered], nonempty, ⟨slow.within, ?_⟩,
    ⟨rec.within, ?_⟩⟩
  · intro key isInstance notRemembered
    rw [same.2 key]
    exact slow.zeroElsewhere key isInstance notRemembered
  · intro key isInstance notRemembered
    rw [same.2 key]
    exact rec.zeroElsewhere key isInstance notRemembered

/-- What a call does that is not interrupted: it changes nothing and does not
signal, or the subscribers are tracked at its signal and configured as its
options say exactly under its condition. -/
theorem Calls.outcome (calls : Calls round backend zstsub before rerun after)
    (uninterrupted : Uninterrupted round backend zstsub before rerun)
    (tracked : SubsTracked stored zstsub before) :
    (Unconfigured stored before after ∧
      ∀ signal, ¬ Signals round backend zstsub before rerun signal) ∨
    ∃ signal, Signals round backend zstsub before rerun signal ∧
      Unconfigured stored signal after ∧ SubsTracked stored zstsub signal ∧
      (Configured round zstsub stored rerun.options signal ↔
        Meets round zstsub stored before rerun) := by
  obtain ⟨valid, rfl⟩ := calls
  obtain ⟨info, registered, nonempty, slow, rec⟩ := tracked
  rcases @configureTest_outcome _ stored _ _ _ registered _ _ uninterrupted with
    ⟨stop, after, failed, same⟩ |
      ⟨signal, info', signals, registeredAfter, slowStep, recStep⟩
  · left
    constructor
    · unfold rerunTest
      rw [bind_of_error failed]
      exact same
    · intro signal signals
      unfold Signals at signals
      rw [failed] at signals
      cases signals
  · right
    have slowIff := slow.ratesSet_iff slowStep stored.recv_zero nonempty
      valid.slowRate
    have recIff := rec.ratesSet_iff recStep stored.reconnect_zero nonempty
      valid.recRate
    refine ⟨signal, signals, stateAfter_rerunTest signals,
      ⟨info', registeredAfter, ?_, slow.step slowStep stored.recv_zero,
        rec.step recStep stored.reconnect_zero⟩, ?_, ?_⟩
    · rw [slowStep.sameMap]
      exact nonempty
    · rintro ⟨infoAfter, found, slowSet, recSet⟩ infoBefore found'
      rw [registeredAfter] at found
      cases found
      rw [registered] at found'
      cases found'
      exact ⟨slowIff.mp slowSet, recIff.mp recSet⟩
    · intro meets
      obtain ⟨slowMeets, recMeets⟩ := meets info registered
      exact ⟨info', registeredAfter, slowIff.mpr slowMeets,
        recIff.mpr recMeets⟩

theorem Calls.tracked (calls : Calls round backend zstsub before rerun after)
    (uninterrupted : Uninterrupted round backend zstsub before rerun)
    (tracked : SubsTracked stored zstsub before) :
    SubsTracked stored zstsub after := by
  rcases calls.outcome uninterrupted tracked with
    ⟨same, _⟩ | ⟨signal, _, same, trackedSignal, _⟩
  · exact tracked.congr same
  · exact trackedSignal.congr same

theorem Calls.configured_iff
    (calls : Calls round backend zstsub before rerun after)
    (uninterrupted : Uninterrupted round backend zstsub before rerun)
    (tracked : SubsTracked stored zstsub before) :
    (∀ signal, Signals round backend zstsub before rerun signal →
        Configured round zstsub stored rerun.options signal) ↔
      ((∃ signal, Signals round backend zstsub before rerun signal) →
        Meets round zstsub stored before rerun) := by
  rcases calls.outcome uninterrupted tracked with
    ⟨_, noSignal⟩ | ⟨signal, signals, _, _, exact⟩
  · refine iff_of_true (fun signal signals => ?_) fun ⟨signal, signals⟩ => ?_
    · exact (noSignal signal signals).elim
    · exact (noSignal signal signals).elim
  · constructor
    · intro configured _
      exact exact.mp (configured signal signals)
    · intro meets other signalsOther
      unfold Signals at signals signalsOther
      rw [signals] at signalsOther
      cases signalsOther
      exact exact.mpr (meets ⟨signal, signals⟩)

/-- In a run without an interrupted call the subscribers are configured as the
options say at every start signal exactly if every call that signals meets its
condition. -/
theorem configured_throughout_iff {start final : World}
    {steps : List (Step World Rerun)}
    (fresh : FreshSubs stored zstsub start)
    (run : Run (Calls round backend zstsub) start steps final)
    (uninterrupted : ∀ step ∈ steps,
      Uninterrupted round backend zstsub step.before step.label) :
    (∀ step ∈ steps, ∀ signal,
        Signals round backend zstsub step.before step.label signal →
          Configured round zstsub stored step.label.options signal) ↔
      ∀ step ∈ steps,
        (∃ signal, Signals round backend zstsub step.before step.label signal) →
          Meets round zstsub stored step.before step.label := by
  refine forall₂_congr fun step member => ?_
  obtain ⟨⟨calls, here⟩, tracked, _⟩ := (run.restrict uninterrupted).invariant
    (fun _ _ _ tracked taken => taken.1.tracked taken.2 tracked) fresh.tracked
    step member
  exact calls.configured_iff here tracked

end Runs

/-- Rates are stored as they are sent. -/
def exactRates : StoredRates := ⟨id, id, rfl, rfl⟩

/-- Two subscriber instances. -/
def twoSubs : World :=
  ⟨{ testName := "zmqScale"
     myaddr := "http://10.0.0.9:9800"
     apps := AList.insert "/zst-sub" (.refreshed
       { ipPortMap := AList.insert "zst-sub.1_PORT31000" (31000, "10.0.0.1")
          (AList.insert "zst-sub.2_PORT31000" (31000, "10.0.0.2") ∅) }) ∅
     allTaskIds := AList.insert "/zst-sub"
       ["zst-sub.1_PORT31000", "zst-sub.2_PORT31000"] ∅ }, []⟩

/-- Half of the clients are slow. -/
def slowStage : Rerun :=
  ⟨⟨15, 100, 10000, 50, 5000, 0, 2⟩, fun _ => 0, fun _ => 0⟩

/-- No client is slow, and half of the clients reconnect. -/
def reconnectStage : Rerun :=
  ⟨⟨15, 100, 10000, 0, 5000, 50, 2⟩, fun _ => 0, fun _ => 0⟩

def afterRerun (backend : Backend) (before : World) (rerun : Rerun) : World :=
  stateAfter (rerunTest id backend "/zst-sub" rerun.options rerun.slowDraws
    rerun.recDraws before)

/-- The two stages with flaky clients of the maximum rate suite. -/
def flakyStages : List (Step World Rerun) :=
  let slow := afterRerun steadyBackend twoSubs slowStage
  [⟨twoSubs, slowStage, slow⟩,
    ⟨slow, reconnectStage, afterRerun steadyBackend slow reconnectStage⟩]

theorem twoSubs_fresh : FreshSubs exactRates "/zst-sub" twoSubs :=
  ⟨_, rfl, by decide, rfl, fun _ => rfl⟩

theorem slowStage_valid : slowStage.options.Valid :=
  ⟨by decide +kernel, by decide +kernel, by decide +kernel, by decide +kernel⟩

theorem reconnectStage_valid : reconnectStage.options.Valid :=
  ⟨by decide +kernel, by decide +kernel, by decide +kernel, by decide +kernel⟩

theorem flakyStages_run :
    Run (Calls id steadyBackend "/zst-sub") twoSubs flakyStages
      (afterRerun steadyBackend (afterRerun steadyBackend twoSubs slowStage)
        reconnectStage) :=
  .next ⟨slowStage_valid, rfl⟩ (.next ⟨reconnectStage_valid, rfl⟩ .stop)

/-- The slow client stays, and the other one reconnects. -/
def bothStage : Rerun :=
  ⟨⟨15, 100, 10000, 50, 5000, 50, 2⟩, fun _ => 0, fun _ => 1⟩

/-- The steady cluster, except that the publisher does not answer the first
request of the second call. -/
def silentPub : Backend := fun history request =>
  match request with
  | .updatePubConfig testDuration msgBatch msgRate =>
      if history.length = 6 then
        .error (.exception "Resource temporarily unavailable")
      else
        steadyBackend history (.updatePubConfig testDuration msgBatch msgRate)
  | request => steadyBackend history request

/-- A call that returns, one that raises, and one that returns. -/
def interruptedStages : List (Step World Rerun) :=
  let slow := afterRerun silentPub twoSubs slowStage
  let silent := afterRerun silentPub slow bothStage
  [⟨twoSubs, slowStage, slow⟩, ⟨slow, bothStage, silent⟩,
    ⟨silent, bothStage, afterRerun silentPub silent bothStage⟩]

theorem bothStage_valid : bothStage.options.Valid :=
  ⟨by decide +kernel, by decide +kernel, by decide +kernel, by decide +kernel⟩

theorem interruptedStages_run :
    ∃ final, Run (Calls id silentPub "/zst-sub") twoSubs interruptedStages final :=
  ⟨_, .next ⟨slowStage_valid, rfl⟩ (.next ⟨bothStage_valid, rfl⟩
    (.next ⟨bothStage_valid, rfl⟩ .stop))⟩

/-- The calls that reach their signal. -/
def signalling (backend : Backend) (steps : List (Step World Rerun)) :
    List Bool :=
  steps.map fun step => returns (configureTest id backend "/zst-sub"
    step.label.options step.label.slowDraws step.label.recDraws step.before)

/-- The call that raises has chosen no clients, and the next one configures what
it was asked for. -/
theorem interruptedStages_configured :
    signalling silentPub interruptedStages = [true, false, true] ∧
      ∀ step ∈ interruptedStages, ∀ signal,
        Signals id silentPub "/zst-sub" step.before step.label signal →
          Configured id "/zst-sub" exactRates step.label.options signal := by
  obtain ⟨final, run⟩ := interruptedStages_run
  have ended : ∀ step ∈ interruptedStages,
      returns (configureTest id silentPub "/zst-sub" step.label.options
        step.label.slowDraws step.label.recDraws step.before) = true ∨
      returns (chooseClients id silentPub "/zst-sub" step.label.options
        step.label.slowDraws step.label.recDraws step.before) = false := by
    decide +kernel
  have enough : ∀ step ∈ interruptedStages, ∀ info,
      step.before.hydra.apps.lookup "/zst-sub" = some (.refreshed info) →
        RedrawsSlow id info step.label.options →
          RedrawsRec id info step.label.options →
            clientNum id info.ipPortMap.keys.length
              step.label.options.recClientsPercent <
                info.ipPortMap.keys.length := by
    decide +kernel
  have meets : ∀ step ∈ interruptedStages,
      Meets id "/zst-sub" exactRates step.before step.label := by
    decide +kernel
  exact ⟨by decide +kernel, (configured_throughout_iff twoSubs_fresh run
    fun step member => uninterrupted_of_ended (ended step member)
      (enough step member)).mpr fun step member _ => meets step member⟩

/-- The number of slow subscribers. -/
def slowInstances (world : World) : Nat :=
  match world.hydra.apps.lookup "/zst-sub" with
  | some (.refreshed info) =>
      ((instances info).filter
        fun key => (subConfig exactRates world.history key).1 ≠ 0).card
  | _ => 0

/-- The slow client of the first stage is configured slow again in the second
stage, which wants none. -/
theorem flakyStages_keep_slow_client : ¬ ConfiguredThroughout id exactRates := by
  intro throughout
  let slow := afterRerun steadyBackend twoSubs slowStage
  let chosen := stateAfter (configureTest id steadyBackend "/zst-sub"
    reconnectStage.options reconnectStage.slowDraws reconnectStage.recDraws slow)
  have signals : Signals id steadyBackend "/zst-sub" slow reconnectStage chosen :=
    eq_ok_of_returns (by decide +kernel)
  have configured := throughout steadyBackend "/zst-sub" twoSubs flakyStages _
    twoSubs_fresh flakyStages_run ⟨_, reconnectStage, _⟩
    (List.mem_cons_of_mem _ (List.mem_singleton.mpr rfl)) chosen signals
  obtain ⟨info, found, ⟨count, _⟩, _⟩ := configured
  have oneSlow : slowInstances chosen = 1 := by
    decide +kernel
  have noneWanted : clientNum id info.ipPortMap.keys.length
      reconnectStage.options.slowClientsPercent = 0 := by
    have product : (info.ipPortMap.keys.length : ℚ) * 0 / 100 = 0 := by
      simp
    change ((info.ipPortMap.keys.length : ℚ) * 0 / 100).floor.toNat = 0
    rw [product]
    rfl
  rw [slowInstances, found] at oneSlow
  have noneSlow := count.trans noneWanted
  have oneEqZero : 1 = 0 := oneSlow.symm.trans noneSlow
  exact absurd oneEqZero (by decide)

end RunTestZMQ

end MScale
