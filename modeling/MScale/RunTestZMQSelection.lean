import MScale.RunTestZMQConfig
import Mathlib.Data.List.NodupEquivFin

/-!
# The random selection of instances

`random_select_instances` draws every instance from all instances of the
application, also from those it drew before, and `rerun_test` stores what was
drawn as a set.  The set has the requested size exactly if no draw repeats an
earlier one.  Where it is smaller, every rerun draws again.
-/

namespace MScale

namespace RunTestZMQ

open HydraBase StateErrors

/-! ## The draws -/

/-- No two of the first `cnt` draws from `length` indices are the same. -/
def DrawsDiffer (length cnt : Nat) (randint : Nat → Nat) : Prop :=
  ∀ first second, first < second → second < cnt →
    randint first % length ≠ randint second % length

theorem drawnInstances_eq_map {keys : List String} (nonempty : 0 < keys.length)
    (cnt : Nat) (randint : Nat → Nat) :
    drawnInstances keys cnt randint =
      (List.range cnt).map fun idx =>
        keys.get ⟨randint idx % keys.length, Nat.mod_lt _ nonempty⟩ := by
  rw [drawnInstances, ← List.filterMap_eq_map']
  apply List.filterMap_congr
  intro idx _
  rw [List.getElem?_eq_getElem (Nat.mod_lt _ nonempty)]
  rfl

theorem drawnInstances_nodup_iff {keys : List String} (distinct : keys.Nodup)
    (nonempty : 0 < keys.length) {cnt : Nat} {randint : Nat → Nat} :
    (drawnInstances keys cnt randint).Nodup ↔
      DrawsDiffer keys.length cnt randint := by
  have injective := List.nodup_iff_injective_get.mp distinct
  rw [drawnInstances_eq_map nonempty, List.Nodup, List.pairwise_map,
    List.pairwise_iff_getElem]
  constructor
  · intro differ first second before within same
    have differHere := differ first second (by simp; omega) (by simpa) before
    apply differHere
    simp only [List.getElem_range]
    exact congrArg keys.get (Fin.ext same)
  · intro differ first second firstLt secondLt before same
    simp only [List.length_range] at firstLt secondLt
    simp only [List.getElem_range] at same
    exact differ first second before secondLt
      (Fin.val_eq_of_eq (injective same))

/-! ## The selection -/

section Selection

variable {world : World} {zstsub : String} {info : AppInfo} {cnt : Nat}
  {randint : Nat → Nat}

theorem randomSelectInstances_eq
    (registered : world.hydra.apps.lookup zstsub = some (.refreshed info)) :
    randomSelectInstances zstsub cnt randint world =
      if cnt < info.ipPortMap.keys.length then
        .ok (drawnInstances info.ipPortMap.keys cnt randint) world
      else .error (.raised .assertionError) world := by
  rw [randomSelectInstances, bind_of_ok (getAppIpportMap_eq registered),
    assertThat_bind]
  simp only [decide_eq_true_eq]
  rfl

/-- The world after `rerun_test` stored a selection as a property. -/
def withSelection (world : World) (zstsub : String) (info : AppInfo)
    (pname : String) (selected : List String) : World :=
  ⟨world.hydra.setApp zstsub (.refreshed
    { info with property := info.property.insert pname selected.toFinset }),
    world.history⟩

/-- `random_select_instances` returns `cnt` distinct instances of the
application, and the set that its caller stores has this size and is kept by
the next rerun that wants as many. -/
def SelectsDistinct (world : World) (zstsub : String) (info : AppInfo)
    (cnt : Nat) (randint : Nat → Nat) : Prop :=
  ∃ selected,
    randomSelectInstances zstsub cnt randint world = .ok selected world ∧
    selected.length = cnt ∧ selected.Nodup ∧
    selected ⊆ info.ipPortMap.keys ∧ selected.toFinset.card = cnt ∧
    ∀ pname again,
      selectClients zstsub pname cnt again
          (withSelection world zstsub info pname selected) =
        .ok false (withSelection world zstsub info pname selected)

/-- A stored set of the requested size is kept. -/
theorem selectClients_keeps {selected : List String} (pname : String)
    (sized : selected.toFinset.card = cnt) (again : Nat → Nat) :
    selectClients zstsub pname cnt again
        (withSelection world zstsub info pname selected) =
      .ok false (withSelection world zstsub info pname selected) := by
  unfold selectClients
  by_cases wanted : cnt = 0
  · rw [if_pos wanted]
    rfl
  · have registered :
        (withSelection world zstsub info pname selected).hydra.apps.lookup
          zstsub = some (.refreshed { info with
            property := info.property.insert pname selected.toFinset }) := by
      simp [withSelection, setApp]
    have kept : ¬ (selected.toFinset = ∅ ∨
        cnt ≠ selected.toFinset.card) := by
      rintro (empty | differs)
      · rw [empty, Finset.card_empty] at sized
        exact wanted sized.symm
      · exact differs sized.symm
    rw [if_neg wanted, bind_of_ok (getAppProperty_eq registered pname)]
    simp only [AList.lookup_insert, Option.getD_some, if_neg kept]
    rfl

/-- `random_select_instances` selects distinct instances exactly if fewer than
all are wanted and no draw repeats an earlier one. -/
theorem selectsDistinct_iff
    (registered : world.hydra.apps.lookup zstsub = some (.refreshed info)) :
    SelectsDistinct world zstsub info cnt randint ↔
      cnt < info.ipPortMap.keys.length ∧
        DrawsDiffer info.ipPortMap.keys.length cnt randint := by
  have outcome := @randomSelectInstances_eq _ _ _ cnt randint registered
  constructor
  · rintro ⟨selected, returned, _, distinct, _⟩
    by_cases fewer : cnt < info.ipPortMap.keys.length
    · rw [if_pos fewer, returned] at outcome
      cases outcome
      refine ⟨fewer, ?_⟩
      exact (drawnInstances_nodup_iff info.ipPortMap.keys_nodup
        (Nat.zero_lt_of_lt fewer)).mp distinct
    · rw [if_neg fewer, returned] at outcome
      cases outcome
  · rintro ⟨fewer, differ⟩
    have nonempty := Nat.zero_lt_of_lt fewer
    have lengthEq := drawnInstances_length
      (List.length_pos_iff.mp nonempty) cnt randint
    have distinct := (drawnInstances_nodup_iff info.ipPortMap.keys_nodup
      nonempty).mpr differ
    have sized := toFinset_card_eq_length_iff.mpr distinct
    rw [lengthEq] at sized
    rw [if_pos fewer] at outcome
    exact ⟨_, outcome, lengthEq, distinct, drawnInstances_subset _ _ _, sized,
      fun pname again => selectClients_keeps pname sized again⟩

end Selection

/-! ## A repeated draw -/

/-- Three subscribers with one instance each. -/
def threeSubs : AppInfo where
  ipPortMap := (((∅ : Dict (Int × String)).insert "sub.1_PORT31000"
    (31000, "10.0.0.1")).insert "sub.2_PORT31000" (31000, "10.0.0.2")).insert
      "sub.3_PORT31000" (31000, "10.0.0.3")

def threeSubsWorld : World :=
  ⟨{ testName := "ZMQScale", myaddr := "http://10.0.0.9:9800",
     apps := (∅ : Dict AppRecord).insert "/zst-sub" (.refreshed threeSubs) },
    []⟩

theorem threeSubs_selectsDistinct_iff :
    SelectsDistinct threeSubsWorld "/zst-sub" threeSubs 2 id ↔
      2 < threeSubs.ipPortMap.keys.length ∧
        DrawsDiffer threeSubs.ipPortMap.keys.length 2 id :=
  selectsDistinct_iff rfl

/-- Any number of instances up to all of them is selected without
repetition. -/
def SelectionsDistinct : Prop :=
  ∀ (world : World) (zstsub : String) (info : AppInfo) (cnt : Nat)
    (randint : Nat → Nat),
    world.hydra.apps.lookup zstsub = some (.refreshed info) →
      cnt ≤ info.ipPortMap.keys.length →
        SelectsDistinct world zstsub info cnt randint

/-- Both draws may give the first of three instances. -/
theorem threeSubs_selected_twice : ¬ SelectionsDistinct := by
  intro distinct
  have selects := distinct threeSubsWorld "/zst-sub" threeSubs 2 (fun _ => 0)
    rfl (by decide)
  obtain ⟨selected, returned, _, nodup, _⟩ := selects
  have drawn : randomSelectInstances "/zst-sub" 2 (fun _ => 0) threeSubsWorld =
      .ok ["sub.3_PORT31000", "sub.3_PORT31000"] threeSubsWorld := rfl
  rw [drawn] at returned
  cases returned
  exact absurd nodup (by decide)

end RunTestZMQ

end MScale
