import Mathlib.Data.List.Nodup
import Mathlib.Data.List.Lattice
import Mathlib.Logic.Function.Basic

/-!
# Exclusive shares

Members are handed out in shares.  The shares are exclusive when no share has
a member twice and no two shares have a member in common.  Shares that shrink
or disappear stay exclusive, and so do shares with a new one of free members.
-/

namespace MScale

namespace ExclusiveShares

variable {Share Member : Type*}

/-- The members of each existing share. -/
abbrev Shares (Share Member : Type*) := Share → Option (List Member)

/-- No member is handed out twice. -/
structure Exclusive (shares : Shares Share Member) : Prop where
  nodup : ∀ share members, shares share = some members → members.Nodup
  disjoint : ∀ first second members others, first ≠ second →
    shares first = some members → shares second = some others →
    members.Disjoint others

/-- Every share left existed before with at least its members. -/
def Shrinks (before after : Shares Share Member) : Prop :=
  ∀ share members, after share = some members →
    ∃ earlier, before share = some earlier ∧ members.Sublist earlier

theorem Shrinks.refl (shares : Shares Share Member) : Shrinks shares shares :=
  fun _ members found => ⟨members, found, List.Sublist.refl members⟩

theorem Shrinks.trans {first second third : Shares Share Member}
    (shrinks : Shrinks first second) (shrinksMore : Shrinks second third) :
    Shrinks first third := by
  intro share members found
  obtain ⟨middle, foundMiddle, sublist⟩ := shrinksMore share members found
  obtain ⟨earlier, foundEarlier, sublistMore⟩ := shrinks share middle foundMiddle
  exact ⟨earlier, foundEarlier, sublist.trans sublistMore⟩

/-- Shares that shrink stay exclusive. -/
theorem Exclusive.shrinks {before after : Shares Share Member}
    (exclusive : Exclusive before) (shrinks : Shrinks before after) :
    Exclusive after := by
  constructor
  · intro share members found
    obtain ⟨earlier, foundEarlier, sublist⟩ := shrinks share members found
    exact (exclusive.nodup share earlier foundEarlier).sublist sublist
  · intro first second members others different found foundOther member
      memberFirst memberSecond
    obtain ⟨earlier, foundEarlier, sublist⟩ := shrinks first members found
    obtain ⟨earlier', foundEarlier', sublist'⟩ :=
      shrinks second others foundOther
    exact exclusive.disjoint first second earlier earlier' different
      foundEarlier foundEarlier' (sublist.subset memberFirst)
      (sublist'.subset memberSecond)

theorem exclusive_none :
    Exclusive (fun _ => none : Shares Share Member) := by
  constructor
  · intro share members found
    cases found
  · intro first second members others different found
    cases found

variable [DecidableEq Share]

/-- A share of members that are in no other share keeps the shares
exclusive. -/
theorem Exclusive.update {shares : Shares Share Member}
    (exclusive : Exclusive shares) {share : Share} {members : List Member}
    (nodup : members.Nodup)
    (free : ∀ other others, other ≠ share → shares other = some others →
      members.Disjoint others) :
    Exclusive (Function.update shares share (some members)) := by
  constructor
  · intro other others found
    by_cases same : other = share
    · rw [same, Function.update_self] at found
      rw [← Option.some.inj found]
      exact nodup
    · rw [Function.update_of_ne same] at found
      exact exclusive.nodup other others found
  · intro first second members' others different found foundOther
    by_cases firstNew : first = share
    · rw [firstNew, Function.update_self] at found
      have secondOld : second ≠ share := fun same =>
        different (firstNew.trans same.symm)
      rw [Function.update_of_ne secondOld] at foundOther
      rw [← Option.some.inj found]
      exact free second others secondOld foundOther
    · rw [Function.update_of_ne firstNew] at found
      by_cases secondNew : second = share
      · rw [secondNew, Function.update_self] at foundOther
        rw [← Option.some.inj foundOther]
        exact (free first members' firstNew found).symm
      · rw [Function.update_of_ne secondNew] at foundOther
        exact exclusive.disjoint first second members' others different found
          foundOther

/-- A share that shrinks in place, or leaves. -/
theorem shrinks_update {shares : Shares Share Member} {share : Share}
    {left : Option (List Member)}
    (less : ∀ members, left = some members →
      ∃ earlier, shares share = some earlier ∧ members.Sublist earlier) :
    Shrinks shares (Function.update shares share left) := by
  intro other members found
  by_cases same : other = share
  · rw [same, Function.update_self] at found
    rw [same]
    exact less members found
  · rw [Function.update_of_ne same] at found
    exact ⟨members, found, List.Sublist.refl members⟩

end ExclusiveShares

end MScale
