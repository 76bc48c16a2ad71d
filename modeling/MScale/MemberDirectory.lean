import Mathlib.Data.Set.Basic
import Mathlib.Logic.Function.Basic

/-!
# Directories with groups of members

A directory has a row of ids under every key, and groups that each refer to
members of one row.  It resolves when no group refers to an id that is missing
from its row.  This file determines which changes of a directory keep it
resolving.
-/

namespace MScale

/-- Rows of ids, and groups that refer to ids of one row each. -/
@[ext]
structure Directory (Key Group Id : Type*) where
  rows : Key → Set Id
  groups : Group → Option (Key × Set Id)

namespace Directory

variable {Key Group Id : Type*}

/-- Every member of every group is in the row of the group. -/
def Resolves (directory : Directory Key Group Id) : Prop :=
  ∀ group key members, directory.groups group = some (key, members) →
    members ⊆ directory.rows key

/-- All groups on `key` stay within `ids`. -/
def Covers (directory : Directory Key Group Id) (key : Key) (ids : Set Id) :
    Prop :=
  ∀ group members, directory.groups group = some (key, members) →
    members ⊆ ids

/-- In a resolving directory, groups on an empty row have no members. -/
theorem Resolves.covers_of_row_empty {directory : Directory Key Group Id}
    (resolves : directory.Resolves) {key : Key}
    (empty : directory.rows key = ∅) (ids : Set Id) :
    directory.Covers key ids := by
  intro group members found id member
  have inRow := resolves group key members found member
  rw [empty] at inRow
  exact inRow.elim

section Rows

variable [DecidableEq Key]

/-- A new row under `key`. -/
def replaceRow (directory : Directory Key Group Id) (key : Key)
    (ids : Set Id) : Directory Key Group Id :=
  { directory with rows := Function.update directory.rows key ids }

/-- Take ids out of the row of `key` and out of all groups. -/
def dropIds (directory : Directory Key Group Id) (key : Key) (ids : Set Id) :
    Directory Key Group Id where
  rows := Function.update directory.rows key (directory.rows key \ ids)
  groups group := (directory.groups group).map fun entry =>
    (entry.1, entry.2 \ ids)

variable {directory : Directory Key Group Id}

/-- A replaced row keeps the directory resolving exactly if it covers the
groups on its key. -/
theorem Resolves.replaceRow_iff (resolves : directory.Resolves) {key : Key}
    {ids : Set Id} :
    (directory.replaceRow key ids).Resolves ↔ directory.Covers key ids := by
  constructor
  · intro resolvesAfter group members found
    have within := resolvesAfter group key members found
    simpa [replaceRow] using within
  · intro covers group other members found
    by_cases same : other = key
    · subst same
      simpa [replaceRow] using covers group members found
    · simpa [replaceRow, same] using resolves group other members found

/-- Ids that leave a row and all groups leave nothing behind. -/
theorem Resolves.dropIds (resolves : directory.Resolves) (key : Key)
    (ids : Set Id) : (directory.dropIds key ids).Resolves := by
  intro group other members found
  simp only [Directory.dropIds, Option.map_eq_some_iff] at found
  obtain ⟨⟨key', members'⟩, before, entryEq⟩ := found
  cases entryEq
  have within := resolves group _ _ before
  intro id member
  obtain ⟨wasMember, kept⟩ := member
  by_cases same : key' = key
  · subst same
    simpa [Directory.dropIds] using ⟨within wasMember, kept⟩
  · simpa [Directory.dropIds, same] using within wasMember

end Rows

section Groups

variable [DecidableEq Group]

/-- A new or changed group. -/
def setGroup (directory : Directory Key Group Id) (group : Group) (key : Key)
    (members : Set Id) : Directory Key Group Id :=
  { directory with
    groups := Function.update directory.groups group (some (key, members)) }

def removeGroup (directory : Directory Key Group Id) (group : Group) :
    Directory Key Group Id :=
  { directory with groups := Function.update directory.groups group none }

variable {directory : Directory Key Group Id}

/-- A new or changed group whose members are in its row keeps the directory
resolving. -/
theorem Resolves.setGroup (resolves : directory.Resolves) {group : Group}
    {key : Key} {members : Set Id} (within : members ⊆ directory.rows key) :
    (directory.setGroup group key members).Resolves := by
  intro other key' members' found
  by_cases same : other = group
  · subst same
    have entryEq : (key, members) = (key', members') := by
      simpa [Directory.setGroup] using found
    cases entryEq
    exact within
  · exact resolves other key' members' (by
      simpa [Directory.setGroup, same] using found)

theorem Resolves.removeGroup (resolves : directory.Resolves) (group : Group) :
    (directory.removeGroup group).Resolves := by
  intro other key members found
  by_cases same : other = group
  · subst same
    simp [Directory.removeGroup] at found
  · exact resolves other key members (by
      simpa [Directory.removeGroup, same] using found)

end Groups

end Directory

end MScale
