import Mathlib.Data.List.Basic
import Mathlib.Data.List.GetD

/-!
# Records behind references

A program may keep a reference to a mutable record in several places.  Writing
through one of them changes what every reader finds.  In particular, a loop
that fills one record again and again and collects its reference each time
collects copies of the last record only.
-/

namespace MScale

namespace References

variable {Record Item : Type*}

/-- The records that exist, where a reference is the position of its record. -/
structure Heap (Record : Type*) where
  records : List Record

abbrev Ref := Nat

namespace Heap

/-- A new record gets the next reference. -/
def alloc (heap : Heap Record) (record : Record) : Ref × Heap Record :=
  (heap.records.length, ⟨heap.records ++ [record]⟩)

def read (heap : Heap Record) (ref : Ref) : Option Record :=
  heap.records[ref]?

def write (heap : Heap Record) (ref : Ref) (record : Record) : Heap Record :=
  ⟨heap.records.set ref record⟩

/-- What a reader of a list of references finds. -/
def readAll (heap : Heap Record) (refs : List Ref) : Option (List Record) :=
  refs.mapM heap.read

theorem read_alloc (heap : Heap Record) (record : Record) :
    (heap.alloc record).2.read (heap.alloc record).1 = some record := by
  simp [alloc, read]

theorem read_write {heap : Heap Record} {ref : Ref} {before : Record}
    (present : heap.read ref = some before) (record : Record) :
    (heap.write ref record).read ref = some record := by
  obtain ⟨within, _⟩ := List.getElem?_eq_some_iff.mp present
  rw [read, write, List.getElem?_set_self within]

theorem readAll_replicate {heap : Heap Record} {ref : Ref} {record : Record}
    (present : heap.read ref = some record) (count : Nat) :
    heap.readAll (List.replicate count ref) =
      some (List.replicate count record) := by
  induction count with
  | zero => rfl
  | succ count ih =>
      rw [readAll] at ih ⊢
      rw [List.replicate_succ, List.mapM_cons, present, ih]
      rfl

/-- Write one record for each item through the same reference. -/
def writeEach (ref : Ref) (value : Item → Record) (items : List Item)
    (heap : Heap Record) : Heap Record :=
  items.foldl (fun heap item => heap.write ref (value item)) heap

/-- Only the last of the records remains. -/
theorem read_writeEach {heap : Heap Record} {ref : Ref} {before : Record}
    (present : heap.read ref = some before) (value : Item → Record)
    (items : List Item) :
    (heap.writeEach ref value items).read ref =
      some ((items.map value).getLastD before) := by
  induction items generalizing heap before with
  | nil => exact present
  | cons item items ih =>
      rw [List.map_cons, List.getLastD_cons]
      exact ih (read_write present (value item))

end Heap

/-- Copies of the last value are the values exactly if these are all the same,
whatever stands before the first. -/
theorem forall_eq_getLastD_iff {values : List Record} {before : Record} :
    (∀ value ∈ values, value = values.getLastD before) ↔
      ∀ first ∈ values, ∀ second ∈ values, first = second := by
  constructor
  · intro last first firstMem second secondMem
    rw [last first firstMem, last second secondMem]
  · intro same value member
    apply same value member
    rw [List.getLastD_eq_getLast?, List.getLast?_eq_some_getLast
      (List.ne_nil_of_mem member), Option.getD_some]
    exact List.getLast_mem _

end References

end MScale
