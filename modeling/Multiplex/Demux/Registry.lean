/-!
# Registries

A registry keeps values under handles. Slots are used again, and each slot counts how often it was
vacated; a handle names a slot and its count, so that a handle never leads to a later value of the
same slot.
-/

namespace Multiplex.Demux

/-- A handle: a slot, and how often the slot had been vacated before. -/
structure FilterId where
  index : Nat
  generation : UInt32
  deriving DecidableEq

namespace FilterId

/-- The text of a handle. -/
def text (id : FilterId) : String :=
  "filter#" ++ toString id.index ++ "." ++ toString id.generation.toNat

end FilterId

/-- A place for a value. -/
structure Slot (α : Type) where
  generation : UInt32
  value? : Option α

/-- The slot without its value, counted as vacated once more. -/
def Slot.vacated (s : Slot α) : Slot α := ⟨s.generation + 1, none⟩

/-- Values under handles. `free` lists the vacant slots, the one to be used next in front. -/
structure Registry (α : Type) where
  slots : List (Slot α) := []
  free : List Nat := []
  size : Nat := 0

namespace Registry

/-- The registry without values. -/
def empty : Registry α := {}

/-- The slot a handle names, if the handle is of the slot's present generation. -/
def slot? (r : Registry α) (id : FilterId) : Option (Slot α) :=
  (r.slots[id.index]?).filter (·.generation == id.generation)

/-- The value under a handle. -/
def get? (r : Registry α) (id : FilterId) : Option α := (r.slot? id).bind (·.value?)

/-- Adds a value, in a vacant slot if there is one. -/
def insert (r : Registry α) (a : α) : FilterId × Registry α :=
  match r.free with
  | index :: free =>
    let generation := (r.slots[index]?.map (·.generation)).getD 0
    (⟨index, generation⟩, ⟨r.slots.set index ⟨generation, some a⟩, free, r.size + 1⟩)
  | [] => (⟨r.slots.length, 0⟩, ⟨r.slots ++ [⟨0, some a⟩], [], r.size + 1⟩)

/-- Takes out the value under a handle. -/
def remove (r : Registry α) (id : FilterId) : Option (α × Registry α) :=
  (r.slot? id).bind fun slot => slot.value?.map fun a =>
    (a, ⟨r.slots.set id.index slot.vacated, id.index :: r.free, r.size - 1⟩)

/-- The values in the order of their slots. -/
def values (r : Registry α) : List α := r.slots.filterMap (·.value?)

/-- The slots that hold a value, in ascending order. -/
def occupied (r : Registry α) : List Nat :=
  (r.slots.zipIdx.filter (·.1.value?.isSome)).map (·.2)

/-- Takes out all values, in the order of their slots. -/
def drain (r : Registry α) : List α × Registry α :=
  (r.values, {
    slots := r.slots.map fun s => if s.value?.isSome then s.vacated else s
    free := r.occupied.reverse ++ r.free
    size := 0 })

end Registry

end Multiplex.Demux
