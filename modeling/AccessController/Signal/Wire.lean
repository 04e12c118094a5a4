/-!
# Registered wires

A wire has the level that every reader sees during a tick and the value that
its driver has put up for the next clock edge. Driving leaves the level alone
and committing makes the driven value the level, so what a component reads
during a tick does not depend on who has ticked before it.
-/

namespace AccessController

universe u

/-- A registered wire. A driven value stays until the wire is driven again. -/
structure Wire (α : Type u) where
  level : α
  next : α
  deriving Repr, DecidableEq

namespace Wire

variable {α : Type u}

/-- A wire at rest at a level. -/
def rest (level : α) : Wire α := ⟨level, level⟩

/-- Puts up a value for the next clock edge. -/
def drive (wire : Wire α) (value : α) : Wire α := { wire with next := value }

/-- The clock edge. -/
def commit (wire : Wire α) : Wire α := rest wire.next

/-- Sets the wire past the clock: the level and the value put up for the next
edge alike. -/
def force (_wire : Wire α) (value : α) : Wire α := rest value

/-- Drives the wire if the condition holds. -/
def driveIf (condition : Bool) (wire : Wire α) (value : α) : Wire α :=
  if condition then wire.drive value else wire

@[simp] theorem level_rest (value : α) : (rest value).level = value := rfl

@[simp] theorem next_rest (value : α) : (rest value).next = value := rfl

@[simp] theorem level_drive (wire : Wire α) (value : α) :
    (wire.drive value).level = wire.level := rfl

@[simp] theorem next_drive (wire : Wire α) (value : α) :
    (wire.drive value).next = value := rfl

@[simp] theorem level_commit (wire : Wire α) : wire.commit.level = wire.next := rfl

@[simp] theorem next_commit (wire : Wire α) : wire.commit.next = wire.next := rfl

@[simp] theorem level_driveIf (condition : Bool) (wire : Wire α) (value : α) :
    (wire.driveIf condition value).level = wire.level := by
  cases condition <;> rfl

end Wire

end AccessController
