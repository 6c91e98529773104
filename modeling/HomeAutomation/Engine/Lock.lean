/-
  HomeAutomation.Engine.Lock

  Fair locks. A lock has at most one holder; tasks that find it held wait in line, and a release
  hands it to the first of them.
-/
import HomeAutomation.Table

namespace HomeAutomation

/-- A lock over numbered tasks: who holds it, followed by those who wait for it. -/
structure Lock where
  line : List Nat := []
  deriving DecidableEq, Repr, Inhabited

namespace Lock

/-- The task that holds the lock. -/
def holder? (lock : Lock) : Option Nat := lock.line.head?

/-- Whether a task holds the lock. -/
def heldBy (lock : Lock) (task : Nat) : Bool := lock.holder? == some task

/-- Asks for the lock: the task holds it at once if nobody does, else it waits. -/
def acquire (lock : Lock) (task : Nat) : Lock := ⟨lock.line ++ [task]⟩

/-- Gives the lock up; the next in line, if there is one, holds it. -/
def release (lock : Lock) : Lock := ⟨lock.line.tail⟩

end Lock

/-- Locks by name. A name without entry has a free lock. -/
abbrev LockTable := Table Lock

namespace LockTable

/-- The lock of a name. -/
def lock (locks : LockTable) (name : String) : Lock := (Table.get? locks name).getD {}

/-- Whether a task holds the lock of a name. -/
def heldBy (locks : LockTable) (name : String) (task : Nat) : Bool := (locks.lock name).heldBy task

/-- Asks for the lock of a name. -/
def acquire (locks : LockTable) (name : String) (task : Nat) : LockTable :=
  Table.set locks name ((locks.lock name).acquire task)

/-- Gives up the lock of a name; tells the task that holds it now. -/
def release (locks : LockTable) (name : String) : LockTable × Option Nat :=
  let lock := (locks.lock name).release
  (Table.set locks name lock, lock.holder?)

end LockTable

end HomeAutomation
