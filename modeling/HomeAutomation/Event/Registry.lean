/-
  HomeAutomation.Event.Registry

  The registered events, one for each condition. Every event that was ever made keeps its number, so
  that one that is no longer registered can still be looked at. Beside the list of registered
  events the registry keeps an index by what the events watch, which it searches for readings.
-/
import HomeAutomation.Event.Basic

namespace HomeAutomation

/-- The events of one metric at one location, oldest first. -/
structure EventBucket where
  key : String × String
  events : List Nat
  deriving DecidableEq, Repr

/-- The registry of events. -/
structure EventRegistry (α : Type) where
  /-- Every event ever made; its number is its place. -/
  made : List (Event α) := []
  /-- The numbers of the registered events, oldest first. -/
  registered : List Nat := []
  /-- The registered events by what they watch. -/
  index : List EventBucket := []
  deriving Repr, Inhabited

namespace EventRegistry

variable {α : Type}

/-- The event of a number. -/
def event? (r : EventRegistry α) (id : Nat) : Option (Event α) := r.made[id]?

/-- Changes the event of a number. -/
def modify (r : EventRegistry α) (id : Nat) (f : Event α → Event α) : EventRegistry α :=
  { r with made := r.made.modify id f }

/-- How many events are registered. -/
def size (r : EventRegistry α) : Nat := r.registered.length

/-- The registered event of a condition. -/
def find? (r : EventRegistry α) (c : Condition) : Option Nat :=
  r.registered.find? fun id => (r.event? id).any fun e => e.condition.same c

/-- Whether a condition has a registered event. -/
def contains (r : EventRegistry α) (c : Condition) : Bool := (r.find? c).isSome

/-- Enters an event into the index, in the bucket of its key or in a new one. -/
def enterIndex (key : String × String) (id : Nat) : List EventBucket → List EventBucket
  | [] => [⟨key, [id]⟩]
  | bucket :: rest =>
    if bucket.key = key then { bucket with events := bucket.events ++ [id] } :: rest
    else bucket :: enterIndex key id rest

/-- Takes an event out of the index; a bucket without events is dropped. -/
def leaveIndex (key : String × String) (id : Nat) : List EventBucket → List EventBucket
  | [] => []
  | bucket :: rest =>
    if bucket.key = key then
      match bucket.events.erase id with
      | [] => rest
      | left => { bucket with events := left } :: rest
    else bucket :: leaveIndex key id rest

/-- The event of a condition, made and registered if there is none; tells whether it is new. -/
def getOrCreate (r : EventRegistry α) (c : Condition) :
    Except Event.UnknownOperator (EventRegistry α × Nat × Bool) :=
  match r.find? c with
  | some id => .ok (r, id, false)
  | none => do
    let e ← Event.ofCondition c
    let id := r.made.length
    return ({ made := r.made ++ [e], registered := r.registered ++ [id],
              index := enterIndex c.key id r.index }, id, true)

/-- The registered events that watch a metric at a location, oldest first. -/
def matching (r : EventRegistry α) (metric location : String) : List Nat :=
  ((r.index.find? fun bucket => bucket.key = (metric, location)).map (·.events)).getD []

/-- Removes an event from the registry; tells whether it was registered. -/
def remove (r : EventRegistry α) (id : Nat) : EventRegistry α × Bool :=
  match r.event? id with
  | some e =>
    if id ∈ r.registered then
      ({ r with registered := r.registered.erase id,
                index := leaveIndex e.condition.key id r.index }, true)
    else (r, false)
  | none => (r, false)

/-- Removes an event that no action waits for; tells whether it was removed. -/
def prune (r : EventRegistry α) (id : Nat) : EventRegistry α × Bool :=
  match r.event? id with
  | some e => if e.actions.isEmpty then r.remove id else (r, false)
  | none => (r, false)

/-- Adds an action to an event. -/
def attach [DecidableEq α] (r : EventRegistry α) (id : Nat) (action : α) : EventRegistry α :=
  r.modify id (·.attach action)

/-- Removes an action from an event; tells whether it was there. -/
def detach [DecidableEq α] (r : EventRegistry α) (id : Nat) (action : α) :
    EventRegistry α × Bool :=
  match r.event? id with
  | some e => (r.modify id fun _ => (e.detach action).1, (e.detach action).2)
  | none => (r, false)

/-- The registered events with their numbers. -/
def events (r : EventRegistry α) : List (Nat × Event α) :=
  r.registered.filterMap fun id => (r.event? id).map (id, ·)

end EventRegistry

end HomeAutomation
