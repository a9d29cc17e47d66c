import Metering.Text.Quoted

/-!
# The two kinds of usage

Usage is recorded for processes and for services. Each kind has its own
ledger, consumers and snapshots, kept under names of their own, and its own
pair of states that open and close the use of a resource. `PerKind` is one
value for each kind; changing the one leaves the other as it was.
-/

namespace Metering

inductive Kind where
  | process
  | service
deriving DecidableEq, Repr, Inhabited

/-- What an event says happened to its resource. -/
inductive EventState where
  | started
  | stopped
  | buildpackSet
  | taskStarted
  | taskStopped
  | created
  | updated
  | deleted
deriving DecidableEq, Repr, Inhabited

namespace EventState

def all : List EventState :=
  [.started, .stopped, .buildpackSet, .taskStarted, .taskStopped, .created, .updated, .deleted]

def name : EventState → String
  | .started => "STARTED"
  | .stopped => "STOPPED"
  | .buildpackSet => "BUILDPACK_SET"
  | .taskStarted => "TASK_STARTED"
  | .taskStopped => "TASK_STOPPED"
  | .created => "CREATED"
  | .updated => "UPDATED"
  | .deleted => "DELETED"

/-- The state with exactly this name. -/
def ofName? (s : String) : Option EventState :=
  all.find? (·.name = s)

/-- What is said about a name that no state has. -/
def unknown (s : String) : String :=
  "unknown event state " ++ Text.quoted s

/-- The state with this name in either case. -/
def parse (s : String) : Except String EventState :=
  match ofName? s.toUpper with
  | some state => .ok state
  | none => .error (unknown s)

theorem ofName?_name (s : EventState) : ofName? s.name = some s := by
  cases s <;> decide

end EventState

namespace Kind

def all : List Kind := [.process, .service]

def name : Kind → String
  | .process => "process"
  | .service => "service"

/-- The kind with exactly this name. -/
def ofName? (s : String) : Option Kind :=
  all.find? (·.name = s)

/-- The kind that a user means by a word: its name, or the older word for processes. -/
def parse (s : String) : Except String Kind :=
  if s = "app" then .ok .process
  else
    match ofName? s with
    | some kind => .ok kind
    | none => .error ("unknown ledger kind " ++ Text.quoted s ++ " (expected process or service)")

/-- What the names of a kind's records and measurements start with. -/
def usageName : Kind → String
  | .process => "process_usage"
  | .service => "service_usage"

/-- The name under which a kind's events are kept. -/
def eventTable (k : Kind) : String := k.usageName ++ "_events"

/-- The name under which a kind's consumers are kept. -/
def consumerTable (k : Kind) : String := k.usageName ++ "_consumers"

/-- The column that holds an event's resource. -/
def resourceColumn : Kind → String
  | .process => "app_guid"
  | .service => "service_instance_guid"

/-- The state that opens the use of a resource; an event without a state is in it. -/
def opening : Kind → EventState
  | .process => .started
  | .service => .created

/-- The state that closes the use of a resource. -/
def closing : Kind → EventState
  | .process => .stopped
  | .service => .deleted

/-- Whether the resources of a kind belong to a parent that snapshots count. -/
def tracksParents : Kind → Bool
  | .process => true
  | .service => false

/-- The measurement of how long generating a snapshot took. -/
def durationMetric (k : Kind) : String := k.usageName ++ "_snapshot_generation_duration_seconds"

/-- The measurement of how often generating a snapshot failed. -/
def failureMetric (k : Kind) : String := k.usageName ++ "_snapshot_generation_failures_total"

end Kind

/-- One value for each kind. -/
structure PerKind (α : Type) where
  process : α
  service : α
deriving DecidableEq, Repr, Inhabited

namespace PerKind

variable {α : Type}

def get (p : PerKind α) : Kind → α
  | .process => p.process
  | .service => p.service

def set (p : PerKind α) (k : Kind) (a : α) : PerKind α :=
  match k with
  | .process => { p with process := a }
  | .service => { p with service := a }

/-- The same value for both kinds. -/
def replicate (a : α) : PerKind α := ⟨a, a⟩

@[simp] theorem get_replicate (a : α) (k : Kind) : (replicate a).get k = a := by
  cases k <;> rfl

@[simp] theorem get_set_self (p : PerKind α) (k : Kind) (a : α) : (p.set k a).get k = a := by
  cases k <;> rfl

theorem get_set_of_ne (p : PerKind α) {j k : Kind} (h : j ≠ k) (a : α) :
    (p.set k a).get j = p.get j := by
  cases j <;> cases k
  · exact absurd rfl h
  · rfl
  · rfl
  · exact absurd rfl h

@[simp] theorem set_get_self (p : PerKind α) (k : Kind) : p.set k (p.get k) = p := by
  cases k <;> rfl

end PerKind

end Metering
