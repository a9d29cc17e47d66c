import Metering.Inventory.Cell
import Metering.Inventory.Table

/-!
# The inventory of the platform

What the platform runs: organizations with their spaces, the apps in a space
with their droplets and processes, and service instances with what they are
instances of. A space names its organization, and an instance its space, by
number, so these have to exist and cannot be removed before what names them.
Apps, droplets and processes are named by guid, and such a name may lead
nowhere.
-/

namespace Metering.Inventory

structure Organization where
  name : String
deriving DecidableEq, Repr

structure Space where
  name : String
  organization : Nat
deriving DecidableEq, Repr

structure App where
  name : String
  space : String
  droplet : Option String
deriving DecidableEq, Repr

structure Droplet where
  app : String
  buildpackGuid : Option String
  buildpackName : Option String
deriving DecidableEq, Repr

structure Process where
  app : String
  type : String
  state : String
  instances : Cell
  memory : Cell
deriving DecidableEq, Repr

structure Broker where
  name : String
deriving DecidableEq, Repr

structure Offering where
  label : String
  broker : Option Nat
deriving DecidableEq, Repr

structure Plan where
  name : String
  offering : Option Nat
deriving DecidableEq, Repr

structure ServiceInstance where
  name : String
  space : Nat
  plan : Option Nat
  /-- Whether the platform manages the instance: any number but zero. -/
  managed : Cell
deriving DecidableEq, Repr

end Inventory

structure Inventory where
  organizations : Inventory.Table Inventory.Organization
  spaces : Inventory.Table Inventory.Space
  apps : Inventory.Table Inventory.App
  droplets : Inventory.Table Inventory.Droplet
  processes : Inventory.Table Inventory.Process
  brokers : Inventory.Table Inventory.Broker
  offerings : Inventory.Table Inventory.Offering
  plans : Inventory.Table Inventory.Plan
  instances : Inventory.Table Inventory.ServiceInstance
deriving DecidableEq, Repr

namespace Inventory

def empty : Inventory :=
  ⟨.empty, .empty, .empty, .empty, .empty, .empty, .empty, .empty, .empty⟩

instance : Inhabited Inventory := ⟨empty⟩

/-- The value of a column that must have one. -/
def present {α : Type} (table column : String) (value : Option α) : Except Error α :=
  match value with
  | some v => .ok v
  | none => .error (.database (.notNull (table ++ "." ++ column)))

/-- The cell of a column that must have a value. -/
def presentCell (table column : String) (value : Cell) : Except Error Cell :=
  match value with
  | .null => .error (.database (.notNull (table ++ "." ++ column)))
  | cell => .ok cell

/-! ## Adding rows -/

section Adding

variable (guid name : Option String) (inv : Inventory)

def addOrganization : Except Error Inventory := do
  let guid ← present "organizations" "guid" guid
  let name ← present "organizations" "name" name
  let table ← inv.organizations.insert "organizations" guid ⟨name⟩
  pure { inv with organizations := table }

def addSpace (organization : Option String) : Except Error Inventory := do
  let guid ← present "spaces" "guid" guid
  let name ← present "spaces" "name" name
  let organization ← present "spaces" "organization_id"
    (organization.bind inv.organizations.withGuid?)
  let table ← inv.spaces.insert "spaces" guid ⟨name, organization.id⟩
  pure { inv with spaces := table }

def addApp (space droplet : Option String) : Except Error Inventory := do
  let guid ← present "apps" "guid" guid
  let name ← present "apps" "name" name
  let space ← present "apps" "space_guid" space
  let table ← inv.apps.insert "apps" guid ⟨name, space, droplet⟩
  pure { inv with apps := table }

def addDroplet (app buildpackGuid buildpackName : Option String) : Except Error Inventory := do
  let guid ← present "droplets" "guid" guid
  let app ← present "droplets" "app_guid" app
  let table ← inv.droplets.insert "droplets" guid ⟨app, buildpackGuid, buildpackName⟩
  pure { inv with droplets := table }

def addProcess (app type state : Option String) (instances memory : Cell) :
    Except Error Inventory := do
  let guid ← present "processes" "guid" guid
  let app ← present "processes" "app_guid" app
  let type ← present "processes" "type" type
  let state ← present "processes" "state" state
  let table ← inv.processes.insert "processes" guid ⟨app, type, state, instances, memory⟩
  pure { inv with processes := table }

def addBroker : Except Error Inventory := do
  let guid ← present "service_brokers" "guid" guid
  let name ← present "service_brokers" "name" name
  let table ← inv.brokers.insert "service_brokers" guid ⟨name⟩
  pure { inv with brokers := table }

def addOffering (broker : Option String) : Except Error Inventory := do
  let guid ← present "services" "guid" guid
  let label ← present "services" "label" name
  let broker := broker.bind inv.brokers.withGuid?
  let table ← inv.offerings.insert "services" guid ⟨label, broker.map (·.id)⟩
  pure { inv with offerings := table }

def addPlan (offering : Option String) : Except Error Inventory := do
  let guid ← present "service_plans" "guid" guid
  let name ← present "service_plans" "name" name
  let offering := offering.bind inv.offerings.withGuid?
  let table ← inv.plans.insert "service_plans" guid ⟨name, offering.map (·.id)⟩
  pure { inv with plans := table }

def addInstance (space plan : Option String) (managed : Cell) : Except Error Inventory := do
  let guid ← present "service_instances" "guid" guid
  let name ← present "service_instances" "name" name
  let space ← present "service_instances" "space_id" (space.bind inv.spaces.withGuid?)
  let plan := plan.bind inv.plans.withGuid?
  let managed ← presentCell "service_instances" "is_gateway_service" managed
  let table ← inv.instances.insert "service_instances" guid
    ⟨name, space.id, plan.map (·.id), managed⟩
  pure { inv with instances := table }

end Adding

/-! ## Removing rows -/

/-- Whether any row of a table satisfies a condition on the number it names. -/
def names {α : Type} (t : Table α) (reference : α → Option Nat) (id : Nat) : Bool :=
  t.entries.any fun e => reference e.value = some id

/-- Removes the row with a guid from a table, unless another row names its number. -/
def removeFrom {α : Type} (t : Table α) (guid : String) (isNamed : Nat → Bool)
    (put : Table α → Inventory) : Except Error (Nat × Inventory) :=
  match t.withGuid? guid with
  | none => .ok (0, put t)
  | some e => if isNamed e.id then .error (.database .foreignKey) else .ok (1, put (t.remove guid))

/-- Removes the row with a guid from the table of a name. -/
def remove (table guid : String) (inv : Inventory) : Except Error (Nat × Inventory) :=
  let free : Nat → Bool := fun _ => false
  if table = "organizations" then
    removeFrom inv.organizations guid (names inv.spaces (some ·.organization))
      ({ inv with organizations := · })
  else if table = "spaces" then
    removeFrom inv.spaces guid (names inv.instances (some ·.space)) ({ inv with spaces := · })
  else if table = "apps" then removeFrom inv.apps guid free ({ inv with apps := · })
  else if table = "droplets" then removeFrom inv.droplets guid free ({ inv with droplets := · })
  else if table = "processes" then removeFrom inv.processes guid free ({ inv with processes := · })
  else if table = "service_brokers" then
    removeFrom inv.brokers guid (names inv.offerings (·.broker)) ({ inv with brokers := · })
  else if table = "services" then
    removeFrom inv.offerings guid (names inv.plans (·.offering)) ({ inv with offerings := · })
  else if table = "service_plans" then
    removeFrom inv.plans guid (names inv.instances (·.plan)) ({ inv with plans := · })
  else if table = "service_instances" then
    removeFrom inv.instances guid free ({ inv with instances := · })
  else .error (.database (.missingTable table))

/-! ## Changing processes -/

/-- The columns of a process that can be changed. -/
inductive ProcessColumn where
  | app
  | type
  | state
  | instances
  | memory
deriving DecidableEq, Repr

def ProcessColumn.name : ProcessColumn → String
  | .app => "app_guid"
  | .type => "type"
  | .state => "state"
  | .instances => "instances"
  | .memory => "memory"

/-- The process with a column changed, the text given as it is and as a cell. -/
def Process.set (column : ProcessColumn) (text : String) (cell : Cell) (p : Process) : Process :=
  match column with
  | .app => { p with app := text }
  | .type => { p with type := text }
  | .state => { p with state := text }
  | .instances => { p with instances := cell }
  | .memory => { p with memory := cell }

/-- Whether a column of a process must have a value. -/
def ProcessColumn.isRequired : ProcessColumn → Bool
  | .app | .type | .state => true
  | .instances | .memory => false

/-- Changes a column of the process with a guid. -/
def setProcess (guid : String) (column : ProcessColumn) (text : Option String) (cell : Cell)
    (inv : Inventory) : Except Error (Nat × Inventory) :=
  let hits := inv.processes.count guid
  if 0 < hits ∧ text = none ∧ column.isRequired then
    .error (.database (.notNull ("processes." ++ column.name)))
  else
    .ok (hits,
      { inv with processes := inv.processes.amend guid (Process.set column (text.getD "") cell) })

/-- Adds a running web process to an app, which comes first when it is new. -/
def addRunning (space app guid : String) (instances : Cell) (inv : Inventory) :
    Except Error Inventory := do
  let inv ← if (inv.apps.withGuid? app).isSome then pure inv
    else inv.addApp (some app) (some (app ++ "-name")) (some space) none
  inv.addProcess (some guid) (some app) (some "web") (some "STARTED") instances (.int 64)

/-- The number of rows in the table of a name. -/
def count? (table : String) (inv : Inventory) : Option Nat :=
  [("organizations", inv.organizations.size), ("spaces", inv.spaces.size),
    ("apps", inv.apps.size), ("droplets", inv.droplets.size), ("processes", inv.processes.size),
    ("service_brokers", inv.brokers.size), ("services", inv.offerings.size),
    ("service_plans", inv.plans.size), ("service_instances", inv.instances.size)].lookup table

end Inventory

end Metering
