import Metering.Active.Source
import Metering.Inventory.Basic
import Metering.Kind
import Metering.Page

/-!
# What the inventory says is active

A process is active when it is started and not a task or a build, and its app,
its app's space and that space's organization exist. Every service instance is
active. The resources are listed by space, then by number, so a page can begin
at any place. A cell that does not hold a number where one is wanted makes its
row unreadable, and with it the page that the row is on.
-/

namespace Metering

open Metering.Inventory (Cell Entry)

namespace Inventory

/-- The number in a cell of a column, if any. -/
def Cell.whole (index : Nat) (column : String) : Cell → Except Error (Option Int)
  | .null => .ok none
  | .int n => .ok (some n)
  | other => .error (.database (.wrongType other.typeName index column))

end Inventory

/-- A resource on the list, under its place, with its row if that can be read. -/
structure Listed where
  space : String
  id : Nat
  row : Except Error ActiveResource

namespace Listed

/-- Whether a resource is listed before another. -/
def precedes (a b : Listed) : Bool :=
  a.space < b.space || (a.space = b.space && a.id ≤ b.id)

/-- Whether a resource is listed behind a place. -/
def isAfter (c : Cursor) (l : Listed) : Bool :=
  c.space < l.space || (c.space = l.space && c.id < l.id)

end Listed

namespace Inventory

/-- The item of a process in its app. -/
def processItem (e : Entry Process) (app : Entry App) (droplet : Option (Entry Droplet))
    (instances memory : Option Int) : ProcessItem where
  app := app.guid
  appName := app.value.name
  process := e.guid
  type := e.value.type
  instances := instances
  memory := memory
  buildpack := droplet.bind (·.value.buildpackGuid)
  buildpackName := droplet.bind (·.value.buildpackName)

/-- The row of a process. -/
def processRow (e : Entry Process) (app : Entry App) (droplet : Option (Entry Droplet))
    (space : Entry Space) (org : Entry Organization) : Except Error ActiveResource := do
  let instances ← e.value.instances.whole 3 "instances"
  let memory ← e.value.memory.whole 4 "memory"
  pure {
    id := e.id
    guid := e.guid
    parent := some app.guid
    space := some space.guid
    spaceName := some space.value.name
    org := some org.guid
    orgName := some org.value.name
    instances := instances.getD 0
    item := .process (processItem e app droplet instances memory) }

/-- Whether a process is started for as long as it is wanted. -/
def Process.isRunning (p : Process) : Bool :=
  p.state = "STARTED" && p.type ≠ "TASK" && p.type ≠ "build"

/-- A process on the list, if it is active. -/
def listProcess (inv : Inventory) (e : Entry Process) : Option Listed := do
  if e.value.isRunning then
    let app ← inv.apps.withGuid? e.value.app
    let space ← inv.spaces.withGuid? app.value.space
    let org ← inv.organizations.withId? space.value.organization
    let droplet := app.value.droplet.bind inv.droplets.withGuid?
    pure ⟨space.guid, e.id, processRow e app droplet space org⟩
  else none

/-- The item of a service instance. -/
def serviceItem (e : Entry ServiceInstance) (managed : Bool) (plan : Option (Entry Plan))
    (offering : Option (Entry Offering)) (broker : Option (Entry Broker)) : ServiceItem where
  service := e.guid
  serviceName := e.value.name
  type := if managed then "managed" else "user_provided"
  plan := plan.map (·.guid)
  planName := plan.map (·.value.name)
  offering := offering.map (·.guid)
  offeringName := offering.map (·.value.label)
  broker := broker.map (·.guid)
  brokerName := broker.map (·.value.name)

/-- The row of a service instance. -/
def serviceRow (inv : Inventory) (e : Entry ServiceInstance) (space : Entry Space)
    (org : Entry Organization) : Except Error ActiveResource := do
  let managed ← e.value.managed.whole 3 "is_gateway_service"
  let plan := e.value.plan.bind inv.plans.withId?
  let offering := plan.bind fun p => p.value.offering.bind inv.offerings.withId?
  let broker := offering.bind fun o => o.value.broker.bind inv.brokers.withId?
  pure {
    id := e.id
    guid := e.guid
    parent := none
    space := some space.guid
    spaceName := some space.value.name
    org := some org.guid
    orgName := some org.value.name
    instances := 1
    item := .service (serviceItem e (managed ≠ some 0) plan offering broker) }

/-- A service instance on the list. -/
def listInstance (inv : Inventory) (e : Entry ServiceInstance) : Option Listed := do
  let space ← inv.spaces.withId? e.value.space
  let org ← inv.organizations.withId? space.value.organization
  pure ⟨space.guid, e.id, serviceRow inv e space org⟩

/-- The active resources of a kind, by space and number. -/
def listing (inv : Inventory) (k : Kind) : List Listed :=
  let listed := match k with
    | .process => inv.processes.entries.filterMap (listProcess inv)
    | .service => inv.instances.entries.filterMap (listInstance inv)
  listed.mergeSort Listed.precedes

end Inventory

/-- The page of a listing after a place. -/
def Listed.page (listing : List Listed) (after : Option Cursor) (limit : Nat) :
    Except Error (List ActiveResource) :=
  let rest := match after with
    | none => listing
    | some c => listing.filter (Listed.isAfter c)
  (Page.take limit rest).mapM (·.row)

/-- The source of a kind's active resources. -/
def Inventory.source (inv : Inventory) (k : Kind) : Source :=
  let listing := inv.listing k
  { tracksParents := k.tracksParents
    fetch := fun _ after limit => Listed.page listing after limit
    maxPages := listing.length + 1 }

end Metering
