import Metering.Database
import Metering.Json.Codec

/-!
# Archived databases

A database is kept between two runs of the program as a text: a line that says
what the text is, and the database as a document behind it. The codec of a
database is put together from those of its tables.
-/

namespace Metering.Archive

open Metering.Json (Codec)
open Metering.Json.Codec

/-! ## Ledgers and consumers -/

def kind : Codec Kind :=
  named Kind.name Kind.ofName? fun k => by cases k <;> rfl

def perKind {α : Type} (a : Codec α) : Codec (PerKind α) :=
  (a.pair a).via (fun (p, s) => ⟨p, s⟩) (fun k => (k.process, k.service)) fun _ => rfl

def eventRow : Codec EventRow :=
  (int.pair <| text.pair <| int.pair <| text.pair <| text.pair <| text.option.pair <|
    text.option.pair <| text.option.pair <| text.option.pair text).via
    (fun (id, guid, created, state, resource, name, org, space, spaceName, payload) =>
      ⟨id, guid, created, state, resource, name, org, space, spaceName, payload⟩)
    (fun r => (r.id, r.guid, r.createdAt, r.state, r.resource, r.resourceName, r.org, r.space,
      r.spaceName, r.payload))
    fun _ => rfl

def ledger : Codec Ledger :=
  (eventRow.list.pair <| int.pair text.list).via
    (fun (rows, issued, guarded) => ⟨rows, issued, guarded⟩)
    (fun l => (l.rows, l.issued, l.guarded)) fun _ => rfl

def registration : Codec Registration :=
  (text.pair <| text.pair <| int.pair int).via
    (fun (consumer, watermark, created, updated) => ⟨consumer, watermark, created, updated⟩)
    (fun r => (r.consumer, r.watermark, r.createdAt, r.updatedAt)) fun _ => rfl

def books : Codec Books :=
  (ledger.pair <| registration.list.pair text.option.list).via
    (fun (ledger, consumers, statistics) => ⟨ledger, consumers, statistics⟩)
    (fun b => (b.ledger, b.consumers, b.statistics)) fun _ => rfl

/-! ## Snapshots -/

def snapshotRow : Codec SnapshotRow :=
  (int.pair <| text.pair <| kind.pair <| int.pair <| int.option.pair <| text.option.pair <|
    int.option.pair <| int.pair <| int.pair <| int.pair <| int.option.pair <| int.pair int).via
    (fun (id, guid, kind, created, completed, checkpoint, checkpointAt, instances, organizations,
        spaces, parents, resources, chunks) =>
      ⟨id, guid, kind, created, completed, checkpoint, checkpointAt, instances, organizations,
        spaces, parents, resources, chunks⟩)
    (fun r => (r.id, r.guid, r.kind, r.createdAt, r.completedAt, r.checkpoint, r.checkpointAt,
      r.instances, r.organizations, r.spaces, r.parents, r.resources, r.chunks))
    fun _ => rfl

def storedChunk : Codec StoredChunk :=
  (int.pair <| text.pair <| text.option.pair <| text.pair <| text.option.pair <|
    int.pair text).via
    (fun (snapshot, org, orgName, space, spaceName, index, items) =>
      ⟨snapshot, org, orgName, space, spaceName, index, items⟩)
    (fun c => (c.snapshot, c.org, c.orgName, c.space, c.spaceName, c.index, c.items))
    fun _ => rfl

def snapshots : Codec Snapshots :=
  (snapshotRow.list.pair <| storedChunk.list.pair int).via
    (fun (rows, chunks, issued) => ⟨rows, chunks, issued⟩)
    (fun s => (s.rows, s.chunks, s.issued)) fun _ => rfl

/-! ## Inventory -/

def cell : Codec Inventory.Cell where
  write
    | .null => .null
    | .int n => .int n
    | .real => .arr []
    | .text s => .str s
  read?
    | .null => some .null
    | .int n => some (.int n)
    | .arr [] => some .real
    | .str s => some (.text s)
    | _ => none
  read_write c := by cases c <;> rfl

def table {α : Type} (a : Codec α) : Codec (Inventory.Table α) :=
  let entry : Codec (Inventory.Entry α) :=
    (nat.pair <| text.pair a).via (fun (id, guid, value) => ⟨id, guid, value⟩)
      (fun e => (e.id, e.guid, e.value)) fun _ => rfl
  (entry.list.pair nat).via (fun (entries, issued) => ⟨entries, issued⟩)
    (fun t => (t.entries, t.issued)) fun _ => rfl

def organization : Codec Inventory.Organization :=
  text.via (⟨·⟩) (·.name) fun _ => rfl

def space : Codec Inventory.Space :=
  (text.pair nat).via (fun (name, organization) => ⟨name, organization⟩)
    (fun s => (s.name, s.organization)) fun _ => rfl

def app : Codec Inventory.App :=
  (text.pair <| text.pair text.option).via (fun (name, space, droplet) => ⟨name, space, droplet⟩)
    (fun a => (a.name, a.space, a.droplet)) fun _ => rfl

def droplet : Codec Inventory.Droplet :=
  (text.pair <| text.option.pair text.option).via (fun (app, guid, name) => ⟨app, guid, name⟩)
    (fun d => (d.app, d.buildpackGuid, d.buildpackName)) fun _ => rfl

def process : Codec Inventory.Process :=
  (text.pair <| text.pair <| text.pair <| cell.pair cell).via
    (fun (app, type, state, instances, memory) => ⟨app, type, state, instances, memory⟩)
    (fun p => (p.app, p.type, p.state, p.instances, p.memory)) fun _ => rfl

def broker : Codec Inventory.Broker :=
  text.via (⟨·⟩) (·.name) fun _ => rfl

def offering : Codec Inventory.Offering :=
  (text.pair nat.option).via (fun (label, broker) => ⟨label, broker⟩)
    (fun o => (o.label, o.broker)) fun _ => rfl

def plan : Codec Inventory.Plan :=
  (text.pair nat.option).via (fun (name, offering) => ⟨name, offering⟩)
    (fun p => (p.name, p.offering)) fun _ => rfl

def serviceInstance : Codec Inventory.ServiceInstance :=
  (text.pair <| nat.pair <| nat.option.pair cell).via
    (fun (name, space, plan, managed) => ⟨name, space, plan, managed⟩)
    (fun i => (i.name, i.space, i.plan, i.managed)) fun _ => rfl

def inventory : Codec Inventory :=
  ((table organization).pair <| (table space).pair <| (table app).pair <| (table droplet).pair <|
    (table process).pair <| (table broker).pair <| (table offering).pair <| (table plan).pair <|
    table serviceInstance).via
    (fun (organizations, spaces, apps, droplets, processes, brokers, offerings, plans,
        instances) =>
      ⟨organizations, spaces, apps, droplets, processes, brokers, offerings, plans, instances⟩)
    (fun i => (i.organizations, i.spaces, i.apps, i.droplets, i.processes, i.brokers, i.offerings,
      i.plans, i.instances))
    fun _ => rfl

/-! ## Databases -/

def database : Codec Database :=
  (int.pair <| flag.pair <| (perKind books).pair <| snapshots.pair <| inventory.pair <|
    (text.pair nat).list).via
    (fun (version, installed, books, snapshots, inventory, recorded) =>
      ⟨version, installed, books, snapshots, inventory, recorded⟩)
    (fun db => (db.version, db.installed, db.books, db.snapshots, db.inventory, db.recorded))
    fun _ => rfl

/-- The line in front of an archived database. -/
def heading : String := "usage-ledger database\n"

/-- The text of a database. -/
def write (db : Database) : String :=
  heading ++ (database.write db).write

/-- The document behind the line that says what a text is. -/
def afterHeading? (s : String) : Option String :=
  (Json.Token.afterWord? heading.toList s.toList).map String.ofList

/-- The database that a text is. The empty text is the empty database. -/
def read? (s : String) : Option Database :=
  if s.isEmpty then some .empty
  else (afterHeading? s).bind fun document => (Json.read? document).bind database.read?

end Metering.Archive
