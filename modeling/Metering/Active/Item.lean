import Metering.Json.Printer
import Metering.Json.Reader
import Metering.Json.Record

/-!
# Usage items

An item is what a snapshot says of one active resource. There is one shape for
a process and one for a service instance, and nothing in the text of an item
says which it is: a reader tries the process first. The texts cannot be taken
for one another, since every shape has a guid that must be there and that the
other shape does not have.
-/

namespace Metering

structure ProcessItem where
  app : String
  appName : String
  process : String
  type : String
  instances : Option Int
  memory : Option Int
  buildpack : Option String
  buildpackName : Option String
deriving DecidableEq, Repr

structure ServiceItem where
  service : String
  serviceName : String
  /-- Whether the platform manages the instance or its user does, in words. -/
  type : String
  plan : Option String
  planName : Option String
  offering : Option String
  offeringName : Option String
  broker : Option String
  brokerName : Option String
deriving DecidableEq, Repr

inductive UsageItem where
  | process (item : ProcessItem)
  | service (item : ServiceItem)
deriving DecidableEq, Repr

namespace ProcessItem

def fieldNames : List String :=
  ["app_guid", "app_name", "process_guid", "process_type", "instance_count",
    "memory_in_mb_per_instance", "buildpack_guid", "buildpack_name"]

def toJson (p : ProcessItem) : Json :=
  .obj [("app_guid", .str p.app),
    ("app_name", .str p.appName),
    ("process_guid", .str p.process),
    ("process_type", .str p.type),
    ("instance_count", Json.ofOption .int p.instances),
    ("memory_in_mb_per_instance", Json.ofOption .int p.memory),
    ("buildpack_guid", Json.ofOption .str p.buildpack),
    ("buildpack_name", Json.ofOption .str p.buildpackName)]

def ofJson? (j : Json) : Option ProcessItem := do
  let f ← j.fieldsOf? .plain fieldNames
  pure {
    app := ← f.required "app_guid" Json.text?
    appName := ← f.required "app_name" Json.text?
    process := ← f.required "process_guid" Json.text?
    type := ← f.required "process_type" Json.text?
    instances := ← f.optional "instance_count" Json.signed64?
    memory := ← f.optional "memory_in_mb_per_instance" Json.signed64?
    buildpack := ← f.optional "buildpack_guid" Json.text?
    buildpackName := ← f.optional "buildpack_name" Json.text? }

end ProcessItem

namespace ServiceItem

def fieldNames : List String :=
  ["service_instance_guid", "service_instance_name", "service_instance_type",
    "service_plan_guid", "service_plan_name", "service_offering_guid", "service_offering_name",
    "service_broker_guid", "service_broker_name"]

def toJson (s : ServiceItem) : Json :=
  .obj [("service_instance_guid", .str s.service),
    ("service_instance_name", .str s.serviceName),
    ("service_instance_type", .str s.type),
    ("service_plan_guid", Json.ofOption .str s.plan),
    ("service_plan_name", Json.ofOption .str s.planName),
    ("service_offering_guid", Json.ofOption .str s.offering),
    ("service_offering_name", Json.ofOption .str s.offeringName),
    ("service_broker_guid", Json.ofOption .str s.broker),
    ("service_broker_name", Json.ofOption .str s.brokerName)]

def ofJson? (j : Json) : Option ServiceItem := do
  let f ← j.fieldsOf? .plain fieldNames
  pure {
    service := ← f.required "service_instance_guid" Json.text?
    serviceName := ← f.required "service_instance_name" Json.text?
    type := ← f.required "service_instance_type" Json.text?
    plan := ← f.optional "service_plan_guid" Json.text?
    planName := ← f.optional "service_plan_name" Json.text?
    offering := ← f.optional "service_offering_guid" Json.text?
    offeringName := ← f.optional "service_offering_name" Json.text?
    broker := ← f.optional "service_broker_guid" Json.text?
    brokerName := ← f.optional "service_broker_name" Json.text? }

end ServiceItem

namespace UsageItem

def toJson : UsageItem → Json
  | .process p => p.toJson
  | .service s => s.toJson

def ofJson? (j : Json) : Option UsageItem :=
  match ProcessItem.ofJson? j with
  | some p => some (.process p)
  | none => (ServiceItem.ofJson? j).map .service

/-- The text of a list of items. -/
def writeAll (items : List UsageItem) : String :=
  (Json.arr (items.map toJson)).write

/-- The items of a text. -/
def readAll? (text : String) : Option (List UsageItem) :=
  (Json.read? text).bind (Json.list? ofJson?)

end UsageItem

end Metering
