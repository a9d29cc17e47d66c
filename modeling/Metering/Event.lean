import Metering.Error
import Metering.Json.Printer
import Metering.Json.Reader
import Metering.Json.Record
import Metering.Time.Instant

/-!
# Events

An event is asked for as a `NewEvent`, which may leave its guid, its time and
its state to the ledger; it is kept as a row, whose state and payload are
text; and it is given out as an `Event`, with both decoded. Decoding is where
a row can turn out to be damaged: `EventRow.decode` looks at the state first
and at the payload after it.
-/

namespace Metering

open Metering.Time (Instant)

/-- A request to append an event. -/
structure NewEvent where
  guid : Option String
  createdAt : Option Instant
  state : Option EventState
  resource : String
  resourceName : Option String
  org : Option String
  space : Option String
  spaceName : Option String
  payload : Option Json
deriving Repr, Inhabited

/-- An event as a ledger keeps it. -/
structure EventRow where
  id : Int
  guid : String
  /-- Milliseconds since 1970. -/
  createdAt : Int
  state : String
  resource : String
  resourceName : Option String
  org : Option String
  space : Option String
  spaceName : Option String
  payload : String
deriving DecidableEq, Repr, Inhabited

/-- An event as it is given out. -/
structure Event where
  id : Int
  guid : String
  createdAt : Instant
  state : EventState
  resource : String
  resourceName : Option String
  org : Option String
  space : Option String
  spaceName : Option String
  payload : Json
deriving Repr, Inhabited

namespace NewEvent

/-- An event in a state, with all else left to the ledger. -/
def of (state : EventState) (resource : String) : NewEvent :=
  ⟨none, none, some state, resource, none, none, none, none, none⟩

/-- The row of an event in a ledger that has reached an identifier. The time is cut to whole
milliseconds, and a payload that is left out is the empty record. -/
def toRow (kind : Kind) (now : Int) (fresh : String) (id : Int) (e : NewEvent) : EventRow where
  id := id
  guid := e.guid.getD fresh
  createdAt := (e.createdAt.map Instant.toMillis).getD now
  state := (e.state.getD kind.opening).name
  resource := e.resource
  resourceName := e.resourceName
  org := e.org
  space := e.space
  spaceName := e.spaceName
  payload := (e.payload.getD (.obj [])).write

end NewEvent

namespace EventRow

/-- The state that the row's text names. -/
def decodeState (r : EventRow) : Except Error EventState :=
  match EventState.ofName? r.state with
  | some state => .ok state
  | none => .error (.database (.unknownState r.state))

/-- The document that the row's payload is the text of. -/
def decodePayload (r : EventRow) : Except Error Json :=
  match Json.read? r.payload with
  | some j => .ok j.normalize
  | none => .error Error.malformedDocument

/-- The event of a row whose state and payload are known. -/
def toEvent (r : EventRow) (state : EventState) (payload : Json) : Event where
  id := r.id
  guid := r.guid
  createdAt := Instant.ofMillis r.createdAt
  state := state
  resource := r.resource
  resourceName := r.resourceName
  org := r.org
  space := r.space
  spaceName := r.spaceName
  payload := payload

/-- The event of a row. -/
def decode (r : EventRow) : Except Error Event := do
  let state ← r.decodeState
  let payload ← r.decodePayload
  pure (r.toEvent state payload)

/-- The events of rows. An unknown state anywhere wins over a damaged payload before it. -/
def decodeAll (rows : List EventRow) : Except Error (List Event) := do
  let states ← rows.mapM fun r => do pure (r, ← r.decodeState)
  states.mapM fun (r, state) => do pure (r.toEvent state (← r.decodePayload))

end EventRow

/-! ## Documents -/

namespace Json

def instant? : Json → Option Instant
  | .str s => Instant.read? s
  | _ => none

def ofInstant (i : Instant) : Json := .str i.write

def ofText? : Option String → Json := ofOption .str

end Json

namespace Kind

def toJson (k : Kind) : Json := .str k.name

def ofJson? (j : Json) : Option Kind := j.choice? .plain ofName?

end Kind

namespace EventState

def toJson (s : EventState) : Json := .str s.name

def ofJson? (j : Json) : Option EventState := j.choice? .plain ofName?

end EventState

namespace NewEvent

def ofJson? (j : Json) : Option NewEvent := do
  let f ← j.fieldsOf? .plain ["guid", "created_at", "state", "resource_guid", "resource_name",
    "org_guid", "space_guid", "space_name", "payload"]
  pure {
    guid := ← f.optional "guid" Json.text?
    createdAt := ← f.optional "created_at" Json.instant?
    state := ← f.optional "state" EventState.ofJson?
    resource := ← f.required "resource_guid" Json.text?
    resourceName := ← f.optional "resource_name" Json.text?
    org := ← f.optional "org_guid" Json.text?
    space := ← f.optional "space_guid" Json.text?
    spaceName := ← f.optional "space_name" Json.text?
    payload := ← f.optional "payload" (some ·.normalize) }

def toJson (e : NewEvent) : Json :=
  .obj [("guid", Json.ofText? e.guid),
    ("created_at", Json.ofOption Json.ofInstant e.createdAt),
    ("state", Json.ofOption EventState.toJson e.state),
    ("resource_guid", .str e.resource),
    ("resource_name", Json.ofText? e.resourceName),
    ("org_guid", Json.ofText? e.org),
    ("space_guid", Json.ofText? e.space),
    ("space_name", Json.ofText? e.spaceName),
    ("payload", e.payload.getD .null)]

end NewEvent

namespace Event

def ofJson? (j : Json) : Option Event := do
  let f ← j.fieldsOf? .plain ["id", "guid", "created_at", "state", "resource_guid",
    "resource_name", "org_guid", "space_guid", "space_name", "payload"]
  pure {
    id := ← f.required "id" Json.signed64?
    guid := ← f.required "guid" Json.text?
    createdAt := ← f.required "created_at" Json.instant?
    state := ← f.required "state" EventState.ofJson?
    resource := ← f.required "resource_guid" Json.text?
    resourceName := ← f.optional "resource_name" Json.text?
    org := ← f.optional "org_guid" Json.text?
    space := ← f.optional "space_guid" Json.text?
    spaceName := ← f.optional "space_name" Json.text?
    payload := ← f.required "payload" (some ·.normalize) }

def toJson (e : Event) : Json :=
  .obj [("id", .int e.id),
    ("guid", .str e.guid),
    ("created_at", Json.ofInstant e.createdAt),
    ("state", e.state.toJson),
    ("resource_guid", .str e.resource),
    ("resource_name", Json.ofText? e.resourceName),
    ("org_guid", Json.ofText? e.org),
    ("space_guid", Json.ofText? e.space),
    ("space_name", Json.ofText? e.spaceName),
    ("payload", e.payload)]

end Event

end Metering
