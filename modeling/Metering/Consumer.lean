import Metering.Event

/-!
# Consumers

A consumer reads a ledger at its own pace and registers how far it has come:
its watermark is the guid of the last event it processed. A registry keeps the
registrations in the order they were made; one that is taken back and made
again goes to the end. A guid must hold a character that is not blank and at
most 255 characters.
-/

namespace Metering

open Metering.Time (Instant)

/-- A consumer's registration, its times in milliseconds since 1970. -/
structure Registration where
  consumer : String
  watermark : String
  createdAt : Int
  updatedAt : Int
deriving DecidableEq, Repr, Inhabited

/-- The registrations of one kind, in the order they were made. -/
abbrev Registry := List Registration

namespace Registry

def maxGuidLength : Nat := 255

/-- Why a guid is refused. -/
def guidProblem? (guid : String) : Option String :=
  if Text.allBlank guid then some "must be present"
  else if maxGuidLength < guid.length then
    some ("must be at most " ++ toString maxGuidLength ++ " characters")
  else none

/-- Checks the guid given for a field. -/
def checkGuid (field guid : String) : Except Error Unit :=
  match guidProblem? guid with
  | some problem => .error (.invalidConsumer field problem)
  | none => .ok ()

def find? (r : Registry) (consumer : String) : Option Registration :=
  List.find? (·.consumer = consumer) r

def register (now : Int) (consumer watermark : String) (r : Registry) :
    Except Error (Registration × Registry) := do
  checkGuid "consumer_guid" consumer
  checkGuid "last_processed_guid" watermark
  if (r.find? consumer).isSome then
    throw (.invalidConsumer "consumer_guid" (consumer ++ " is already registered"))
  let registration : Registration := ⟨consumer, watermark, now, now⟩
  pure (registration, r ++ [registration])

/-- Moves a consumer's watermark. -/
def update (now : Int) (consumer watermark : String) (r : Registry) :
    Except Error (Registration × Registry) := do
  checkGuid "last_processed_guid" watermark
  match r.find? consumer with
  | none => throw (.consumerNotFound consumer)
  | some old =>
    let new := { old with watermark := watermark, updatedAt := now }
    pure (new, r.map fun x => if x.consumer = consumer then new else x)

def deregister (consumer : String) (r : Registry) : Except Error Registry :=
  if (r.find? consumer).isSome then .ok (r.filter (·.consumer ≠ consumer))
  else .error (.consumerNotFound consumer)

end Registry

def Registration.toJson (r : Registration) : Json :=
  .obj [("consumer_guid", .str r.consumer),
    ("last_processed_guid", .str r.watermark),
    ("created_at", Json.ofInstant (Instant.ofMillis r.createdAt)),
    ("updated_at", Json.ofInstant (Instant.ofMillis r.updatedAt))]

end Metering
