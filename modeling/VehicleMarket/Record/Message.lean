import VehicleMarket.Record.Schema
import VehicleMarket.Validation.Field

/-!
Messages between two users about a listing.
-/
namespace VehicleMarket

structure Message where
  id : MessageId
  senderId : UserId
  recipientId : UserId
  listingId : ListingId
  content : String
  timestamp : Instant
  read : Bool
  deriving DecidableEq, Repr

namespace Message

def blank (now : Instant) : Message where
  id := .empty
  senderId := .empty
  recipientId := .empty
  listingId := .empty
  content := ""
  timestamp := now
  read := false

def create (id : MessageId) (senderId recipientId : UserId) (listingId : ListingId)
    (content : String) (now : Instant) : Message :=
  { blank now with id, senderId, recipientId, listingId, content }

def markRead (message : Message) : Message :=
  { message with read := true }

def isBetween (message : Message) (a b : UserId) : Bool :=
  (message.senderId == a && message.recipientId == b) ||
    (message.senderId == b && message.recipientId == a)

def schema : Schema where
  kind := .message
  keys :=
    { renames :=
        [("expediteurId", "senderId"), ("destinataireId", "recipientId"),
          ("annonceId", "listingId"), ("contenu", "content"), ("lu", "read")]
      references := []
      blankable := []
      timestamps := ["timestamp"] }
  nested := []

def ofMembers (members : Members) : Except Json.Mismatch Message := do
  let content ← Json.field members "content" Json.decodeString ""
  let id ← Json.field members "id" Json.decodeString ""
  let listingId ← Json.field members "listingId" Json.decodeString ""
  let read ← Json.field members "read" Json.decodeBool false
  let recipientId ← Json.field members "recipientId" Json.decodeString ""
  let senderId ← Json.field members "senderId" Json.decodeString ""
  let timestamp? ← Json.field? members "timestamp" Json.decodeInstant
  let timestamp ← Json.required "timestamp" timestamp?
  return {
    id := ⟨id⟩, senderId := ⟨senderId⟩, recipientId := ⟨recipientId⟩, listingId := ⟨listingId⟩,
    content, timestamp, read }

def toJson (message : Message) : Json :=
  .object
    [("id", .string message.id.text), ("senderId", .string message.senderId.text),
      ("recipientId", .string message.recipientId.text),
      ("listingId", .string message.listingId.text), ("content", .string message.content),
      ("timestamp", .int message.timestamp.millis), ("read", .bool message.read)]

def validate (message : Message) : Except Problem Unit := do
  Validation.checkNotBlank "message" "id" message.id.text
  Validation.checkNotBlank "message" "content" message.content
  if !message.senderId.isBlank && message.senderId == message.recipientId then
    .error (.invalid "message" "recipientId" .sameParties)
  else .ok ()

end Message

end VehicleMarket
