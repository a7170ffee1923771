import VehicleMarket.Record.Schema
import VehicleMarket.Validation.Field

/-!
Users of the market.
-/
namespace VehicleMarket

structure User where
  id : UserId
  firstName : String
  lastName : String
  email : String
  phone : String
  accountType : AccountType
  profilePhotoUrl : String
  city : String
  registeredAt : Instant
  deriving DecidableEq, Repr

namespace User

def blank (now : Instant) : User where
  id := .empty
  firstName := ""
  lastName := ""
  email := ""
  phone := ""
  accountType := .buyer
  profilePhotoUrl := ""
  city := ""
  registeredAt := now

def create (id : UserId) (firstName lastName : String) (accountType : AccountType)
    (now : Instant) : User :=
  { blank now with id, firstName, lastName, accountType }

def displayName (user : User) : String :=
  Text.trim (user.firstName ++ " " ++ user.lastName)

def schema : Schema where
  kind := .user
  keys :=
    { renames :=
        [("prenom", "firstName"), ("nom", "lastName"), ("telephone", "phone"),
          ("typeCompte", "accountType"), ("photoProfilUrl", "profilePhotoUrl"),
          ("ville", "city"), ("dateInscription", "registeredAt")]
      references := []
      blankable := ["accountType"]
      timestamps := ["registeredAt"] }
  nested := []

def ofMembers (members : Members) : Except Json.Mismatch User := do
  let accountType ← Json.field members "accountType" Json.decodeSpelled AccountType.buyer
  let city ← Json.field members "city" Json.decodeString ""
  let email ← Json.field members "email" Json.decodeString ""
  let firstName ← Json.field members "firstName" Json.decodeString ""
  let id ← Json.field members "id" Json.decodeString ""
  let lastName ← Json.field members "lastName" Json.decodeString ""
  let phone ← Json.field members "phone" Json.decodeString ""
  let profilePhotoUrl ← Json.field members "profilePhotoUrl" Json.decodeString ""
  let registeredAt? ← Json.field? members "registeredAt" Json.decodeInstant
  let registeredAt ← Json.required "registeredAt" registeredAt?
  return {
    id := ⟨id⟩, firstName, lastName, email, phone, accountType, profilePhotoUrl, city,
    registeredAt }

def toJson (user : User) : Json :=
  .object
    [("id", .string user.id.text), ("firstName", .string user.firstName),
      ("lastName", .string user.lastName), ("email", .string user.email),
      ("phone", .string user.phone), ("accountType", .string (Spelled.name user.accountType)),
      ("profilePhotoUrl", .string user.profilePhotoUrl), ("city", .string user.city),
      ("registeredAt", .int user.registeredAt.millis)]

def validate (user : User) : Except Problem Unit := do
  Validation.checkNotBlank "user" "id" user.id.text
  if user.email ≠ "" then Validation.checkEmail "user" "email" user.email
  Validation.checkOptionalAddress "user" "profilePhotoUrl" user.profilePhotoUrl

end User

end VehicleMarket
