import VehicleMarket.Catalog.Query

/-!
The integrity report: every record that fails its own check, every reference that leads nowhere,
and what does not fit together. References that lead nowhere are errors in a strict report and
warnings in a lenient one.
-/
namespace VehicleMarket.Integrity

inductive Severity where
  | warning
  | error
  deriving DecidableEq, Repr

def Severity.name : Severity → String
  | .warning => "warning"
  | .error => "error"

/-- What is wrong with a record or between records. -/
inductive Finding where
  | invalid (problem : Problem)
  | missing (role id : String)
  | publishedTooEarly
  | cannotSell (seller : UserId) (account : AccountType)
  | sellersDiffer (ofListing ofVehicle : UserId)
  | vehicleNotSold (status : VehicleStatus)
  | sentTooEarly
  deriving DecidableEq, Repr

def Finding.message : Finding → String
  | .invalid problem => problem.message
  | .missing role id => role ++ " '" ++ id ++ "' does not exist"
  | .publishedTooEarly => "published before the seller registered"
  | .cannotSell seller account =>
    "seller '" ++ seller.text ++ "' has a " ++ Spelled.name account ++ " account"
  | .sellersDiffer ofListing ofVehicle =>
    "listing seller '" ++ ofListing.text ++ "' differs from vehicle seller '" ++
      ofVehicle.text ++ "'"
  | .vehicleNotSold status => "listing is sold but its vehicle is " ++ Spelled.name status
  | .sentTooEarly => "sent before the sender registered"

structure Issue where
  severity : Severity
  kind : RecordKind
  id : String
  finding : Finding
  deriving DecidableEq, Repr

def Issue.display (issue : Issue) : String :=
  "[" ++ issue.severity.name ++ "] " ++ issue.kind.name ++ " '" ++ issue.id ++ "': " ++
    issue.finding.message

abbrev Report := List Issue

namespace Report

def errorCount (report : Report) : Nat :=
  report.countP fun issue => issue.severity == .error

def warningCount (report : Report) : Nat :=
  report.length - report.errorCount

def hasErrors (report : Report) : Bool :=
  0 < report.errorCount

def isClean (report : Report) : Bool :=
  report.isEmpty

def issueJson (issue : Issue) : Json :=
  .object
    [("severity", .string issue.severity.name), ("entity", .string issue.kind.name),
      ("id", .string issue.id), ("message", .string issue.finding.message)]

def toJson (report : Report) : Json :=
  .object [("issues", .array (report.map issueJson))]

end Report

structure Options where
  rules : Validation.Rules
  strictReferences : Bool
  deriving DecidableEq, Repr

def Options.missingSeverity (options : Options) : Severity :=
  if options.strictReferences then .error else .warning

def ofCheck (kind : RecordKind) (id : String) : Except Problem Unit → List Issue
  | .ok () => []
  | .error problem => [⟨.error, kind, id, .invalid problem⟩]

def warnIf (condition : Bool) (kind : RecordKind) (id : String) (finding : Finding) :
    List Issue :=
  if condition then [⟨.warning, kind, id, finding⟩] else []

def userIssues (user : User) : List Issue :=
  ofCheck .user user.id.text user.validate

/-- A listing's vehicle without a seller of its own has that of the listing. -/
def effectiveSeller (listing : Listing) : UserId :=
  if listing.vehicle.sellerId.isBlank then listing.sellerId else listing.vehicle.sellerId

def vehiclesWithSellers (catalog : Catalog) : List (Vehicle × UserId) :=
  ((Table.values catalog.vehicles).map fun vehicle => (vehicle, vehicle.sellerId)) ++
    ((Table.values catalog.listings).map fun listing =>
      (listing.vehicle, effectiveSeller listing))

def sellerIssues (options : Options) (catalog : Catalog) (vehicle : Vehicle)
    (sellerId : UserId) : List Issue :=
  match catalog.findUser? sellerId with
  | none => [⟨options.missingSeverity, .vehicle, vehicle.id.text, .missing "seller" sellerId.text⟩]
  | some seller =>
    warnIf (vehicle.publishedAt.earlier seller.registeredAt) .vehicle vehicle.id.text
      .publishedTooEarly ++
    warnIf (!seller.accountType.canSell) .vehicle vehicle.id.text
      (.cannotSell seller.id seller.accountType)

def vehicleIssues (options : Options) (catalog : Catalog) (entry : Vehicle × UserId) :
    List Issue :=
  ofCheck .vehicle entry.1.id.text (entry.1.validate options.rules) ++
    sellerIssues options catalog entry.1 entry.2

def isOfVehicle : Problem → Bool
  | .invalid entity _ _ => entity = "vehicle"
  | _ => false

/-- What a listing's own check finds, but for its vehicle, which is checked with the others. -/
def ownIssues (thisYear : Int32) (listing : Listing) : List Issue :=
  match listing.validate (Validation.Rules.standard thisYear) with
  | .ok () => []
  | .error problem =>
    if isOfVehicle problem then [] else [⟨.error, .listing, listing.id.text, .invalid problem⟩]

def missingUnless (options : Options) (present : Bool) (kind : RecordKind) (id role target : String) :
    List Issue :=
  if present then [] else [⟨options.missingSeverity, kind, id, .missing role target⟩]

def listingIssues (thisYear : Int32) (options : Options) (catalog : Catalog)
    (listing : Listing) : List Issue :=
  ownIssues thisYear listing ++
  missingUnless options (Table.contains catalog.users listing.sellerId) .listing listing.id.text
    "seller" listing.sellerId.text ++
  warnIf (!listing.vehicle.sellerId.isBlank && listing.vehicle.sellerId != listing.sellerId)
    .listing listing.id.text (.sellersDiffer listing.sellerId listing.vehicle.sellerId) ++
  warnIf (listing.status == .sold && listing.vehicle.status != .sold)
    .listing listing.id.text (.vehicleNotSold listing.vehicle.status)

def senderIssues (options : Options) (catalog : Catalog) (message : Message) : List Issue :=
  match catalog.findUser? message.senderId with
  | none =>
    [⟨options.missingSeverity, .message, message.id.text,
      .missing "sender" message.senderId.text⟩]
  | some sender =>
    warnIf (message.timestamp.earlier sender.registeredAt) .message message.id.text .sentTooEarly

def messageIssues (options : Options) (catalog : Catalog) (message : Message) : List Issue :=
  ofCheck .message message.id.text message.validate ++
  senderIssues options catalog message ++
  missingUnless options (Table.contains catalog.users message.recipientId) .message
    message.id.text "recipient" message.recipientId.text ++
  missingUnless options (Table.contains catalog.listings message.listingId) .message
    message.id.text "listing" message.listingId.text

def historyIssues (options : Options) (catalog : Catalog) (history : VehicleHistory) :
    List Issue :=
  ofCheck .history history.vehicleId.text history.validate ++
  missingUnless options (catalog.findVehicle? history.vehicleId).isSome .history
    history.vehicleId.text "vehicle" history.vehicleId.text

/-- The report: users, vehicles, listings, messages, histories. The year of the check stands in
the rules for listings alone. -/
def check (thisYear : Int32) (options : Options) (catalog : Catalog) : Report :=
  (Table.values catalog.users).flatMap userIssues ++
  (vehiclesWithSellers catalog).flatMap (vehicleIssues options catalog) ++
  (Table.values catalog.listings).flatMap (listingIssues thisYear options catalog) ++
  (Table.values catalog.messages).flatMap (messageIssues options catalog) ++
  (Table.values catalog.histories).flatMap (historyIssues options catalog)

end VehicleMarket.Integrity
