import VehicleMarket.Command.Basic

/-!
The arguments of the program. Options of a level stand before or after its operands; after two
dashes everything is an operand. A value is looked at only when the next option or operand comes,
or the end. An option given at two levels takes the value of the inner one.
-/
namespace VehicleMarket.Arguments

inductive Fault where
  | invalidValue
  | unknownArgument
  | unknownCommand
  | tooManyValues
  | repeated
  | missingArgument
  | missingCommand
  | nothingGiven
  | helpWanted
  deriving DecidableEq, Repr

inductive OptionKey where
  | settingsFile
  | verbose
  | jsonLogs
  | help
  | lenient
  | out
  | snapshot
  deriving DecidableEq, Repr

structure OptionRule where
  key : OptionKey
  long : String
  short : Option Char
  takesValue : Bool
  deriving DecidableEq, Repr

/-- What can stand at a level: options, operands with their choices, and commands. -/
structure Level where
  options : List OptionRule
  operands : List (Option (List String))
  commands : List String
  deriving DecidableEq, Repr

def commonOptions : List OptionRule :=
  [⟨.settingsFile, "config", some 'c', true⟩, ⟨.verbose, "verbose", some 'v', false⟩,
    ⟨.jsonLogs, "json-logs", none, false⟩, ⟨.help, "help", some 'h', false⟩]

def helpCommand : String := "help"

inductive CommandName where
  | check
  | bundle
  | listing
  | normalize
  deriving DecidableEq, Repr

namespace CommandName

def all : List CommandName :=
  [.check, .bundle, .listing, .normalize]

def text : CommandName → String
  | .check => "check"
  | .bundle => "export"
  | .listing => "listing"
  | .normalize => "normalize"

def ofText? (s : String) : Option CommandName :=
  all.find? fun name => name.text = s

def ownOptions : CommandName → List OptionRule
  | .check => [⟨.lenient, "lenient", none, false⟩]
  | .bundle => [⟨.out, "out", some 'o', true⟩]
  | .listing => [⟨.snapshot, "snapshot", some 's', true⟩]
  | .normalize => [⟨.out, "out", some 'o', true⟩]

def operands : CommandName → List (Option (List String))
  | .check => [none]
  | .bundle => [none]
  | .listing => [some (ListingAction.all.map ListingAction.name), none]
  | .normalize => [some (RecordKind.all.map RecordKind.name), none]

def level (name : CommandName) : Level :=
  ⟨name.ownOptions ++ commonOptions, name.operands, []⟩

end CommandName

def rootLevel : Level :=
  ⟨commonOptions, [], CommandName.all.map CommandName.text ++ [helpCommand]⟩

/-- What has been read and not yet looked at. -/
inductive Pending where
  | nothing
  | option (key : OptionKey) (value : Option String)
  | operand (text : String)
  deriving DecidableEq, Repr

structure Reading where
  values : List (OptionKey × String)
  switches : List OptionKey
  operands : List String
  pending : Pending
  onlyOperands : Bool
  deriving DecidableEq, Repr

namespace Reading

def start : Reading :=
  ⟨[], [], [], .nothing, false⟩

def value? (reading : Reading) (key : OptionKey) : Option String :=
  (reading.values.find? fun entry => entry.1 = key).map Prod.snd

def isOn (reading : Reading) (key : OptionKey) : Bool :=
  reading.switches.contains key

def addValue (reading : Reading) (key : OptionKey) (value : String) : Except Fault Reading :=
  if (reading.value? key).isSome then .error .repeated
  else .ok { reading with values := (key, value) :: reading.values, pending := .nothing }

def addOperand (level : Level) (reading : Reading) (text : String) : Except Fault Reading :=
  match level.operands[reading.operands.length]? with
  | some (some choices) =>
    if choices.contains text then
      .ok { reading with operands := reading.operands ++ [text], pending := .nothing }
    else .error .invalidValue
  | _ => .ok { reading with operands := reading.operands ++ [text], pending := .nothing }

def settle (level : Level) (reading : Reading) : Except Fault Reading :=
  match reading.pending with
  | .nothing => .ok reading
  | .option _ none => .error .invalidValue
  | .option key (some value) => reading.addValue key value
  | .operand text => reading.addOperand level text

def switchOn (level : Level) (reading : Reading) (key : OptionKey) : Except Fault Reading := do
  let reading ← reading.settle level
  if key = .help then .error .helpWanted
  else if reading.isOn key then .error .repeated
  else .ok { reading with switches := key :: reading.switches }

def beginOption (level : Level) (reading : Reading) (key : OptionKey)
    (attached : Option String) : Except Fault Reading := do
  let reading ← reading.settle level
  match attached with
  | some value => reading.addValue key value
  | none => .ok { reading with pending := .option key none }

def awaitsValue (reading : Reading) : Bool :=
  match reading.pending with
  | .option _ none => !reading.onlyOperands
  | _ => false

def operandCount (reading : Reading) : Nat :=
  match reading.pending with
  | .operand _ => reading.operands.length + 1
  | _ => reading.operands.length

def surplus (level : Level) (reading : Reading) (text : String) : Fault :=
  if level.commands.isEmpty then .unknownArgument
  else if reading.onlyOperands && level.commands.contains text then .unknownArgument
  else .unknownCommand

def readOperand (level : Level) (reading : Reading) (text : String) : Except Fault Reading :=
  if reading.operandCount < level.operands.length then do
    let reading ← reading.settle level
    .ok { reading with pending := .operand text }
  else .error (reading.surplus level text)

/-- An option by its long name, with a value after an equals sign or without. -/
def readLong (level : Level) (reading : Reading) (cs : List Char) : Except Fault Reading :=
  let name := String.ofList (cs.takeWhile (· != '='))
  let attached := match cs.dropWhile (· != '=') with
    | [] => none
    | _ :: value => some (String.ofList value)
  match level.options.find? fun rule => rule.long = name with
  | none => .error .unknownArgument
  | some rule =>
    if rule.takesValue then reading.beginOption level rule.key attached
    else if attached.isSome then .error .tooManyValues
    else reading.switchOn level rule.key

def attachedValue? : List Char → Option String
  | [] => none
  | '=' :: value => some (String.ofList value)
  | value => some (String.ofList value)

/-- Options by their short names, one after the other. -/
def readShort (level : Level) (reading : Reading) : List Char → Except Fault Reading
  | [] => .ok reading
  | c :: rest =>
    match level.options.find? fun rule => rule.short = some c with
    | none => .error .unknownArgument
    | some rule =>
      if rule.takesValue then reading.beginOption level rule.key (attachedValue? rest)
      else
        match reading.switchOn level rule.key with
        | .error fault => .error fault
        | .ok reading => readShort level reading rest

def readArgument (level : Level) (reading : Reading) (text : String) : Except Fault Reading :=
  if reading.onlyOperands then reading.readOperand level text
  else
    match text.toList with
    | ['-', '-'] => .ok { reading with onlyOperands := true }
    | '-' :: '-' :: name => reading.readLong level name
    | '-' :: c :: rest => reading.readShort level (c :: rest)
    | _ =>
      match reading.pending with
      | .option key none => .ok { reading with pending := .option key (some text) }
      | _ => reading.readOperand level text

def meetsCommand (level : Level) (reading : Reading) (text : String) : Bool :=
  !reading.onlyOperands && !reading.awaitsValue && level.commands.contains text

/-- Reads arguments up to a command, which is given with what follows it, or to the end. -/
def scan (level : Level) (reading : Reading) :
    List String → Except Fault (Reading × Option (String × List String))
  | [] => .ok (reading, none)
  | text :: rest =>
    if reading.meetsCommand level text then .ok (reading, some (text, rest))
    else
      match reading.readArgument level text with
      | .error fault => .error fault
      | .ok reading => scan level reading rest

end Reading

def helpOn : List String → Fault
  | [] => .helpWanted
  | [name] => if rootLevel.commands.contains name then .helpWanted else .unknownCommand
  | _ => .unknownCommand

def commandOf (name : CommandName) (reading : Reading) : Except Fault Command :=
  match name, reading.operands with
  | .check, operands => .ok (.check operands.head? (reading.isOn .lenient))
  | .bundle, operands => .ok (.bundle operands.head? (reading.value? .out))
  | .listing, [action, id] =>
    match ListingAction.ofName? action with
    | some action => .ok (.listing action ⟨id⟩ (reading.value? .snapshot))
    | none => .error .invalidValue
  | .normalize, [kind, input] =>
    match RecordKind.ofName? kind with
    | some kind => .ok (.normalize kind input (reading.value? .out))
    | none => .error .invalidValue
  | _, _ => .error .missingArgument

def withoutCommand (reading : Reading) : Fault :=
  if reading.values.isEmpty && reading.switches.isEmpty then .nothingGiven else .missingCommand

def readCommand (name : CommandName) (arguments : List String) :
    Except Fault (Reading × Command) := do
  let (reading, _) ← Reading.start.scan name.level arguments
  let reading ← reading.settle name.level
  let command ← commandOf name reading
  return (reading, command)

def parse (arguments : List String) : Except Fault Invocation := do
  let (outer, found) ← Reading.start.scan rootLevel arguments
  match found with
  | none => do
    let outer ← outer.settle rootLevel
    .error (withoutCommand outer)
  | some (name, rest) =>
    match CommandName.ofText? name with
    | none => .error (helpOn rest)
    | some name => do
      let (inner, command) ← readCommand name rest
      let outer ← outer.settle rootLevel
      return {
        settingsFile := inner.value? .settingsFile <|> outer.value? .settingsFile
        verbose := inner.isOn .verbose || outer.isOn .verbose
        jsonLogs := inner.isOn .jsonLogs || outer.isOn .jsonLogs
        command }

end VehicleMarket.Arguments
