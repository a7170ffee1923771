import VehicleMarket.WebAddress.DomainName
import VehicleMarket.WebAddress.Ipv4
import VehicleMarket.WebAddress.Ipv6

/-!
Web addresses: the scheme of an absolute address, and whether its host and port are well formed.
What follows the host and port is never at fault.
-/
namespace VehicleMarket.WebAddress

inductive SchemeKind where
  | file
  | special
  | other
  deriving DecidableEq, Repr

def SchemeKind.of (scheme : String) : SchemeKind :=
  if scheme = "file" then .file
  else if ["http", "https", "ws", "wss", "ftp"].contains scheme then .special
  else .other

/-- Backslashes count as slashes where a scheme is special. -/
def SchemeKind.endsAuthority (kind : SchemeKind) (c : Char) : Bool :=
  c = '/' || c = '?' || c = '#' || (kind != .other && c = '\\')

def isAsciiLetter (c : Char) : Bool :=
  ('a' ≤ c && c ≤ 'z') || ('A' ≤ c && c ≤ 'Z')

def isAsciiDigit (c : Char) : Bool :=
  '0' ≤ c && c ≤ '9'

def isSchemeCharacter (c : Char) : Bool :=
  isAsciiLetter c || isAsciiDigit c || c = '+' || c = '-' || c = '.'

/-- Drops controls and spaces at both ends, and tabs and line ends everywhere. -/
def stripped (text : String) : List Char :=
  let isEdge (c : Char) : Bool := c.toNat ≤ 0x20
  let inner := ((text.toList.dropWhile isEdge).reverse.dropWhile isEdge).reverse
  inner.filter fun c => c != '\t' && c != '\n' && c != '\r'

def splitScheme? (cs : List Char) : Option (String × List Char) :=
  match cs with
  | [] => none
  | c :: _ =>
    if isAsciiLetter c then
      match cs.dropWhile isSchemeCharacter with
      | ':' :: rest =>
        some (String.ofList ((cs.takeWhile isSchemeCharacter).map Char.toLower), rest)
      | _ => none
    else none

def hexDigit? (c : Char) : Option Nat :=
  Ipv4.digit? c

def percentDecoded : List Char → List UInt8
  | [] => []
  | '%' :: a :: b :: rest =>
    match hexDigit? a, hexDigit? b with
    | some high, some low => UInt8.ofNat (16 * high + low) :: percentDecoded rest
    | _, _ => String.utf8EncodeChar '%' ++ percentDecoded (a :: b :: rest)
  | c :: rest => String.utf8EncodeChar c ++ percentDecoded rest

def decodedHost? (host : List Char) : Option (List Char) :=
  (String.fromUTF8? (ByteArray.mk (percentDecoded host).toArray)).map String.toList

def checkBracketed (host : List Char) : Except Fault Unit :=
  match host.getLast? with
  | some ']' => if Ipv6.isAddress ((host.drop 1).dropLast) then .ok () else .error .invalidIpv6
  | _ => .error .invalidIpv6

def checkHost (host : List Char) : Except Fault Unit :=
  match host with
  | '[' :: _ => checkBracketed host
  | _ =>
    match (decodedHost? host).bind DomainName.normalized? with
    | none => .error .internationalName
    | some [] => .error .emptyHost
    | some name =>
      if Ipv4.isNumeric name && !Ipv4.isAddress name then .error .invalidIpv4 else .ok ()

def isOpaqueForbidden (c : Char) : Bool :=
  c.toNat = 0 || c.toNat = 9 || c.toNat = 10 || c.toNat = 13 ||
    [' ', '#', '/', ':', '<', '>', '?', '@', '[', '\\', ']', '^', '|'].contains c

def checkOpaqueHost (host : List Char) : Except Fault Unit :=
  match host with
  | '[' :: _ => checkBracketed host
  | _ => if host.any isOpaqueForbidden then .error .invalidHostCharacter else .ok ()

def checkPort (kind : SchemeKind) (n : Nat) : List Char → Except Fault Unit
  | [] => .ok ()
  | c :: rest =>
    if isAsciiDigit c then
      let n := 10 * n + (c.toNat - 48)
      if 65535 < n then .error .invalidPort else checkPort kind n rest
    else if c = '/' || c = '\\' || c = '?' || c = '#' then .ok ()
    else .error .invalidPort

/-- The host, which ends at a colon outside brackets, and what follows it. -/
def splitHost (kind : SchemeKind) (inBrackets : Bool) : List Char → List Char × List Char
  | [] => ([], [])
  | c :: rest =>
    if (c = ':' && !inBrackets) || kind.endsAuthority c then ([], c :: rest)
    else
      let inBrackets := if c = '[' then true else if c = ']' then false else inBrackets
      let (host, after) := splitHost kind inBrackets rest
      (c :: host, after)

def afterUser? (kind : SchemeKind) : List Char → Option (List Char)
  | [] => none
  | c :: rest =>
    if kind.endsAuthority c then none
    else match afterUser? kind rest with
      | some after => some after
      | none => if c = '@' then some rest else none

/-- A host and a port. A port or a special scheme needs a host that is not empty. -/
def checkHostAndPort (kind : SchemeKind) (hasUser : Bool) (cs : List Char) : Except Fault Unit :=
  let (host, rest) := splitHost kind false cs
  if host.isEmpty && kind == .special then .error .emptyHost
  else
    match (if kind == .other then checkOpaqueHost host else checkHost host) with
    | .error fault => .error fault
    | .ok () =>
      match rest with
      | ':' :: port =>
        if host.isEmpty then .error .emptyHost
        else checkPort kind 0 port
      | _ => if host.isEmpty && hasUser then .error .emptyHost else .ok ()

/-- An authority: a user with an at sign or none, a host, and a port or none. A user without a
name and a password counts as none. -/
def checkAuthority (kind : SchemeKind) (cs : List Char) : Except Fault Unit :=
  match afterUser? kind cs with
  | none => checkHostAndPort kind false cs
  | some rest =>
    let user := cs.take (cs.length - rest.length - 1)
    let endsAtOnce := match rest with
      | c :: _ => kind.endsAuthority c
      | [] => false
    if user.isEmpty && endsAtOnce then .error .emptyHost
    else checkHostAndPort kind (!user.isEmpty && user != [':']) rest

def isSlash (c : Char) : Bool :=
  c = '/' || c = '\\'

def isDrive : List Char → Bool
  | [letter, mark] => isAsciiLetter letter && (mark = ':' || mark = '|')
  | _ => false

/-- A file address has a host only after two slashes. -/
def checkFile (cs : List Char) : Except Fault Unit :=
  match cs with
  | a :: b :: rest =>
    if isSlash a && isSlash b then
      let host := rest.takeWhile fun c => !SchemeKind.file.endsAuthority c
      if host.isEmpty || isDrive host then .ok () else checkHost host
    else .ok ()
  | _ => .ok ()

def checkAfterScheme (kind : SchemeKind) (cs : List Char) : Except Fault Unit :=
  match kind with
  | .file => checkFile cs
  | .special => checkAuthority .special (cs.dropWhile isSlash)
  | .other =>
    match cs with
    | '/' :: '/' :: rest => checkAuthority .other rest
    | _ => .ok ()

def schemeOf (text : String) : Except Fault String :=
  match splitScheme? (stripped text) with
  | none => .error .relative
  | some (scheme, rest) =>
    match checkAfterScheme (SchemeKind.of scheme) rest with
    | .ok () => .ok scheme
    | .error fault => .error fault

end VehicleMarket.WebAddress
