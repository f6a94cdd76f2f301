import Telemetry.Text.Case
import Telemetry.Text.Numeral
import Telemetry.Text.Percent
import Telemetry.Text.Quoted

/-!
# URLs

A URL is kept in the form in which it is sent: lower case where case does not matter, the port
only if it is not that of the scheme, dot segments resolved, and the bytes that may not stand in a
path written with percent signs.
-/

namespace Telemetry

/-- A URL. -/
structure Url where
  scheme : String
  /-- Whether it names a server. -/
  located : Bool
  host : String
  port : Option Int
  path : List Char
  query : Option (List Char)

namespace Url

/-- Why a text is no URL. -/
inductive Fault
  | tooLong
  | unprintable (c : Char) (position : Nat)
  | badPort (port : String)
  | badAddress4 (host : String)
  | badAddress6 (host : String)
  | badHost (host : String)

def Fault.message : Fault → String
  | tooLong => "URL too long"
  | unprintable c position =>
      "Invalid non-printable ASCII character in URL, " ++ Text.quoted (String.singleton c)
        ++ " at position " ++ Text.ofInt position ++ "."
  | badPort port => "Invalid port: " ++ Text.quoted port
  | badAddress4 host => "Invalid IPv4 address: " ++ Text.quoted host
  | badAddress6 host => "Invalid IPv6 address: " ++ Text.quoted host
  | badHost host => "Invalid IDNA hostname: " ++ Text.quoted host

/-- The most characters that a URL may have. -/
def maxLength : Nat := 65536

/-! ### Percent signs -/

/-- Write the characters of a class as they are and the bytes of others with percent signs.  What
is written with a percent sign already stays as it is. -/
def escape (safe : Char → Bool) : List Char → List Char
  | '%' :: a :: b :: rest =>
      if (Hex.value? a).isSome && (Hex.value? b).isSome then '%' :: a :: b :: escape safe rest
      else (if safe '%' then ['%'] else ['%', '2', '5']) ++ escape safe (a :: b :: rest)
  | c :: rest =>
      (if safe c then [c] else (String.utf8EncodeChar c).flatMap Percent.escapeByte)
        ++ escape safe rest
  | [] => []

def isGraphic (c : Char) : Bool := 0x20 < c.toNat && c.toNat < 0x7F

/-- The characters that may stand in a query. -/
def isQueryChar (c : Char) : Bool := isGraphic c && ['\x22', '#', '<', '>'].all (· ≠ c)

/-- The characters that may stand in a path. -/
def isPathChar (c : Char) : Bool :=
  isQueryChar c && ['?', '\x60', '\x7b', '\x7d'].all (· ≠ c)

/-- The characters that may stand in the name of a host. -/
def isHostChar (c : Char) : Bool :=
  c.isAlphanum || "-._~!$&'()*+,;=\x22\x60\x7b\x7d%|\\".toList.contains c

/-! ### Paths -/

def segments (path : List Char) : List (List Char) := path.splitOn '/'

/-- Go on with a segment, where the segments so far are in reverse.  The empty one before the
first slash stays. -/
def resolveSegment (path : List (List Char)) (segment : List Char) : List (List Char) :=
  if segment = ['.'] then path
  else if segment = ['.', '.'] then
    if path = [[]] then path else path.drop 1
  else segment :: path

/-- A path without dot segments. -/
def resolveDots (path : List Char) : List Char :=
  ['/'].intercalate ((segments path).foldl resolveSegment []).reverse

/-! ### Hosts -/

/-- Whether a text is a part of a version 4 address. -/
def isOctet (cs : List Char) : Bool :=
  !cs.isEmpty && cs.length ≤ 3 && cs.all Char.isDigit && Text.ofDigits cs ≤ 255
    && (cs.length = 1 || cs.head? ≠ some '0')

/-- Whether a text has the form of a version 4 address, whose parts may be too large. -/
def looksLikeAddress4 (host : List Char) : Bool :=
  let parts := (String.ofList host).splitOn "."
  parts.length = 4 && parts.all fun p => p ≠ "" && p.toList.all Char.isDigit

/-- Whether a text is a version 4 address. -/
def isAddress4 (host : List Char) : Bool :=
  let parts := (String.ofList host).splitOn "."
  parts.length = 4 && parts.all fun p => isOctet p.toList

/-- The number of groups that a part of a version 6 address stands for, if it can be one. -/
def groupWidth? (last : Bool) (part : String) : Option Nat :=
  let cs := part.toList
  if !cs.isEmpty && cs.length ≤ 4 && cs.all (fun c => (Hex.value? c).isSome) then some 1
  else if last && isAddress4 cs then some 2
  else none

def groupCount? (last : Bool) : List String → Option Nat
  | [] => some 0
  | [part] => groupWidth? last part
  | part :: rest => do pure ((← groupWidth? false part) + (← groupCount? last rest))

/-- The parts of a text between colons; there are none in the empty text. -/
def colonParts (s : String) : List String := if s = "" then [] else s.splitOn ":"

/-- Whether a text is a version 6 address: eight groups, or fewer around two colons. -/
def isAddress6 (host : String) : Bool :=
  let (address, zone) :=
    match host.splitOn "%" with
    | [address] => (address, some "z")
    | [address, zone] => (address, some zone)
    | _ => (host, none)
  zone.any (· ≠ "") &&
    match address.splitOn "::" with
    | [all] => groupCount? true (colonParts all) = some 8
    | [front, back] =>
        match groupCount? false (colonParts front), groupCount? true (colonParts back) with
        | some m, some n => m + n < 8
        | _, _ => false
    | _ => false

/-- The form of a host in which it is sent. -/
def readHost (host : List Char) : Except Fault String :=
  let s := String.ofList host
  if looksLikeAddress4 host then
    if isAddress4 host then .ok s else .error (.badAddress4 s)
  else if host.head? = some '[' && host.getLast? = some ']' then
    let inner := String.ofList (host.drop 1).dropLast
    if isAddress6 inner then .ok inner else .error (.badAddress6 s)
  else if host.all Text.isAscii then
    .ok (String.ofList (escape isHostChar (host.map Char.toLower)))
  else .error (.badHost s)

/-- The ports that need not be named. -/
def standardPorts : List (String × Int) :=
  [("ftp", 21), ("http", 80), ("https", 443), ("ws", 80), ("wss", 443)]

/-- The port that has to be named. -/
def readPort (scheme : String) (port : List Char) : Except Fault (Option Int) :=
  if port.isEmpty then .ok none
  else
    match Numeral.anyInt? (String.ofList port) with
    | none => .error (.badPort (String.ofList port))
    | some n => .ok (if standardPorts.lookup scheme = some n then none else some n)

/-- Split a server into user, host and port.  The user ends at the last at-sign; a host in
brackets may hold colons. -/
def splitServer (server : List Char) : List Char × List Char × List Char :=
  let (before, after) :=
    match server.reverse.span (· ≠ '@') with
    | (rest, _ :: user) => (user.reverse, rest.reverse)
    | (rest, []) => ([], rest.reverse)
  let bracketed := (after.reverse.dropWhile (· ≠ ']')).reverse
  let (host, rest) :=
    if after.head? = some '[' && !bracketed.isEmpty then (bracketed, after.drop bracketed.length)
    else after.span (· ≠ ':')
  (before, host, if rest.head? = some ':' then rest.drop 1 else rest)

/-! ### Reading -/

def splitScheme (cs : List Char) : List Char × List Char :=
  let isSchemeChar := fun (c : Char) => c.isAlphanum || c = '+' || c = '.' || c = '-'
  let name := if cs.head?.any Char.isAlpha then cs.takeWhile isSchemeChar else []
  match cs.drop name.length with
  | ':' :: rest => (name, rest)
  | _ => ([], cs)

/-- Split off a query, and drop a fragment. -/
def splitQuery (cs : List Char) : List Char × Option (List Char) :=
  match (cs.takeWhile (· ≠ '#')).span (· ≠ '?') with
  | (path, _ :: query) => (path, some query)
  | (path, []) => (path, none)

def ofText (s : String) : Except Fault Url :=
  let cs := s.toList
  let isControl := fun (c : Char) => c.toNat < 0x20 || c.toNat = 0x7F
  if maxLength < cs.length then .error .tooLong
  else
    match cs.findIdx? isControl with
    | some i => .error (.unprintable (cs.getD i ' ') i)
    | none =>
        let (scheme, rest) := splitScheme cs
        let (server, rest) :=
          match rest with
          | '/' :: '/' :: rest => rest.span fun c => c ≠ '/' && c ≠ '?' && c ≠ '#'
          | rest => ([], rest)
        let (path, query) := splitQuery rest
        let (user, host, port) := splitServer server
        let scheme := Text.lower (String.ofList scheme)
        match readHost host, readPort scheme port with
        | .error fault, _ => .error fault
        | _, .error fault => .error fault
        | .ok host, .ok port =>
            let located := !user.isEmpty || host ≠ "" || port.isSome
            let path := if scheme ≠ "" || located then resolveDots path else path
            .ok { scheme, located, host, port,
                  path := escape isPathChar path, query := query.map (escape isQueryChar) }

/-! ### What is sent -/

/-- The host with its port, as it is sent. -/
def server (u : Url) : String :=
  (if u.host.toList.contains ':' then "[" ++ u.host ++ "]" else u.host)
    ++ match u.port with
      | none => ""
      | some port => ":" ++ Text.ofInt port

/-- The path with its query, as it is sent. -/
def target (u : Url) : List Char :=
  (if u.path.isEmpty then ['/'] else u.path)
    ++ match u.query with
      | none => []
      | some query => '?' :: query

def withTarget (u : Url) (target : List Char) : Url :=
  let (path, query) :=
    match target.span (· ≠ '?') with
    | (path, _ :: query) => (path, some query)
    | (path, []) => (path, none)
  let path := if u.scheme ≠ "" || u.located then resolveDots path else path
  { u with path := escape isPathChar path, query := query.map (escape isQueryChar) }

def asFolder (u : Url) : Url :=
  if u.target.getLast? = some '/' then u else u.withTarget (u.target ++ ['/'])

def below (u : Url) (path : String) : Url :=
  u.withTarget (u.asFolder.target ++ path.toList.dropWhile (· = '/'))

end Url
end Telemetry
