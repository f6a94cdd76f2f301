import Telemetry.Http
import Telemetry.Text.Percent

/-!
# Routes

A path leads to at most one route, and a route has one method.  A parameter is a part of the
path between slashes and is not empty.  A path that leads nowhere as it stands may lead
somewhere without the slashes at its end; it is then redirected.
-/

namespace Telemetry.Collector

/-- What a path may lead to. -/
inductive Route
  | overview
  | ping
  | update
  | updates
  | read
  | plainUpdate (kind name value : String)
  | plainRead (kind name : String)
  deriving DecidableEq

namespace Route

def method : Route → String
  | overview | ping | plainRead .. => "GET"
  | update | updates | read | plainUpdate .. => "POST"

/-- A fixed part of a path at its end, which a line break may follow. -/
def endsWith (word part : String) : Bool := part = word || part = word ++ "\n"

def ofParts? : List String → Option Route
  | ["", part] =>
      if endsWith "" part then some overview
      else if endsWith "ping" part then some ping
      else if endsWith "update" part then some update
      else if endsWith "updates" part then some updates
      else if endsWith "value" part then some read
      else none
  | ["", "update", kind, name, value] =>
      if kind ≠ "" && name ≠ "" && value ≠ "" then some (plainUpdate kind name value) else none
  | ["", "value", kind, name] =>
      if kind ≠ "" && name ≠ "" then some (plainRead kind name) else none
  | _ => none

def ofPath? (path : String) : Option Route :=
  ofParts? ((path.toList.splitOn '/').map String.ofList)

/-- A path without the slashes at its end. -/
def withoutSlashes (path : String) : String :=
  String.ofList (path.toList.reverse.dropWhile (· = '/')).reverse

/-- The path that a path which leads nowhere is redirected to. -/
def redirect? (path : String) : Option String :=
  if path = "/" then none
  else
    let other := if path.endsWith "/" then withoutSlashes path else path ++ "/"
    (ofPath? other).map fun _ => other

/-- The characters that stand for themselves in a location, besides the unreserved ones. -/
def isPlainInLocation (b : UInt8) : Bool :=
  Percent.isUnreserved b || (":/%#?=@[]!$&'()*+,;".toList.any fun c => c.toNat = b.toNat)

def location (host path : String) : String :=
  String.ofList (Percent.encodeBytes isPlainInLocation
    (Utf8.encode ("http://" ++ host ++ path)))

end Route
end Telemetry.Collector
