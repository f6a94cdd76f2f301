import Telemetry.Metric.Plain
import Telemetry.Text.Html

/-!
# The overview page

The page lists every metric on a line of its own, with its name, its kind and its value.
-/

namespace Telemetry.Collector.Page

def item (r : Reading) : String :=
  "<li>" ++ Html.escape r.name ++ " (" ++ r.kind.word ++ "): " ++ Html.escape r.toPlain ++ "</li>"

/-- The page before its items. -/
def opening : String :=
  "<!DOCTYPE html>\n<html>\n<head><title>Metrics</title></head>\n<body>\n<h1>Metrics</h1>\n<ul>\n"

/-- The page after its items. -/
def closing : String := "\n</ul>\n</body>\n</html>\n"

def render (snapshot : List Reading) : String :=
  opening ++ String.intercalate "\n" (snapshot.map item) ++ closing

end Telemetry.Collector.Page
