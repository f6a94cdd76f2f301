/-!
# Lines

Text files may end their lines in three ways; they are read as if all ended in a line feed.
-/

namespace Telemetry.Text

def unifyBreaks : List Char → List Char
  | '\r' :: '\n' :: rest => '\n' :: unifyBreaks rest
  | '\r' :: rest => '\n' :: unifyBreaks rest
  | c :: rest => c :: unifyBreaks rest
  | [] => []

end Telemetry.Text
