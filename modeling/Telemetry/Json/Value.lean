import Telemetry.Double

/-!
# JSON values

Fields keep their order and may repeat; looking one up finds the last of its name.  Whole
numbers are exact and of any size; numbers with a fraction or an exponent are doubles.
-/

namespace Telemetry

/-- A JSON value. -/
inductive Json
  | null
  | bool (value : Bool)
  | int (value : Int)
  | float (value : Double)
  | string (value : String)
  | array (items : List Json)
  | object (fields : List (String × Json))

namespace Json

/-- The last entry of a name among the fields. -/
def last? (name : String) (fields : List (String × α)) : Option α :=
  (fields.reverse.find? fun field => field.1 = name).map (·.2)

def field? (name : String) : Json → Option Json
  | object fields => last? name fields
  | _ => none

@[simp] theorem last?_concat (name : String) (fields : List (String × α)) (value : α) :
    last? name (fields ++ [(name, value)]) = some value := by
  simp [last?]

end Json
end Telemetry
