/-!
JSON values.
-/

namespace Acceptor

/-- A JSON value.  Of a number with a fraction or an exponent only the spelling is kept.
The fields of an object stand in the order in which they were written; a name may occur
more than once. -/
inductive Json where
  | null
  | boolean (value : Bool)
  | integer (value : Int)
  | real (spelling : String)
  | string (value : String)
  | array (items : List Json)
  | object (fields : List (String × Json))
  deriving Repr, Inhabited

namespace Json

def lastNamed? (name : String) : List (String × Json) → Option Json
  | [] => none
  | (other, value) :: rest =>
      match lastNamed? name rest with
      | some later => some later
      | none => if other = name then some value else none

/-- The value of a field of an object; of fields with one name the last counts. -/
def field? (name : String) : Json → Option Json
  | object fields => lastNamed? name fields
  | _ => none

end Json

end Acceptor
