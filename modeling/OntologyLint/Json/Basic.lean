set_option autoImplicit false

/-! JSON values. A number keeps the digits that it is written with, so that no number is too large
or too fine to be kept. -/

namespace OntologyLint

inductive Json
  | null
  | boolean (value : Bool)
  | number (digits : String)
  | string (text : String)
  | list (items : List Json)
  | object (fields : List (String × Json))
  deriving Inhabited

namespace Json

def natural (value : Nat) : Json := .number (toString value)

end Json

end OntologyLint
