set_option autoImplicit false

/-! The labels by which nodes are shown that have none of their own. A label is made of the number
of the document and the number of the node in it. -/

namespace OntologyLint

def paddedHex (value : Nat) : List Char :=
  let digits := Nat.toDigits 16 value
  List.replicate (16 - digits.length) '0' ++ digits

def anonymousLabel (document node : Nat) : String :=
  String.ofList (paddedHex document ++ paddedHex node)

end OntologyLint
