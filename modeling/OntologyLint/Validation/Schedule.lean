import OntologyLint.Violation.Set

set_option autoImplicit false

/-! Ways to share work out. A schedule cuts a list into consecutive chunks and says in which order
their results are put together. -/

namespace OntologyLint

inductive Schedule (α : Type)
  | chunk (items : List α)
  | both (first second : Schedule α)

namespace Schedule

def items {α : Type} : Schedule α → List α
  | .chunk items => items
  | .both first second => first.items ++ second.items

/-- Cuts a list into halves until the parts have at most one element, or `depth` times. -/
def halving {α : Type} : Nat → List α → Schedule α
  | 0, items => .chunk items
  | depth + 1, items =>
      if items.length ≤ 1 then .chunk items
      else
        .both (halving depth (items.take (items.length / 2)))
          (halving depth (items.drop (items.length / 2)))

end Schedule

end OntologyLint
