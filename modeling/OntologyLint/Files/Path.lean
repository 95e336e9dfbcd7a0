import OntologyLint.Text.Fields

set_option autoImplicit false

/-! Paths of files as texts. Segments stand between slashes; an empty segment and a single dot lead
nowhere, except that a leading slash starts at the root. -/

namespace OntologyLint.Path

def segments (path : String) : List String := (Text.fields '/' path.toList).map String.ofList

def isIdle (segment : String) : Bool := segment == "" || segment == "."

def isAbsolute (path : String) : Bool := path.toList.head? == some '/'

def trimIdle (parts : List String) : List String := (parts.reverse.dropWhile isIdle).reverse

/-- The last segment that leads somewhere, if it names a file or a directory. -/
def fileName? (path : String) : Option String :=
  (trimIdle (segments path)).getLast?.filter (· != "..")

/-- What follows the last dot of the file name. A dot at its start begins no extension. -/
def extension? (path : String) : Option String :=
  match fileName? path with
  | none => none
  | some name =>
      match (Text.fields '.' name.toList).reverse with
      | last :: earlier :: others =>
          if earlier.isEmpty && others.isEmpty then none else some (String.ofList last)
      | _ => none

def parent (path : String) : String :=
  let directory := trimIdle (trimIdle (segments path)).dropLast
  if directory.isEmpty then
    if (segments path).length ≤ 1 then ""
    else if isAbsolute path then "/"
    else if (segments path).head? = some "." then "."
    else ""
  else "/".intercalate directory

def join (directory path : String) : String :=
  if isAbsolute path || directory.isEmpty then path
  else if directory.toList.getLast? = some '/' then directory ++ path
  else directory ++ "/" ++ path

end OntologyLint.Path
