import OntologyLint.Document.Reading
import OntologyLint.Files.Disk

set_option autoImplicit false

/-! Graphs from files. The files are read one after the other into one graph, and the first one that
cannot be read stops the loading. -/

namespace OntologyLint

inductive LoadError
  | unknownFormat (path : String)
  | unopened (path : String) (failure : OpenFailure)
  | unreadable (path : String)
  deriving DecidableEq, Inhabited

def LoadError.message : LoadError → String
  | .unknownFormat path =>
      "cannot infer RDF format of " ++ path ++ "; pass an explicit input format"
  | .unopened path _ => "failed to read " ++ path
  | .unreadable path => "failed to parse " ++ path

/-- What loading depends on: a disk, and a reader for the documents of each format. -/
structure Loader where
  disk : Disk
  read? : GraphFormat → Nat → String → Option (List Quad)

namespace Loader

def ofDisk (disk : Disk) : Loader := ⟨disk, GraphFormat.read?⟩

/-- The statements of one file. A format that is forced goes before the one that the path tells. -/
def quads (loader : Loader) (forced : Option GraphFormat) (document : Nat) (path : String) :
    Except LoadError (List Quad) :=
  match forced.or (GraphFormat.ofPath? path) with
  | none => .error (.unknownFormat path)
  | some format =>
      match loader.disk path with
      | .error failure => .error (.unopened path failure)
      | .ok .directory => .error (.unreadable path)
      | .ok (.file text) =>
          match loader.read? format document text with
          | none => .error (.unreadable path)
          | some quads => .ok quads

def statements (loader : Loader) (forced : Option GraphFormat) (document : Nat) :
    List String → Except LoadError (List Statement)
  | [] => .ok []
  | path :: rest => do
      let quads ← loader.quads forced document path
      let others ← loader.statements forced (document + 1) rest
      pure (quads.map Quad.statement ++ others)

/-- The graph of the statements of several files, whatever graphs they are filed under. -/
def graph (loader : Loader) (forced : Option GraphFormat) (document : Nat) (paths : List String) :
    Except LoadError Graph :=
  Graph.ofStatements <$> loader.statements forced document paths

end Loader

end OntologyLint
