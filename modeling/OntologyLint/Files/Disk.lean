import OntologyLint.Files.Path

set_option autoImplicit false

/-! Where files are read from. A disk answers every path with a file, a directory, or the reason why
there is neither. -/

namespace OntologyLint

inductive OpenFailure
  | notFound
  | notADirectory
  | invalidInput
  | invalidFilename
  deriving DecidableEq, Inhabited

/-- What a path leads to. A directory can be opened, but it holds no text. -/
inductive Opened
  | file (text : String)
  | directory
  deriving DecidableEq, Inhabited

abbrev Disk : Type := String → Except OpenFailure Opened

def Disk.hasEntry (disk : Disk) (path : String) : Bool :=
  match disk path with
  | .ok _ => true
  | .error _ => false

def Disk.read? (disk : Disk) (path : String) : Option String :=
  match disk path with
  | .ok (.file text) => some text
  | _ => none

/-- Files in a working directory, by their paths from there. Directories exist where they hold
files. -/
structure FileTree where
  files : List (String × String)

namespace FileTree

def namesOf (path : String) : List String :=
  (Path.segments path).filter (fun segment => !Path.isIdle segment)

def fileAt? (tree : FileTree) (names : List String) : Option String :=
  (tree.files.find? (fun file => namesOf file.1 = names)).map Prod.snd

def isDirectory (tree : FileTree) (names : List String) : Bool :=
  names.isEmpty ||
    tree.files.any (fun file => names.isPrefixOf (namesOf file.1) && namesOf file.1 != names)

def nameLimit : Nat := 255

def pathLimit : Nat := 4095

/-- Where a walk along a path has come to: a directory of the tree, by its names from the inside
out, or a directory around the tree. -/
inductive Position
  | inside (names : List String)
  | outside

def follow (tree : FileTree) (position : Position) : List String → Except OpenFailure Opened
  | [] => .ok .directory
  | segment :: rest =>
      if Path.isIdle segment then tree.follow position rest
      else if segment = ".." then
        match position with
        | .inside (_ :: outer) => tree.follow (.inside outer) rest
        | _ => tree.follow .outside rest
      else if nameLimit < segment.utf8ByteSize then .error .invalidFilename
      else
        match position with
        | .outside => .error .notFound
        | .inside names =>
            let path := (segment :: names).reverse
            if tree.isDirectory path then tree.follow (.inside (segment :: names)) rest
            else
              match tree.fileAt? path with
              | none => .error .notFound
              | some text => if rest.isEmpty then .ok (.file text) else .error .notADirectory

/-- The files of a working directory as a disk. Nothing is known beyond the directory. -/
def disk (tree : FileTree) : Disk := fun path =>
  if path.toList.contains '\x00' then .error .invalidInput
  else if path.isEmpty then .error .notFound
  else if pathLimit < path.utf8ByteSize then .error .invalidFilename
  else tree.follow (if Path.isAbsolute path then .outside else .inside []) (Path.segments path)

end FileTree

end OntologyLint
