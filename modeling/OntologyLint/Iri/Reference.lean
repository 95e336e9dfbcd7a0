import OntologyLint.Iri.Host

set_option autoImplicit false

/-! IRI references and their resolution. A reference is taken apart into five parts, and what it
leaves out is taken from a base. A path without a scheme or an authority before it leads along its
dot segments; every other path, and the path of the base, is left as it is written. -/

namespace OntologyLint

structure IriReference where
  scheme : Option (List Char) := none
  authority : Option (List Char) := none
  path : List Char := []
  query : Option (List Char) := none
  fragment : Option (List Char) := none
  deriving DecidableEq, Inhabited

namespace IriReference

open Iri

def cutScheme (text : List Char) : Option (List Char) × List Char :=
  let (scheme, rest) := text.span isSchemeChar
  match scheme, rest with
  | first :: _, ':' :: after => if first.isAlpha then (some scheme, after) else (none, text)
  | _, _ => (none, text)

def cutAuthority : List Char → Option (List Char) × List Char
  | '/' :: '/' :: rest =>
      let (authority, after) := rest.span (fun char => char != '/' && char != '?' && char != '#')
      (some authority, after)
  | text => (none, text)

def afterMark? (mark : Char) : List Char → Option (List Char)
  | [] => none
  | char :: rest => if char = mark then some rest else none

def split (text : List Char) : IriReference :=
  let (scheme, rest) := cutScheme text
  let (authority, rest) := cutAuthority rest
  let (path, rest) := rest.span (fun char => char != '?' && char != '#')
  let (query, rest) := rest.span (· != '#')
  { scheme, authority, path, query := afterMark? '?' query, fragment := afterMark? '#' rest }

def join (reference : IriReference) : List Char :=
  (match reference.scheme with
    | some scheme => scheme ++ [':']
    | none => []) ++
  (match reference.authority with
    | some authority => '/' :: '/' :: authority
    | none => []) ++
  reference.path ++
  (match reference.query with
    | some query => '?' :: query
    | none => []) ++
  (match reference.fragment with
    | some fragment => '#' :: fragment
    | none => [])

def firstSegment (reference : IriReference) : List Char := reference.path.takeWhile (· != '/')

/-- Every part holds only what it may hold. Without a scheme and an authority, a colon in the first
segment would be read as the end of a scheme. -/
def isWellFormed (reference : IriReference) : Bool :=
  reference.authority.all isAuthority && consistsOf isPathChar reference.path &&
    reference.query.all (consistsOf isQueryChar) &&
    reference.fragment.all (consistsOf isFragmentChar) &&
    (reference.scheme.isSome || reference.authority.isSome ||
      !reference.firstSegment.contains ':')

/-- A path as the place of further segments. After an authority it starts with a slash. -/
def asDirectory (hasAuthority : Bool) (path : List Char) : List Char :=
  if path.isEmpty && hasAuthority then ['/'] else path

def directory (hasAuthority : Bool) (path : List Char) : List Char :=
  asDirectory hasAuthority (path.reverse.dropWhile (· != '/')).reverse

def parent (hasAuthority : Bool) (place : List Char) : List Char :=
  directory hasAuthority place.dropLast

/-- Two slashes at the start of a path would be read as the mark of an authority. -/
def isAmbiguous (hasAuthority : Bool) (path : List Char) : Bool :=
  -- Two slashes at the start would be read as the mark of an authority.
  !hasAuthority && ['/', '/'].isPrefixOf path

/-- Where segments lead from a directory. From an ambiguous place they can only lead back. -/
def walk (hasAuthority : Bool) (place : List Char) : List (List Char) → Option (List Char)
  | [] => some place
  | segment :: rest =>
      if segment = ['.', '.'] then walk hasAuthority (parent hasAuthority place) rest
      else if isAmbiguous hasAuthority place then none
      else if segment = ['.'] then walk hasAuthority place rest
      else if rest.isEmpty then some (place ++ segment)
      else walk hasAuthority (place ++ segment ++ ['/']) rest

def follow (base : IriReference) (path : List Char) : Option (List Char) :=
  match path with
  | '/' :: below => walk base.authority.isSome ['/'] (Text.fields '/' below)
  | _ =>
      let place := directory base.authority.isSome base.path
      walk base.authority.isSome place (Text.fields '/' path)

def resolve (base reference : IriReference) : Option IriReference :=
  if reference.scheme.isSome then some reference
  else if reference.authority.isSome then some { reference with scheme := base.scheme }
  else
    let located := { reference with scheme := base.scheme, authority := base.authority }
    if reference.path.isEmpty then
      some { located with
        path := base.path
        query := if reference.query.isSome then reference.query else base.query }
    else do return { located with path := ← base.follow reference.path }

end IriReference

namespace Iri

def absolute? (text : String) : Option String :=
  let reference := IriReference.split text.toList
  if reference.scheme.isSome && reference.isWellFormed then some text else none

def hasPath (text : String) : Bool := !(IriReference.split text.toList).path.isEmpty

/-- The IRI that a text means: absolute, or seen from a base, if there is one. -/
def resolve? (base : Option String) (text : String) : Option String :=
  match base with
  | none => absolute? text
  | some base =>
      let reference := IriReference.split text.toList
      if reference.isWellFormed then
        ((IriReference.split base.toList).resolve reference).map
          (fun resolved => String.ofList resolved.join)
      else none

end Iri

end OntologyLint
