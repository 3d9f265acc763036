/-
Module: PeerCache.Http.Target
Purpose: What the first line of a request names.
Main exports:
  Http.Target, Http.Target.ofText, Http.Target.text
-/

/-!
A request mostly names a path and a query.  It may also name a whole address, of which
the path counts; or nothing but a host and port, which has no path.  What follows a
number sign is not part of it.
-/

namespace PeerCache.Http

/-- What a request names. -/
structure Target where
  /-- What stands in front of the path: nothing, a scheme and a host, or a host alone. -/
  origin : String
  path : String
  query : Option String
deriving Repr, DecidableEq, Inhabited

namespace Target

/-- The target as it is written. -/
def text (target : Target) : String :=
  target.origin ++ target.path ++
    (match target.query with
      | none => ""
      | some query => "?" ++ query)

/-- Whether a character ends a path. -/
def endsPath (character : Char) : Bool :=
  character = '?' || character = '#'

/-- A target from its origin and the characters of its path and query. -/
def ofParts (origin : String) (characters : List Char) : Target :=
  let query :=
    match characters.dropWhile fun character => !endsPath character with
    | '?' :: rest => some (String.ofList (rest.takeWhile (· ≠ '#')))
    | _ => none
  ⟨origin, String.ofList (characters.takeWhile fun character => !endsPath character), query⟩

/-- Whether a character can stand in a scheme. -/
def isSchemeCharacter (character : Char) : Bool :=
  character.isAlphanum || ['+', '-', '.', '~'].contains character

/-- A scheme as it is written; those of the web in small letters. -/
def schemeText (scheme : String) : String :=
  let small := String.ofList (scheme.toList.map Char.toLower)
  if small = "http" ∨ small = "https" then small else scheme

/-- The target with a scheme; one without a path stands for the root. -/
def ofAddress (scheme : String) (characters : List Char) : Target :=
  let endsHost := fun character : Char => character = '/' || endsPath character
  let host := characters.takeWhile fun character => !endsHost character
  let target :=
    ofParts (schemeText scheme ++ "://" ++ String.ofList host)
      (characters.dropWhile fun character => !endsHost character)
  if target.path = "" then { target with path := "/" } else target

/-- The target that a text names. -/
def ofText (text : String) : Target :=
  let characters := text.toList
  match characters with
  | '/' :: _ => ofParts "" characters
  | ['*'] => ofParts "" characters
  | _ =>
      match characters.dropWhile isSchemeCharacter with
      | ':' :: '/' :: '/' :: rest =>
          ofAddress (String.ofList (characters.takeWhile isSchemeCharacter)) rest
      | _ => ⟨text, "", none⟩

/-- The number sign and what follows it are left out. -/
example : (ofText "/a?b#c").text = "/a?b" := by decide +kernel

/-- An address without a path names the root. -/
example : (ofText "http://host").text = "http://host/" := by decide +kernel

end Target

end PeerCache.Http
