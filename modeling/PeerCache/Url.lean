/-
Module: PeerCache.Url
Purpose: Absolute URLs: reading, writing, and adding segments to a path.
Main exports:
  Url, Url.parse, Url.text, Url.authority, Url.pushSegments?, Url.withoutUserinfo
-/
import PeerCache.Url.Host

/-!
A URL is read from the left: scheme, user information, host, port, path, query and
fragment.  The special schemes (`http` and its kin) always have a host, take a backslash
for a slash, and leave their default port out.  A scheme that no slash follows has a
rootless path, to which nothing can be added.

A path with a root is a list of segments, each written behind a slash.  Segments of one
or two dots are resolved while the path is read, so none is left in the list.  Segments
are escaped as they enter the list; what is in the list is what is written.

A letter with a colon or a bar, alone or before a backslash, names a drive; two dots do
not lead out of a drive.  The `file` scheme knows more of drives: the first segment of its
paths is one if it can be, and then there is no host; a break parts the drive at the front
from the segment that it stands in; and its paths never begin with an empty segment.

Where nothing stands between the scheme and a path that begins with an empty segment, the
two slashes would be taken for those of a host.  Such a path is guarded by a dot segment,
which stays although it is not one of the segments.
-/

namespace PeerCache

/-- The path of a URL. -/
inductive UrlPath where
  /-- A path without a root, which has no segments. -/
  | rootless (text : String)
  /-- A path with a root: its segments, escaped. -/
  | rooted (segments : List String)
deriving Repr, DecidableEq

/-- An absolute URL. -/
structure Url where
  scheme : String
  userinfo : String
  host : Option Url.Host
  port : Option Nat
  /-- Whether the path is guarded by a dot segment. -/
  isGuarded : Bool
  path : UrlPath
  query : Option String
  fragment : Option String
deriving Repr, DecidableEq

namespace Url

/-! ## Schemes -/

/-- The default ports of the special schemes that have a host. -/
def defaultPorts : List (String × Nat) :=
  [("http", 80), ("https", 443), ("ws", 80), ("wss", 443), ("ftp", 21)]

/-- Whether backslashes part the segments of a scheme's paths too. -/
def isSpecial (scheme : String) : Bool :=
  scheme = "file" || (defaultPorts.lookup scheme).isSome

/-! ## Reading -/

/-- Tab, line feed and carriage return, which count for nothing in a URL. -/
def isBreak (character : Char) : Bool :=
  character = '\t' || character = '\n' || character = '\r'

/-- Control characters and the space, which count for nothing around a URL. -/
def isBlank (character : Char) : Bool :=
  character.toNat ≤ 0x20

/-- The characters of a text without blanks around them. -/
def trimmed (text : String) : List Char :=
  ((text.toList.dropWhile isBlank).reverse.dropWhile isBlank).reverse

/-- Characters without the breaks between them. -/
def unbroken (characters : List Char) : List Char :=
  characters.filter fun character => !isBreak character

/-- Whether a character can stand in a scheme after its first letter. -/
def isSchemeCharacter (character : Char) : Bool :=
  character.isAlphanum || character = '+' || character = '-' || character = '.'

/-- The scheme in lower case and what follows its colon. -/
def splitScheme? (characters : List Char) : Option (String × List Char) :=
  match characters with
  | first :: _ =>
      if first.isAlpha then
        match characters.dropWhile isSchemeCharacter with
        | ':' :: rest =>
            some (String.ofList ((characters.takeWhile isSchemeCharacter).map Char.toLower), rest)
        | _ => none
      else none
  | [] => none

/-- Whether a character ends the authority. -/
def endsAuthority (special : Bool) (character : Char) : Bool :=
  character = '/' || character = '?' || character = '#' || (special && character = '\\')

/-- The part before the last at sign, if there is one, and the part after it. -/
def splitUserinfo (characters : List Char) : Option (List Char) × List Char :=
  if characters.contains '@' then
    let reversed := characters.reverse
    (some (reversed.dropWhile (· ≠ '@')).tail.reverse, (reversed.takeWhile (· ≠ '@')).reverse)
  else (none, characters)

/-- User information as it is written: name and password escaped, a colon only before
a password that is not empty. -/
def writeUserinfo (characters : List Char) : String :=
  let escape := fun part => Percent.encodeText Percent.inUserinfo (String.ofList part)
  let name := escape (characters.takeWhile (· ≠ ':'))
  match characters.dropWhile (· ≠ ':') with
  | _ :: first :: password => name ++ ":" ++ escape (first :: password)
  | _ => name

/-- The host and what follows it, up to a colon outside brackets. -/
def splitHost : (bracketed : Bool) → List Char → List Char × List Char
  | _, [] => ([], [])
  | bracketed, character :: rest =>
      if character = ':' ∧ bracketed = false then ([], character :: rest)
      else
        let inside := (bracketed || character = '[') && character ≠ ']'
        let (host, after) := splitHost inside rest
        (character :: host, after)

/-- The port that digits spell and what follows it; other characters may follow only
if they begin the path, query or fragment. -/
def readPort : (sofar : Nat) → List Char → Except ParseError (Nat × List Char)
  | sofar, [] => .ok (sofar, [])
  | sofar, character :: rest =>
      if character.isDigit then
        let port := 10 * sofar + (character.toNat - 0x30)
        if 65535 < port then .error .invalidPort else readPort port rest
      else if endsAuthority true character then .ok (sofar, character :: rest)
      else .error .invalidPort

/-- The port after a host, unless it is left out or the scheme's own. -/
def readPortOf (scheme : String) : List Char → Except ParseError (Option Nat × List Char)
  | ':' :: characters => do
      let (port, rest) ← readPort 0 characters
      let written := characters.head?.any Char.isDigit
      let isDefault := defaultPorts.lookup scheme = some port
      pure (if written && !isDefault then some port else none, rest)
  | characters => .ok (none, characters)

/-- The authority of a URL. -/
structure Authority where
  userinfo : String
  host : Host
  port : Option Nat
deriving Repr, DecidableEq

/-- The authority that follows two slashes, and what follows it. -/
def readAuthority (scheme : String) (characters : List Char) :
    Except ParseError (Authority × List Char) := do
  let special := isSpecial scheme
  let written := characters.takeWhile fun character => !endsAuthority special character
  let following := characters.dropWhile fun character => !endsAuthority special character
  let (userinfo, hostAndPort) := splitUserinfo written
  if userinfo = some [] ∧ hostAndPort = [] ∧ following ≠ [] then
    throw .emptyHost
  let (hostText, afterHost) := splitHost false hostAndPort
  if special ∧ hostText = [] then throw .emptyHost
  let host ← if special then Host.ofSpecial (String.ofList hostText)
    else Host.ofOther (String.ofList hostText)
  if host.isEmpty ∧ afterHost.head? = some ':' then throw .emptyHost
  let (port, rest) ← readPortOf scheme afterHost
  let user := writeUserinfo (userinfo.getD [])
  if host.isEmpty ∧ !user.isEmpty then throw .emptyHost
  pure (⟨user, host, port⟩, rest ++ following)

/-- Whether a character ends the path. -/
def endsPath (character : Char) : Bool :=
  character = '?' || character = '#'

/-- Whether a character parts segments. -/
def partsSegments (special : Bool) (character : Char) : Bool :=
  character = '/' || (special && character = '\\')

/-- The raw segments of a path without its leading slash. -/
def rawSegments (special : Bool) : List Char → List (List Char)
  | [] => [[]]
  | character :: rest =>
      if partsSegments special character then [] :: rawSegments special rest
      else
        match rawSegments special rest with
        | [] => [[character]]
        | segment :: segments => (character :: segment) :: segments

/-- Whether a raw segment is a dot, possibly escaped. -/
def isDot (segment : List Char) : Bool :=
  ["." , "%2e", "%2E"].contains (String.ofList segment)

/-- Whether a raw segment is two dots, possibly escaped. -/
def isDoubleDot (segment : List Char) : Bool :=
  ["..", "%2e%2e", "%2e%2E", "%2E%2e", "%2E%2E", "%2e.", "%2E.", ".%2e", ".%2E"].contains
    (String.ofList segment)

/-- Whether a segment names a drive. -/
def isDrive (segment : List Char) : Bool :=
  match segment with
  | [letter, mark] => letter.isAlpha && (mark = ':' || mark = '|')
  | _ => false

/-- Whether two dots do not lead out of a segment, since it names a drive, alone or before
a backslash. -/
def holdsDrive (segment : List Char) : Bool :=
  isDrive (segment.take 2) && (segment.length = 2 || (segment.drop 2).head? = some '\\')

/-- The segments without the last one, unless it names a drive. -/
def leave (segments : List String) : List String :=
  match segments.getLast? with
  | some last => if holdsDrive last.toList then segments else segments.dropLast
  | none => []

/-- A drive with a colon at the front of a segment, and what a break parts from it. -/
def partedDrive? (segment : List Char) : Option (List Char × List Char) :=
  let letter := unbroken (segment.takeWhile (· ≠ ':'))
  match segment.dropWhile (· ≠ ':') with
  | mark :: next :: rest =>
      let drive := letter ++ [mark]
      if isDrive drive && isBreak next && unbroken rest ≠ [] then some (drive, unbroken rest)
      else none
  | _ => none

/-- What a raw segment adds to a path of the `file` scheme that has no segments so far. -/
def frontSegments (segment : List Char) : List (List Char) :=
  match partedDrive? segment with
  | some (drive, rest) => [drive, rest]
  | none =>
      let kept := unbroken segment
      if isDrive kept then [kept.take 1 ++ [':']] else [kept]

/-- A path with one more raw segment, in which certain characters are escaped. -/
def append (scheme : String) (escaped : Char → Bool) (segments : List String)
    (segment : List Char) : List String :=
  let added :=
    if scheme = "file" ∧ segments = [] then frontSegments segment else [unbroken segment]
  segments ++ added.map fun part => Percent.encodeText escaped (String.ofList part)

/-- Takes one raw segment of a path that is read: a dot adds nothing, and two dots take the
last segment away. -/
def step (scheme : String) (segments : List String) (segment : List Char) : List String :=
  let kept := unbroken segment
  if isDoubleDot kept then leave segments
  else if isDot kept then segments
  else append scheme Percent.inPath segments segment

/-- The segments that raw segments spell; a path that ends in dots ends in an empty
segment. -/
def resolveSegments (scheme : String) (raw : List (List Char)) : List String :=
  let segments := raw.foldl (step scheme) []
  let endsInDots := (raw.getLast?.map unbroken).any fun last => isDot last || isDoubleDot last
  if endsInDots then segments ++ [""] else segments

/-- The segments of a path that begins behind an optional slash. -/
def readSegments (scheme : String) (path : List Char) : List String :=
  let special := isSpecial scheme
  match path with
  | [] => if special then [""] else []
  | first :: rest =>
      resolveSegments scheme (rawSegments special
        (if partsSegments special first then rest else first :: rest))

/-- The query and fragment that follow a path. -/
def readTail (special : Bool) (characters : List Char) : Option String × Option String :=
  let query := characters.takeWhile (· ≠ '#')
  let fragment := characters.dropWhile (· ≠ '#')
  let querySet := if special then Percent.inSpecialQuery else Percent.inQuery
  (match query with
    | '?' :: rest => some (Percent.encodeText querySet (String.ofList rest))
    | _ => none,
   match fragment with
    | _ :: rest => some (Percent.encodeText Percent.inFragment (String.ofList rest))
    | [] => none)

/-- A URL from its scheme, its authority, its segments and the characters after its
path. -/
def ofParts (scheme : String) (authority : Option Authority) (segments : List String)
    (characters : List Char) : Url :=
  let (query, fragment) := readTail (isSpecial scheme) characters
  { scheme
    userinfo := (authority.map Authority.userinfo).getD ""
    host := authority.map Authority.host
    port := authority.bind Authority.port
    isGuarded := authority.isNone && scheme ≠ "file" && segments.head? = some "" &&
      segments ≠ [""]
    path := .rooted segments
    query
    fragment }

/-- A URL from its scheme, its authority and the characters after that. -/
def assemble (scheme : String) (authority : Option Authority) (characters : List Char) : Url :=
  let path := characters.takeWhile fun character => !endsPath character
  ofParts scheme authority (readSegments scheme path)
    (characters.dropWhile fun character => !endsPath character)

/-- Drops the empty segments at the front of a path. -/
def dropEmptyFront (segments : List String) : List String :=
  match segments.dropWhile (· = "") with
  | [] => [""]
  | kept => kept

/-- Whether one of the raw segments that are added to a path of the `file` scheme becomes
a drive at its front. -/
def reachesDrive : (segments : List String) → List (List Char) → Bool
  | _, [] => false
  | segments, segment :: rest =>
      (segments = [] && isDrive (unbroken segment)) ||
        reachesDrive (step "file" segments segment) rest

/-- A URL of the `file` scheme from its host and the raw characters of its path, which
begins without a slash, and after it. -/
def assembleFile (host : Option Host) (characters : List Char) : Url :=
  let raw := rawSegments true (characters.takeWhile fun character => !endsPath character)
  let kept := if reachesDrive [] raw then none else host
  ofParts "file" (kept.map fun host => ⟨"", host, none⟩)
    (dropEmptyFront (resolveSegments "file" raw))
    (unbroken (characters.dropWhile fun character => !endsPath character))

/-- The characters behind a slash and any breaks before it, if that is how they begin. -/
def afterSlash? (characters : List Char) : Option (List Char) :=
  match characters.dropWhile isBreak with
  | first :: rest => if partsSegments true first then some rest else none
  | [] => none

/-- A URL of the `file` scheme whose host may follow: a drive is no host, and neither is
the local machine. -/
def readFileHost (characters : List Char) : Except ParseError Url := do
  let name := unbroken (characters.takeWhile fun character => !endsAuthority true character)
  let following := characters.dropWhile fun character => !endsAuthority true character
  if isDrive name then pure (assembleFile none characters)
  else if name = [] then pure (assembleFile none following)
  else
    let host ← Host.ofSpecial (String.ofList name)
    if host = .domain "localhost" then pure (assembleFile none following)
    else pure (assembleFile (some host) ((afterSlash? following).getD following))

/-- A URL of the `file` scheme, with its breaks. -/
def readFile (characters : List Char) : Except ParseError Url :=
  match afterSlash? characters with
  | none => .ok (assembleFile none characters)
  | some rest =>
      match afterSlash? rest with
      | none => .ok (assembleFile none rest)
      | some following => readFileHost following

/-- A URL without a root: everything up to the query is its path. -/
def rootlessUrl (scheme : String) (characters : List Char) : Url :=
  let path := characters.takeWhile fun character => !endsPath character
  let (query, fragment) := readTail false (characters.dropWhile fun character =>
    !endsPath character)
  { scheme
    userinfo := ""
    host := none
    port := none
    isGuarded := false
    path := .rootless (Percent.encodeText Percent.isControl (String.ofList path))
    query
    fragment }

/-- The URL that a text spells. -/
def parse (text : String) : Except ParseError Url :=
  match splitScheme? (unbroken (trimmed text)) with
  | none => .error .relativeWithoutBase
  | some (scheme, rest) =>
      if scheme = "file" then readFile (((trimmed text).dropWhile (· ≠ ':')).drop 1)
      else if isSpecial scheme then do
        let (authority, following) ← readAuthority scheme (rest.dropWhile (partsSegments true))
        pure (assemble scheme (some authority) following)
      else
        match rest with
        | '/' :: '/' :: afterSlashes => do
            let (authority, following) ← readAuthority scheme afterSlashes
            pure (assemble scheme (some authority) following)
        | '/' :: _ => .ok (assemble scheme none rest)
        | _ => .ok (rootlessUrl scheme rest)

/-! ## Writing -/

/-- A path as it is written. -/
def pathText : UrlPath → String
  | .rootless text => text
  | .rooted segments => "".intercalate (segments.map ("/" ++ ·))

/-- The host and port of a URL. -/
def authority (url : Url) : String :=
  match url.host with
  | none => ""
  | some host =>
      host.text ++ (match url.port with
        | none => ""
        | some port => ":" ++ toString port)

/-- What is written between the scheme's colon and the path. -/
def authorityText (url : Url) : String :=
  match url.host with
  | some _ => "//" ++ (if url.userinfo.isEmpty then "" else url.userinfo ++ "@") ++ url.authority
  | none => if url.scheme = "file" then "//" else if url.isGuarded then "/." else ""

/-- The query as it is written, with its mark. -/
def queryText (url : Url) : String :=
  match url.query with
  | none => ""
  | some query => "?" ++ query

/-- The fragment as it is written, with its mark. -/
def fragmentText (url : Url) : String :=
  match url.fragment with
  | none => ""
  | some fragment => "#" ++ fragment

/-- A URL without its fragment, as it is written. -/
def requestText (url : Url) : String :=
  url.scheme ++ ":" ++ url.authorityText ++ pathText url.path ++ url.queryText

/-- A URL as it is written. -/
def text (url : Url) : String :=
  url.requestText ++ url.fragmentText

/-- What a request for the URL names as its target: path and query. -/
def target (url : Url) : String :=
  pathText url.path ++ url.queryText

/-! ## Adding segments -/

/-- Drops the empty segment at the end of a path, unless it is the only one. -/
def dropEmptyEnd (segments : List String) : List String :=
  if segments.getLast? = some "" ∧ segments ≠ [""] then segments.dropLast else segments

/-- Adds one segment.  A segment of one or two dots adds nothing; one that becomes
such only without its breaks is resolved as in a path that is read. -/
def pushSegment (scheme : String) (segments : List String) (segment : String) : List String :=
  if segment = "." ∨ segment = ".." then segments
  else
    let opened := if segments = [""] then [] else segments
    let kept := unbroken segment.toList
    if kept = ['.', '.'] then leave opened ++ [""]
    else if kept = ['.'] then opened ++ [""]
    else
      append scheme (if isSpecial scheme then Percent.inSpecialSegment else Percent.inSegment)
        opened segment.toList

/-- The URL with segments added to its path; none if its path has no segments. -/
def pushSegments? (url : Url) (added : List String) : Option Url :=
  match url.path with
  | .rootless _ => none
  | .rooted segments =>
      some { url with
        path := .rooted (added.foldl (pushSegment url.scheme) (dropEmptyEnd segments)) }

/-! ## User information -/

/-- The name in the user information, escaped. -/
def userName (url : Url) : String :=
  String.ofList (url.userinfo.toList.takeWhile (· ≠ ':'))

/-- The password in the user information, escaped, if there is one. -/
def password? (url : Url) : Option String :=
  match url.userinfo.toList.dropWhile (· ≠ ':') with
  | _ :: password => some (String.ofList password)
  | [] => none

/-- Whether the user information can be sent in a header: the name is a text, and not
empty unless there is a password that is a text. -/
def hasReadableUser (url : Url) : Bool :=
  match Percent.decodeText? url.userName with
  | none => false
  | some name => !name.isEmpty || (url.password?.bind Percent.decodeText?).isSome

/-- The URL without user information that is sent in a header instead. -/
def withoutUserinfo (url : Url) : Url :=
  if url.hasReadableUser then { url with userinfo := "" } else url

/-- Whether a URL names a host. -/
def hasHost (url : Url) : Bool :=
  url.host.any fun host => !host.isEmpty

end Url

end PeerCache
