/-
Module: PeerCache.Route.Pattern
Purpose: Patterns of paths, which of several matching ones counts, and which clash.
Main exports:
  SegmentPattern, Pattern, Pattern.ofPath?, Pattern.captures?, Pattern.stumbles,
  Pattern.outranks, Pattern.clashes
-/
import PeerCache.Text.Split

/-!
A path is cut at its slashes, undecoded.  A pattern says of each segment that it is a
given text, or that it is a parameter, possibly behind a given text; its last piece may
take all segments that are left.  A parameter in the last place and a remainder must
not be empty.

Of the patterns that match a path the most specific counts: at the first place where
two differ, a given text goes before a parameter, and a parameter before a remainder.
What parameters are called makes no difference.  A pattern whose parameter is followed
in a path by nothing but a last slash stumbles over that slash, and the patterns after
it do not count either.

Two patterns that differ first in a parameter and a remainder, or not at all, clash and
cannot serve together.
-/

namespace PeerCache.Route

/-- What one segment of a path must look like. -/
inductive SegmentPattern where
  /-- The given text. -/
  | literal (text : String)
  /-- The given text followed by a parameter. -/
  | parameter (start name : String)
  /-- This segment and all after it. -/
  | remainder (name : String)
deriving Repr, DecidableEq

/-- A pattern of paths. -/
abbrev Pattern := List SegmentPattern

/-- The segments of a path, which begins with a slash. -/
def segments? (path : String) : Option (List String) :=
  match path.toList with
  | '/' :: rest => some ((Text.splitOn '/' rest).map String.ofList)
  | _ => none

/-- The pattern of one segment of a path in which a colon begins a parameter; none if
the parameter has no proper name, or the segment holds an asterisk. -/
def SegmentPattern.ofSegment? (segment : String) : Option SegmentPattern :=
  let characters := segment.toList
  let start := characters.takeWhile (· ≠ ':')
  if characters.contains '*' then none
  else
    match characters.drop start.length with
    | [] => some (.literal segment)
    | _ :: name =>
        if name.isEmpty || name.contains ':' then none
        else some (.parameter (String.ofList start) (String.ofList name))

namespace Pattern

/-- The pattern of a path without its last slash; the empty path has no segments. -/
def ofPath? (path : String) : Option Pattern :=
  if path.isEmpty then some []
  else (segments? path).bind fun segments => segments.mapM SegmentPattern.ofSegment?

/-- The parameters of a path that matches, undecoded and in order. -/
def captures? : Pattern → List String → Option (List (String × String))
  | [], [] => some []
  | [.remainder name], segments =>
      let text := "/".intercalate segments
      if text.isEmpty then none else some [(name, text)]
  | .literal text :: pattern, segment :: segments =>
      if text = segment then captures? pattern segments else none
  | .parameter start name :: pattern, segment :: segments =>
      match segment.toList.drop start.length with
      | value =>
          if segment.toList.take start.length = start.toList ∧
              (pattern ≠ [] ∨ value ≠ []) then
            (captures? pattern segments).map ((name, String.ofList value) :: ·)
          else none
  | _, _ => none

/-- Whether a parameter takes all of a path but a last slash. -/
def stumbles : Pattern → List String → Bool
  | .literal text :: pattern, segment :: segments => text = segment && stumbles pattern segments
  | .parameter start _ :: pattern, segment :: segments =>
      start.toList.isPrefixOf segment.toList && (segments = [""] || stumbles pattern segments)
  | _, _ => false

/-- How little a piece says about a segment. -/
def rank : SegmentPattern → Nat
  | .literal _ => 0
  | .parameter start _ => if start.isEmpty then 2 else 1
  | .remainder _ => 3

/-- Whether two pieces admit the same segments, whatever they are called. -/
def sameShape : SegmentPattern → SegmentPattern → Bool
  | .literal first, .literal second => first = second
  | .parameter first _, .parameter second _ => first = second
  | .remainder _, .remainder _ => true
  | _, _ => false

/-- Whether a pattern counts before another that matches the same path. -/
def outranks : Pattern → Pattern → Bool
  | first :: firstRest, second :: secondRest =>
      if sameShape first second then outranks firstRest secondRest else rank first < rank second
  | _, _ => false

/-- Whether a piece admits any segment. -/
def isOpen : SegmentPattern → Bool
  | .literal _ => false
  | .parameter start _ => start.isEmpty
  | .remainder _ => true

/-- Whether two patterns cannot serve together. -/
def clashes : Pattern → Pattern → Bool
  | [], [] => true
  | first :: firstRest, second :: secondRest =>
      if sameShape first second then clashes firstRest secondRest
      else isOpen first && isOpen second
  | _, _ => false

/-- The number of parameters. -/
def parameters (pattern : Pattern) : Nat :=
  pattern.countP fun piece =>
    match piece with
    | .parameter _ _ => true
    | _ => false

end Pattern

end PeerCache.Route
