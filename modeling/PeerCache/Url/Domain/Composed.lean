/-
Module: PeerCache.Url.Domain.Composed
Purpose: The one spelling of a text among those that look the same.
Main exports:
  Domain.compose
-/
import PeerCache.Url.Domain.CombiningClass
import PeerCache.Url.Domain.Composite

/-!
A character with marks can be spelled as composites or part by part.  To make two
spellings one, composites are taken apart, the marks are put in the order of their
classes, and the parts are put together again as far as they go.

A mark is put together with the last character of class zero before it, its base, unless
a mark between them has the same class or a higher one.
-/

namespace PeerCache.Domain

/-- How often the base of a composite can be a composite again. -/
def maxDepth : Nat := 4

/-- A character taken apart, that many levels deep. -/
def takeApart : (depth : Nat) → Char → List Char
  | 0, character => [character]
  | depth + 1, character =>
      match parts? character with
      | none => [character]
      | some (base, mark) => takeApart depth base ++ [mark]

/-- Puts a mark behind those of its class and lower ones; the text is given last
character first. -/
def place (character : Char) : List Char → List Char
  | [] => [character]
  | last :: before =>
      if 0 < combiningClass character ∧ combiningClass character < combiningClass last then
        last :: place character before
      else character :: last :: before

/-- The characters with all composites taken apart and the marks in order. -/
def decompose (characters : List Char) : List Char :=
  ((characters.flatMap (takeApart maxDepth)).foldl (fun placed character =>
    place character placed) []).reverse

/-- A text being put together. -/
structure Assembly where
  /-- What is finished, last character first. -/
  finished : List Char
  /-- The last character of class zero. -/
  base : Option Char
  /-- The marks that stay apart from it, last first. -/
  marks : List Char

namespace Assembly

/-- Everything so far, last character first. -/
def all (assembly : Assembly) : List Char :=
  assembly.marks ++ assembly.base.toList ++ assembly.finished

/-- The composite of the base and a character, unless a mark between keeps them apart. -/
def joined? (assembly : Assembly) (character : Char) : Option Char :=
  let isApart := assembly.marks.head?.any fun mark =>
    combiningClass character ≤ combiningClass mark
  if isApart then none else assembly.base.bind fun base => composite? base character

/-- Adds a character. -/
def add (assembly : Assembly) (character : Char) : Assembly :=
  match assembly.joined? character with
  | some composite => { assembly with base := some composite }
  | none =>
      if combiningClass character = 0 then ⟨assembly.all, some character, []⟩
      else { assembly with marks := character :: assembly.marks }

end Assembly

/-- The characters put together as far as they go. -/
def compose (characters : List Char) : List Char :=
  ((decompose characters).foldl Assembly.add ⟨[], none, []⟩).all.reverse

end PeerCache.Domain
