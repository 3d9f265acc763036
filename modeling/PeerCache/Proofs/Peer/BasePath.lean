/-
Module: PeerCache.Proofs.Peer.BasePath
Purpose: What a base path is made of, and which paths lie below it.
Main exports:
  PoolOptions.IsBase, PoolOptions.exists_isBase, Route.segments?_ofList,
  Routes.peerPattern?_of_isBase, Routes.destination_ofPeers, Routes.destination_of_plain,
  Routes.destination_ofPeers_of_ofBasePath, Routes.destination_beside
-/
import Mathlib.Data.List.TakeWhile
import PeerCache.Peer.Pool
import PeerCache.Proofs.Url.Segments
import PeerCache.Route

/-!
A base path is normalized before anybody uses it: it is some pieces, each behind a slash, and a
slash at its end (`IsBase`).  A client adds segments behind that slash; a server takes the
slashes at the end off and puts its wildcard there instead.

A piece of a base path may look like a parameter to a server.  A path that matches has a value
for each of these then, and one more for the wildcard; since exactly one value is admitted, such
a path is a fault.  So a path that is no fault has the pieces of the base path themselves at its
front, and the rest is what the wildcard stands for (`destination_ofPeers`).
-/

namespace PeerCache

open Url (pathCharacters AllSettled)

/-! ## Paths as they are written -/

namespace Url

variable {segments : List String}

theorem toList_pathText (segments : List String) :
    (pathText (.rooted segments)).toList = pathCharacters segments := by
  rw [pathText, String.toList_intercalate]
  induction segments with
  | nil => rfl
  | cons segment rest hyp =>
      cases rest with
      | nil => simp [pathCharacters, List.intercalate]
      | cons next others =>
          simp only [List.map_cons, List.intercalate, List.intersperse, List.flatten_cons] at hyp ⊢
          rw [hyp]
          simp [pathCharacters]

theorem pathCharacters_append (first second : List String) :
    pathCharacters (first ++ second) = pathCharacters first ++ pathCharacters second :=
  List.flatMap_append

/-- A path that was cut at its slashes is put together again. -/
theorem pathCharacters_splitOn (characters : List Char) :
    pathCharacters ((Text.splitOn '/' characters).map String.ofList) = '/' :: characters := by
  induction characters with
  | nil => rfl
  | cons character rest hyp =>
      unfold Text.splitOn
      split
      · next isSlash =>
          rw [List.map_cons, ← List.singleton_append, pathCharacters_append, hyp, isSlash]
          rfl
      · cases pieces : Text.splitOn '/' rest with
        | nil => exact absurd pieces (Text.splitOn_ne_nil '/' rest)
        | cons piece others =>
            rw [pieces] at hyp
            simpa [pathCharacters] using hyp

/-- A path ends in a slash only if its last segment is empty. -/
theorem getLast?_pathCharacters (free : ∀ segment ∈ segments, '/' ∉ segment.toList)
    (ends : segments.getLast? ≠ some "") : (pathCharacters segments).getLast? ≠ some '/' := by
  rcases List.eq_nil_or_concat segments with rfl | ⟨front, last, rfl⟩
  · simp [pathCharacters]
  · rw [List.concat_eq_append] at free ends ⊢
    rw [List.getLast?_concat] at ends
    have inLast := free last (List.mem_append_right front List.mem_cons_self)
    have some_character : last.toList ≠ [] := fun isEmpty => ends (by simpa using isEmpty)
    intro isSlash
    rw [pathCharacters_append, List.getLast?_append] at isSlash
    have written : pathCharacters [last] = ['/'] ++ last.toList := by simp [pathCharacters]
    rw [written, List.getLast?_append] at isSlash
    cases lastOfAll : last.toList.getLast? with
    | none => exact some_character (List.getLast?_eq_none_iff.mp lastOfAll)
    | some character =>
        obtain rfl : character = '/' := by simpa [lastOfAll] using isSlash
        exact inLast (List.mem_of_getLast? lastOfAll)

end Url

namespace Route

/-- The segments of a path are read back from it. -/
theorem segments?_ofList {segments : List String} (some_segment : segments ≠ [])
    (free : ∀ segment ∈ segments, '/' ∉ segment.toList) :
    segments? (String.ofList (pathCharacters segments)) = some segments := by
  cases segments with
  | nil => exact absurd rfl some_segment
  | cons segment rest =>
      obtain ⟨inSegment, inRest⟩ := List.forall_mem_cons.mp free
      have written : pathCharacters (segment :: rest) =
          '/' :: (segment.toList ++ pathCharacters rest) := by simp [pathCharacters]
      rw [segments?, String.toList_ofList, written]
      simp only [Url.splitOn_pathCharacters inSegment inRest, List.map_map]
      simp [Function.comp_def]

end Route

namespace PoolOptions

/-- The base path consists of the pieces, each behind a slash, and a slash at its end. -/
structure IsBase (basePath : String) (pieces : List String) : Prop where
  whole : basePath.toList = pathCharacters (pieces ++ [""])
  free : ∀ piece ∈ pieces, '/' ∉ piece.toList
  ends : pieces.getLast? ≠ some ""

theorem getLast?_trimSlashes (characters : List Char) :
    (trimSlashes characters).getLast? ≠ some '/' := by
  intro isSlash
  rw [trimSlashes, List.getLast?_reverse] at isSlash
  have stops := List.head?_dropWhile_not (fun character : Char => decide (character = '/'))
    (characters.dropWhile (· = '/')).reverse
  simp [isSlash] at stops

/-- Every normalized base path has its pieces, which hold no other characters. -/
theorem exists_isBase (basePath : String) :
    ∃ pieces, IsBase (normalizedBasePath basePath) pieces := by
  unfold normalizedBasePath
  split
  · exact ⟨["_groupcache"], rfl, by decide, by decide⟩
  · dsimp only
    split
    · exact ⟨[], rfl, by simp, by simp⟩
    · next some_character =>
        refine ⟨(Text.splitOn '/' (trimSlashes basePath.toList)).map String.ofList, ?_, ?_, ?_⟩
        · rw [String.toList_ofList, Url.pathCharacters_append, Url.pathCharacters_splitOn]
          rfl
        · intro piece member
          obtain ⟨characters, inside, rfl⟩ := List.mem_map.mp member
          rw [String.toList_ofList]
          exact Text.not_mem_of_mem_splitOn inside
        · intro isEmpty
          obtain ⟨front, pieces⟩ := List.getLast?_eq_some_iff.mp isEmpty
          have written := Url.pathCharacters_splitOn (trimSlashes basePath.toList)
          have lastSlash : pathCharacters [""] = ['/'] := rfl
          rw [pieces, Url.pathCharacters_append, lastSlash] at written
          have last := congrArg List.getLast? written
          rw [List.getLast?_concat, List.getLast?_cons_of_ne_nil (by simpa using some_character)]
            at last
          exact getLast?_trimSlashes basePath.toList last.symm

theorem IsBase.head? {basePath : String} {pieces : List String} (isBase : IsBase basePath pieces) :
    basePath.toList.head? = some '/' := by
  rw [isBase.whole]
  cases pieces <;> rfl

theorem IsBase.getLast? {basePath : String} {pieces : List String}
    (isBase : IsBase basePath pieces) : basePath.toList.getLast? = some '/' := by
  have lastSlash : pathCharacters [""] = ['/'] := rfl
  rw [isBase.whole, Url.pathCharacters_append, lastSlash, List.getLast?_concat]

/-- Without the slashes at its end a base path is its pieces. -/
theorem IsBase.trimEnd {basePath : String} {pieces : List String}
    (isBase : IsBase basePath pieces) :
    Text.trimEnd '/' basePath = String.ofList (pathCharacters pieces) := by
  have lastSlash : pathCharacters [""] = ['/'] := rfl
  have noSlash := Url.getLast?_pathCharacters isBase.free isBase.ends
  rw [Text.trimEnd, isBase.whole, Url.pathCharacters_append, lastSlash, List.reverse_append,
    List.reverse_singleton, List.singleton_append, List.dropWhile_cons_of_pos (by decide)]
  rw [← List.head?_reverse] at noSlash
  cases backwards : (pathCharacters pieces).reverse with
  | nil => rw [List.reverse_eq_nil_iff.mp backwards]; rfl
  | cons last front =>
      have differs : last ≠ '/' := by simpa [backwards] using noSlash
      rw [List.dropWhile_cons_of_neg (by simpa using differs), ← backwards, List.reverse_reverse]

/-! ## Plain base paths -/

/-- A letter or digit, a hyphen, an underscore or a slash. -/
def IsPlainCharacter (character : Char) : Prop :=
  character.isAlphanum = true ∨ character = '-' ∨ character = '_' ∨ character = '/'

instance (character : Char) : Decidable (IsPlainCharacter character) :=
  inferInstanceAs (Decidable (_ ∨ _))

theorem IsPlainCharacter.ascii {character : Char} (plain : IsPlainCharacter character) :
    character.toNat < 0x80 := by
  rcases plain with isAlphanum | rfl | rfl | rfl
  · delta Char.isAlphanum Char.isAlpha Char.isUpper Char.isLower Char.isDigit at isAlphanum
    simp only [Bool.or_eq_true, Bool.and_eq_true, decide_eq_true_eq, ge_iff_le,
      UInt32.le_iff_toNat_le] at isAlphanum
    have code : character.toNat = character.val.toNat := rfl
    have upper : 'Z'.val.toNat = 90 := by decide
    have lower : 'z'.val.toNat = 122 := by decide
    have digit : '9'.val.toNat = 57 := by decide
    omega
  · decide
  · decide
  · decide

/-- A plain character means nothing but itself to a client or a server, unless it is a slash. -/
theorem IsPlainCharacter.means_itself {character : Char} (plain : IsPlainCharacter character)
    (notSlash : character ≠ '/') :
    Url.IsSettledCharacter character ∧ character ∉ [':', '*', '.', '%'] := by
  have table : ∀ code < 0x80, IsPlainCharacter (Char.ofNat code) → Char.ofNat code ≠ '/' →
      Url.IsSettledCharacter (Char.ofNat code) ∧ Char.ofNat code ∉ [':', '*', '.', '%'] := by
    decide +kernel
  have here := table character.toNat plain.ascii
  rw [Char.ofNat_toNat] at here
  exact here plain notSlash

/-- A normalized base path holds no characters but those that it was given, or those of the
usual one. -/
theorem forall_mem_normalizedBasePath {basePath : String} {holds : Char → Prop}
    (usual : ∀ character ∈ defaultBasePath.toList, holds character)
    (given : ∀ character ∈ basePath.toList, holds character) :
    ∀ character ∈ (normalizedBasePath basePath).toList, holds character := by
  have slash : holds '/' := usual '/' (by decide)
  unfold normalizedBasePath
  split
  · exact usual
  · dsimp only
    split
    · intro character member
      obtain rfl : character = '/' := by simpa using member
      exact slash
    · intro character member
      rw [String.toList_ofList, List.mem_append, List.mem_cons, List.mem_singleton] at member
      rcases member with (rfl | inside) | rfl
      · exact slash
      · have kept : character ∈ basePath.toList := by
          have inFront := List.mem_reverse.mp ((List.dropWhile_sublist _).mem
            (List.mem_reverse.mp inside))
          exact (List.dropWhile_sublist _).mem inFront
        exact given character kept
      · exact slash

/-- The pieces of a plain base path are read as they are, by a client and by a server. -/
theorem IsBase.pieces_of_plain {basePath : String} {pieces : List String}
    (isBase : IsBase (normalizedBasePath basePath) pieces)
    (plain : ∀ character ∈ basePath.toList, IsPlainCharacter character) :
    AllSettled pieces ∧ ∀ piece ∈ pieces, ':' ∉ piece.toList ∧ '*' ∉ piece.toList := by
  have usual : ∀ character ∈ defaultBasePath.toList, IsPlainCharacter character :=
    Text.forall_mem_of_all (by decide)
  have inPiece : ∀ piece ∈ pieces, ∀ character ∈ piece.toList,
      Url.IsSettledCharacter character ∧ character ∉ [':', '*', '.', '%'] := by
    intro piece inside character member
    have isPlain : IsPlainCharacter character := by
      apply forall_mem_normalizedBasePath usual plain
      rw [isBase.whole, Url.pathCharacters_append]
      apply List.mem_append_left
      exact List.mem_flatMap.mpr ⟨piece, inside, List.mem_cons_of_mem '/' member⟩
    have notSlash : character ≠ '/' := by
      rintro rfl
      exact isBase.free piece inside member
    exact isPlain.means_itself notSlash
  constructor
  · intro piece inside
    refine ⟨fun character member => (inPiece piece inside character member).1, fun isDots => ?_⟩
    have marked : ∀ dots ∈ Percent.dotForms, '.' ∈ dots.toList ∨ '%' ∈ dots.toList := by decide
    rcases marked piece isDots with stop | percent
    · exact absurd (inPiece piece inside '.' stop).2 (by decide)
    · exact absurd (inPiece piece inside '%' percent).2 (by decide)
  · intro piece inside
    constructor
    · intro colon
      exact absurd (inPiece piece inside ':' colon).2 (by decide)
    · intro asterisk
      exact absurd (inPiece piece inside '*' asterisk).2 (by decide)

end PoolOptions

/-! ## Patterns -/

namespace Route

open SegmentPattern (ofSegment?)

variable {pieces literals segments : List String} {segment text name : String}
  {base : Pattern} {captures : List (String × String)}

/-- A piece without a colon or an asterisk stands for itself. -/
theorem ofSegment?_of_plain (noColon : ':' ∉ segment.toList) (noAsterisk : '*' ∉ segment.toList) :
    ofSegment? segment = some (.literal segment) := by
  have start : segment.toList.takeWhile (· ≠ ':') = segment.toList := by
    apply List.takeWhile_eq_self_iff.mpr
    intro character member
    refine decide_eq_true fun isColon => noColon ?_
    exact isColon ▸ member
  simp only [ofSegment?, start, List.drop_length]
  simp [noAsterisk]

theorem eq_of_ofSegment?_literal (found : ofSegment? segment = some (.literal text)) :
    text = segment := by
  unfold ofSegment? at found
  dsimp only at found
  split at found
  · cases found
  · split at found
    · cases found
      rfl
    · split at found <;> cases found

theorem mapM_of_plain (plain : ∀ piece ∈ pieces, ':' ∉ piece.toList ∧ '*' ∉ piece.toList) :
    pieces.mapM ofSegment? = some (pieces.map .literal) := by
  induction pieces with
  | nil => rfl
  | cons piece rest hyp =>
      obtain ⟨⟨noColon, noAsterisk⟩, inRest⟩ := List.forall_mem_cons.mp plain
      rw [List.mapM_cons, ofSegment?_of_plain noColon noAsterisk, hyp inRest]
      rfl

/-- Pieces that all stand for themselves are what the pattern was made from. -/
theorem eq_of_mapM_literal (found : pieces.mapM ofSegment? = some (literals.map .literal)) :
    literals = pieces := by
  induction pieces generalizing literals with
  | nil => cases literals <;> simp_all
  | cons piece rest hyp =>
      rw [List.mapM_cons] at found
      simp only [Option.bind_eq_bind, Option.bind_eq_some_iff, Option.pure_def,
        Option.some.injEq] at found
      obtain ⟨first, made, others, madeRest, whole⟩ := found
      cases literals with
      | nil => cases whole
      | cons literal more =>
          rw [List.map_cons, List.cons.injEq] at whole
          obtain ⟨rfl, rfl⟩ := whole
          rw [eq_of_ofSegment?_literal made, hyp madeRest]

/-- The pattern of a path is made piece by piece. -/
theorem ofPath?_ofList (free : ∀ piece ∈ pieces, '/' ∉ piece.toList) :
    Pattern.ofPath? (String.ofList (pathCharacters pieces)) = pieces.mapM ofSegment? := by
  by_cases none_there : pieces = []
  · subst none_there
    rfl
  · have some_character : (String.ofList (pathCharacters pieces)).isEmpty = false := by
      obtain ⟨piece, rest, rfl⟩ := List.exists_cons_of_ne_nil none_there
      simp [pathCharacters]
    rw [Pattern.ofPath?, some_character, segments?_ofList none_there free]
    rfl

/-- What a pattern with a remainder at its end captures: more than one value, or all that
follows its own pieces. -/
theorem captures?_append_remainder
    (found : Pattern.captures? (base ++ [.remainder name]) segments = some captures) :
    2 ≤ captures.length ∨ ∃ literals rest, base = literals.map .literal ∧
      segments = literals ++ rest ∧ captures = [(name, "/".intercalate rest)] := by
  induction base generalizing segments captures with
  | nil =>
      right
      refine ⟨[], segments, rfl, rfl, ?_⟩
      simp only [List.nil_append, Pattern.captures?] at found
      split at found
      · cases found
      · exact (Option.some.inj found).symm
  | cons piece base hyp =>
      cases segments with
      | nil => cases piece <;> simp [Pattern.captures?] at found
      | cons segment rest =>
          cases piece with
          | literal text =>
              simp only [List.cons_append, Pattern.captures?] at found
              split at found
              · next same =>
                  subst same
                  rcases hyp found with several | ⟨literals, after, rfl, rfl, isAll⟩
                  · exact Or.inl several
                  · exact Or.inr ⟨text :: literals, after, rfl, rfl, isAll⟩
              · cases found
          | parameter start parameter =>
              simp only [List.cons_append, Pattern.captures?] at found
              split at found
              · obtain ⟨others, inRest, rfl⟩ := Option.map_eq_some_iff.mp found
                left
                rcases hyp inRest with several | ⟨_, _, _, _, rfl⟩
                · exact Nat.le_succ_of_le several
                · exact Nat.le_refl 2
              · cases found
          | remainder other => simp [Pattern.captures?] at found

theorem captures?_literals (literals rest : List String) (some_text : "/".intercalate rest ≠ "") :
    Pattern.captures? (literals.map .literal ++ [.remainder name]) (literals ++ rest) =
      some [(name, "/".intercalate rest)] := by
  induction literals with
  | nil => simp [Pattern.captures?, some_text]
  | cons literal others hyp => simp [Pattern.captures?, hyp]

end Route

namespace Routes

variable {captures : List (String × String)}

theorem length_of_decoded {texts : List String} (found : decoded captures = .ok texts) :
    texts.length = captures.length := by
  induction captures generalizing texts with
  | nil =>
      cases found
      rfl
  | cons entry rest hyp =>
      unfold decoded at found
      split at found
      · cases found
      · cases inRest : decoded rest with
        | error parameter => simp [inRest, Except.map] at found
        | ok others =>
            rw [inRest] at found
            cases found
            simp [hyp inRest]

/-- More than one value is a fault. -/
theorem exists_fault (several : 2 ≤ captures.length) :
    ∃ fault, remainder captures = .error fault := by
  unfold remainder
  cases found : decoded captures with
  | error parameter => exact ⟨_, rfl⟩
  | ok texts =>
      have length := length_of_decoded found
      match texts with
      | [] => exact ⟨_, rfl⟩
      | [_] => simp only [List.length_singleton] at length; omega
      | _ :: _ :: _ => exact ⟨_, rfl⟩

/-! ## Where a path leads -/

variable {basePath : String} {pieces segments : List String} {routes : Routes}

/-- The pattern below a base path, piece by piece. -/
theorem peerPattern?_of_isBase (isBase : PoolOptions.IsBase basePath pieces) :
    peerPattern? basePath = (pieces.mapM Route.SegmentPattern.ofSegment?).bind fun base =>
      if maxParameters < Route.Pattern.parameters base then none
      else some (base ++ [.remainder "path"]) := by
  rw [peerPattern?, isBase.trimEnd, Route.ofPath?_ofList isBase.free]
  cases pieces.mapM Route.SegmentPattern.ofSegment? with
  | none => rfl
  | some base =>
      simp only [Option.bind_eq_bind, Option.bind_some]
      split <;> rfl

/-- With the peer protocol alone, a path leads to the remainder of its pattern or nowhere. -/
theorem destination_of_captures {pattern : Route.Pattern} (some_segment : segments ≠ [])
    (free : ∀ segment ∈ segments, '/' ∉ segment.toList) :
    destination ⟨[(.peer, pattern)]⟩ (String.ofList (pathCharacters segments)) =
      match pattern.captures? segments with
      | none => .unrouted
      | some captures => .peer (remainder captures) := by
  rw [destination, find?, Route.segments?_ofList some_segment free]
  simp only [Option.bind_some, findIn]
  cases pattern.captures? segments with
  | none => simp
  | some captures => rfl

/-- A path that is taken for one of the peer protocol is a fault, or has the pieces of the base
path at its front. -/
theorem destination_ofPeers (isBase : PoolOptions.IsBase basePath pieces)
    (found : ofPeers? basePath = some routes) (some_segment : segments ≠ [])
    (free : ∀ segment ∈ segments, '/' ∉ segment.toList) :
    routes.destination (String.ofList (pathCharacters segments)) = .unrouted ∨
      (∃ fault, routes.destination (String.ofList (pathCharacters segments)) =
        .peer (.error fault)) ∨
      ∃ rest, segments = pieces ++ rest ∧
        routes.destination (String.ofList (pathCharacters segments)) =
          .peer (remainder [("path", "/".intercalate rest)]) := by
  obtain ⟨pattern, isPattern, rfl⟩ := Option.map_eq_some_iff.mp found
  rw [peerPattern?_of_isBase isBase, Option.bind_eq_some_iff] at isPattern
  obtain ⟨base, made, isPattern⟩ := isPattern
  split at isPattern
  · cases isPattern
  obtain rfl := Option.some.inj isPattern
  rw [destination_of_captures some_segment free]
  cases captured : Route.Pattern.captures? (base ++ [.remainder "path"]) segments with
  | none => exact Or.inl rfl
  | some captures =>
      right
      rcases Route.captures?_append_remainder captured with
        several | ⟨literals, rest, rfl, same, rfl⟩
      · obtain ⟨fault, isFault⟩ := exists_fault several
        left
        exact ⟨fault, congrArg Destination.peer isFault⟩
      · right
        rw [Route.eq_of_mapM_literal made] at same
        exact ⟨rest, same, rfl⟩

/-- The pattern of a base path without parameters. -/
theorem peerPattern?_of_plain (isBase : PoolOptions.IsBase basePath pieces)
    (plain : ∀ piece ∈ pieces, ':' ∉ piece.toList ∧ '*' ∉ piece.toList) :
    peerPattern? basePath = some (pieces.map .literal ++ [.remainder "path"]) := by
  have noParameters : Route.Pattern.parameters (pieces.map .literal) = 0 := by
    rw [Route.Pattern.parameters, List.countP_eq_zero]
    intro piece member
    obtain ⟨text, -, rfl⟩ := List.mem_map.mp member
    simp
  rw [peerPattern?_of_isBase isBase, Route.mapM_of_plain plain, Option.bind_some, noParameters]
  rfl

/-- A base path without parameters is served, and what follows it is the remainder. -/
theorem destination_of_plain (isBase : PoolOptions.IsBase basePath pieces)
    (plain : ∀ piece ∈ pieces, ':' ∉ piece.toList ∧ '*' ∉ piece.toList) :
    ∃ routes, ofPeers? basePath = some routes ∧
      ∀ rest, "/".intercalate rest ≠ "" → (∀ segment ∈ rest, '/' ∉ segment.toList) →
        routes.destination (String.ofList (pathCharacters (pieces ++ rest))) =
          .peer (remainder [("path", "/".intercalate rest)]) := by
  have isPattern := peerPattern?_of_plain isBase plain
  refine ⟨⟨[(.peer, pieces.map .literal ++ [.remainder "path"])]⟩, ?_, ?_⟩
  · rw [ofPeers?, isPattern]
    rfl
  · intro rest some_text free
    have some_rest : rest ≠ [] := by
      rintro rfl
      exact some_text rfl
    have some_segment : pieces ++ rest ≠ [] := fun isEmpty =>
      some_rest (List.append_eq_nil_iff.mp isEmpty).2
    have freeAll : ∀ segment ∈ pieces ++ rest, '/' ∉ segment.toList := by
      intro segment member
      rcases List.mem_append.mp member with before | after
      · exact isBase.free segment before
      · exact free segment after
    rw [destination_of_captures some_segment freeAll,
      Route.captures?_literals pieces rest some_text]

/-! ## Beside the public paths -/

theorem eq_or_mem_of_mem_insert {endpoint : Endpoint} {pattern : Route.Pattern}
    {table : List (Endpoint × Route.Pattern)} {entry : Endpoint × Route.Pattern}
    (member : entry ∈ insert endpoint pattern table) :
    entry = (endpoint, pattern) ∨ entry ∈ table := by
  induction table with
  | nil => exact Or.inl (List.mem_singleton.mp member)
  | cons first rest hyp =>
      unfold insert at member
      split at member
      · exact List.mem_cons.mp member
      · rcases List.mem_cons.mp member with rfl | inRest
        · exact Or.inr List.mem_cons_self
        · exact (hyp inRest).imp_right (List.mem_cons_of_mem first)

/-- An endpoint that is found is one of the table, and its pattern matches. -/
theorem exists_of_findIn {table : List (Endpoint × Route.Pattern)} {candidate : Candidate}
    (found : findIn segments table = some candidate) :
    ∃ pattern, (candidate.endpoint, pattern) ∈ table ∧
      pattern.captures? segments = some candidate.captures := by
  induction table with
  | nil => cases found
  | cons entry rest hyp =>
      obtain ⟨endpoint, pattern⟩ := entry
      unfold findIn at found
      split at found
      · next captured =>
          cases found
          exact ⟨pattern, List.mem_cons_self, captured⟩
      · split at found
        · cases found
        · obtain ⟨other, inRest, captured⟩ := hyp found
          exact ⟨other, List.mem_cons_of_mem _ inRest, captured⟩

/-- A path of the peer protocol is one that its endpoint was found for. -/
theorem exists_candidate_of_peer {path : String} {remainder : Except RemainderFault String}
    (leads : routes.destination path = .peer remainder) :
    ∃ segments captures, Route.segments? path = some segments ∧
      findIn segments routes.table = some ⟨.peer, captures⟩ ∧
      Routes.remainder captures = remainder := by
  unfold destination at leads
  cases found : routes.find? path with
  | none => rw [found] at leads; cases leads
  | some candidate =>
      obtain ⟨segments, isPath, inTable⟩ := Option.bind_eq_some_iff.mp found
      obtain ⟨endpoint, captures⟩ := candidate
      rw [found] at leads
      refine ⟨segments, captures, isPath, ?_⟩
      cases endpoint with
      | peer => exact ⟨inTable, Destination.peer.inj leads⟩
      | cache =>
          dsimp only at leads
          split at leads <;> simp_all
      | stats =>
          dsimp only at leads
          split at leads <;> simp_all

/-- What a node with public paths takes for a path of the peer protocol is one where that is
served alone, and means the same. -/
theorem destination_ofPeers_of_ofBasePath {path : String}
    {remainder : Except RemainderFault String} (beside : ofBasePath? basePath = some routes)
    (leads : routes.destination path = .peer remainder) :
    ∃ alone, ofPeers? basePath = some alone ∧ alone.destination path = .peer remainder := by
  unfold ofBasePath? at beside
  obtain ⟨pattern, isPattern, beside⟩ := Option.bind_eq_some_iff.mp beside
  dsimp only at beside
  split at beside
  · cases beside
  · cases beside
    obtain ⟨segments, captures, isPath, inTable, rfl⟩ := exists_candidate_of_peer leads
    obtain ⟨other, inInsert, captured⟩ := exists_of_findIn inTable
    have isOnly : other = pattern := by
      rcases eq_or_mem_of_mem_insert inInsert with same | isPublic
      · exact congrArg Prod.snd same
      · simp at isPublic
    subst isOnly
    refine ⟨⟨[(.peer, other)]⟩, by rw [ofPeers?, isPattern]; rfl, ?_⟩
    rw [destination, find?, isPath, Option.bind_some, findIn, captured]

/-- Where no other endpoint matches, the one that was added is found. -/
theorem findIn_insert (endpoint : Endpoint) {pattern : Route.Pattern}
    {captures : List (String × String)} (captured : pattern.captures? segments = some captures)
    {table : List (Endpoint × Route.Pattern)}
    (aside : ∀ entry ∈ table, entry.2.captures? segments = none ∧
      entry.2.stumbles segments = false) :
    findIn segments (insert endpoint pattern table) = some ⟨endpoint, captures⟩ := by
  induction table with
  | nil => simp only [insert, findIn, captured]
  | cons first rest hyp =>
      obtain ⟨⟨missed, steady⟩, others⟩ := List.forall_mem_cons.mp aside
      unfold insert
      split
      · simp only [findIn, captured]
      · simp only [findIn, missed, steady, Bool.false_eq_true, if_false]
        exact hyp others

/-- Public paths do not stand in the way of a base path that begins with another piece. -/
theorem destination_beside {first : String} {pieces : List String} {alone : Routes} {path : String}
    {remainder : Except RemainderFault String}
    (isBase : PoolOptions.IsBase basePath (first :: pieces))
    (plain : ∀ piece ∈ first :: pieces, ':' ∉ piece.toList ∧ '*' ∉ piece.toList)
    (notCache : first ≠ "cache") (notStats : first ≠ "stats")
    (beside : ofBasePath? basePath = some routes) (found : ofPeers? basePath = some alone)
    (leads : alone.destination path = .peer remainder) :
    routes.destination path = .peer remainder := by
  obtain ⟨pattern, isPattern, rfl⟩ := Option.map_eq_some_iff.mp found
  obtain ⟨segments, captures, isPath, inTable, rfl⟩ := exists_candidate_of_peer leads
  obtain ⟨other, inAlone, captured⟩ := exists_of_findIn inTable
  obtain rfl : other = pattern := congrArg Prod.snd (List.mem_singleton.mp inAlone)
  -- the segments begin as the base path does
  have begins : ∃ rest, segments = first :: rest := by
    obtain rfl := Option.some.inj (isPattern.symm.trans (peerPattern?_of_plain isBase plain))
    cases segments with
    | nil => cases captured
    | cons segment rest =>
        rw [List.map_cons, List.cons_append, Route.Pattern.captures?] at captured
        split at captured
        case isTrue same => exact ⟨rest, same ▸ rfl⟩
        case isFalse => cases captured
  obtain ⟨rest, rfl⟩ := begins
  have aside : ∀ entry ∈ [(Endpoint.cache, cachePattern), (.stats, statsPattern)],
      entry.2.captures? (first :: rest) = none ∧ entry.2.stumbles (first :: rest) = false := by
    simp [cachePattern, statsPattern, Route.Pattern.captures?, Route.Pattern.stumbles,
      notCache.symm, notStats.symm]
  have isInserted := findIn_insert .peer captured aside
  unfold ofBasePath? at beside
  rw [isPattern] at beside
  simp only [Option.bind_eq_bind, Option.bind_some] at beside
  split at beside
  · cases beside
  · cases beside
    rw [destination, find?, isPath, Option.bind_some, isInserted]

end Routes

end PeerCache
