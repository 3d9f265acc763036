/-
Module: PeerCache.Proofs.Url.Segments
Purpose: Which segments the path of a web address can have, and how it comes to have them.
Main exports:
  Url.IsSettled, Url.AllSettled, Url.pathCharacters, Url.readSegments_pathCharacters,
  Url.allSettled_readSegments, Url.allSettled_pushSegment, Url.push_group_and_key
-/
import PeerCache.Proofs.Url.Escaping

/-!
A segment is settled (`IsSettled`) if nothing about it changes when the path that it stands in
is written and read again: no character of it would be escaped or part it in two, and it is not
dots.

Whatever path is read, and whatever segments are added to it, the segments that come out are
settled (`allSettled_readSegments`, `allSettled_pushSegment`).  Conversely a path that is
written in settled segments is read as these segments (`readSegments_pathCharacters`).  So of
two texts that are to be the same path, one of them a path that was read, both are written in
settled segments, which are the same.

All of this is about the schemes of the web, where a backslash is a slash.
-/

namespace PeerCache

/-- What holds of the characters of a text is checked one by one. -/
theorem Text.forall_mem_of_all {holds : Char → Prop} [DecidablePred holds] {text : String}
    (all : text.toList.all (fun character => decide (holds character)) = true) :
    ∀ character ∈ text.toList, holds character := by
  simpa using all

namespace Url

open Percent (dotForms)

variable {scheme segment text group key : String} {segments more : List String}
  {characters : List Char} {character : Char}

/-- A path is written as a slash before each segment. -/
def pathCharacters (segments : List String) : List Char :=
  segments.flatMap fun segment => '/' :: segment.toList

/-- The character stands as itself in a path, and does not part segments. -/
def IsSettledCharacter (character : Char) : Prop :=
  character.toNat < 0x80 ∧ Percent.inPath character = false ∧
    partsSegments true character = false

instance (character : Char) : Decidable (IsSettledCharacter character) :=
  inferInstanceAs (Decidable (_ ∧ _))

/-- A segment is left as it is when it is read as a part of a path. -/
structure IsSettled (segment : String) : Prop where
  characters : ∀ character ∈ segment.toList, IsSettledCharacter character
  notDots : segment ∉ dotForms

/-- All segments are settled. -/
def AllSettled (segments : List String) : Prop :=
  ∀ segment ∈ segments, IsSettled segment

theorem isSettled_empty : IsSettled "" := ⟨by simp, by decide⟩

theorem AllSettled.append (first : AllSettled segments) (second : AllSettled more) :
    AllSettled (segments ++ more) := by
  intro segment member
  rcases List.mem_append.mp member with before | after
  · exact first segment before
  · exact second segment after

theorem allSettled_singleton (settled : IsSettled segment) : AllSettled [segment] := by
  simpa [AllSettled] using settled

/-! ## Characters -/

namespace IsSettledCharacter

theorem printable (settled : IsSettledCharacter character) : 0x20 < character.toNat := by
  have kept := settled.2.1
  simp only [Percent.inPath, Percent.inFragment, Percent.isControl, Bool.or_eq_false_iff,
    decide_eq_false_iff_not] at kept
  have notSpace : character.toNat ≠ 0x20 := fun same =>
    kept.1.1.1.1.1.1.1.1.2 (Char.toNat_inj.mp same)
  omega

theorem not_isBreak (settled : IsSettledCharacter character) : isBreak character = false := by
  have printable := settled.printable
  rw [isBreak, Bool.or_eq_false_iff, Bool.or_eq_false_iff]
  refine ⟨⟨?_, ?_⟩, ?_⟩ <;> rw [decide_eq_false_iff_not] <;> rintro rfl <;>
    exact absurd printable (by decide)

theorem not_endsPath (settled : IsSettledCharacter character) : endsPath character = false := by
  have kept := settled.2.1
  simp only [Percent.inPath, Bool.or_eq_false_iff, decide_eq_false_iff_not] at kept
  simp [endsPath, kept]

theorem ne_slash (settled : IsSettledCharacter character) : character ≠ '/' := by
  rintro rfl
  exact absurd settled.2.2 (by decide)

theorem ne_backslash (settled : IsSettledCharacter character) : character ≠ '\\' := by
  rintro rfl
  exact absurd settled.2.2 (by decide)

end IsSettledCharacter

/-- The characters that are written for an escaped byte are settled. -/
theorem isSettledCharacter_hexDigit :
    ∀ number < 16, IsSettledCharacter (Percent.hexDigit number) := by decide +kernel

theorem isSettledCharacter_percent : IsSettledCharacter '%' := by decide +kernel

theorem unbroken_eq_self (free : ∀ character ∈ characters, isBreak character = false) :
    unbroken characters = characters :=
  List.filter_eq_self.mpr fun character member => by simp [free character member]

theorem mem_pathCharacters (settled : AllSettled segments)
    (member : character ∈ pathCharacters segments) :
    character = '/' ∨ IsSettledCharacter character := by
  obtain ⟨segment, inside, here⟩ := List.mem_flatMap.mp member
  rcases List.mem_cons.mp here with slash | inSegment
  · exact Or.inl slash
  · exact Or.inr ((settled segment inside).characters character inSegment)

/-- There are no breaks in a path in settled segments. -/
theorem AllSettled.not_isBreak (settled : AllSettled segments)
    (member : character ∈ pathCharacters segments) : isBreak character = false := by
  rcases mem_pathCharacters settled member with rfl | isSettled
  · decide
  · exact isSettled.not_isBreak

theorem AllSettled.backslash_not_mem (settled : AllSettled segments) :
    '\\' ∉ pathCharacters segments := by
  intro member
  rcases mem_pathCharacters settled member with isSlash | isSettled
  · exact absurd isSlash (by decide)
  · exact isSettled.ne_backslash rfl

/-- A path in settled segments goes on to its end. -/
theorem AllSettled.not_endsPath (settled : AllSettled segments)
    (member : character ∈ pathCharacters segments) : endsPath character = false := by
  rcases mem_pathCharacters settled member with rfl | isSettled
  · decide
  · exact isSettled.not_endsPath

namespace IsSettled

theorem unbroken_eq (settled : IsSettled segment) : unbroken segment.toList = segment.toList :=
  unbroken_eq_self fun character member => (settled.characters character member).not_isBreak

theorem encodeText_eq (settled : IsSettled segment) :
    Percent.encodeText Percent.inPath segment = segment := by
  have same := Percent.encode_of_plain fun character member =>
    ⟨(settled.characters character member).1, (settled.characters character member).2.1⟩
  rw [String.ofList_toList] at same
  rw [Percent.encodeText, same, String.ofList_toList]

theorem slash_not_mem (settled : IsSettled segment) : '/' ∉ segment.toList := fun member =>
  (settled.characters '/' member).ne_slash rfl

end IsSettled

/-! ## What is written is settled -/

theorem isDots_iff : (isDot characters || isDoubleDot characters) = true ↔
    String.ofList characters ∈ dotForms := by
  simp [isDot, isDoubleDot, dotForms, or_assoc]

/-- What is written for a text is settled: where all that parts segments and all that a path
escapes is escaped, unless it does not occur, and the text is not dots, unless these are
escaped too. -/
theorem isSettled_encodeText {escaped : Percent.EscapeSet} (keepsStop : escaped '.' = false)
    (plain : ∀ character ∈ characters, character.toNat < 0x80 → escaped character = false →
      IsSettledCharacter character)
    (notDots : String.ofList characters ∈ dotForms →
      ∃ character ∈ characters, escaped character = true) :
    IsSettled (Percent.encodeText escaped (String.ofList characters)) := by
  constructor
  · rw [Percent.encodeText, String.toList_ofList]
    exact Percent.forall_mem_encode isSettledCharacter_percent isSettledCharacter_hexDigit plain
  · intro isDots
    obtain ⟨same, kept⟩ := Percent.eq_of_encode_eq_dots keepsStop isDots
      (by rw [Percent.encodeText, String.toList_ofList])
    obtain ⟨character, inside, replaced⟩ :=
      notDots (by rw [same, String.ofList_toList]; exact isDots)
    rw [kept character inside] at replaced
    cases replaced

/-- What is written for one segment of a path that is read. -/
theorem isSettled_encodeText_inPath
    (whole : ∀ character ∈ characters, partsSegments true character = false)
    (notDots : String.ofList characters ∉ dotForms) :
    IsSettled (Percent.encodeText Percent.inPath (String.ofList characters)) :=
  isSettled_encodeText (by decide)
    (fun character member ascii kept => ⟨ascii, kept, whole character member⟩)
    fun isDots => absurd isDots notDots

/-- A character that one segment keeps is settled. -/
theorem isSettledCharacter_of_kept (ascii : character.toNat < 0x80)
    (kept : Percent.inSpecialSegment character = false) : IsSettledCharacter character := by
  simp only [Percent.inSpecialSegment, Percent.inSegment, Bool.or_eq_false_iff] at kept
  obtain ⟨⟨⟨inPath, slash⟩, -⟩, backslash⟩ := kept
  have together : partsSegments true character = false := by
    simp only [partsSegments, slash, backslash, Bool.and_false, Bool.or_false]
  exact ⟨ascii, inPath, together⟩

/-- What is written for one segment that is added to a path. -/
theorem isSettled_encodeText_inSpecialSegment (notDot : characters ≠ ['.'])
    (notDoubleDot : characters ≠ ['.', '.']) :
    IsSettled (Percent.encodeText Percent.inSpecialSegment (String.ofList characters)) := by
  refine isSettled_encodeText (by decide)
    (fun _ _ ascii kept => isSettledCharacter_of_kept ascii kept) fun isDots => ?_
  have escape : ∀ dots ∈ dotForms, dots = "." ∨ dots = ".." ∨ '%' ∈ dots.toList := by decide
  rcases escape _ isDots with dot | doubleDot | percent
  · exact absurd (String.ofList_inj.mp dot) notDot
  · exact absurd (String.ofList_inj.mp doubleDot) notDoubleDot
  · exact ⟨'%', by simpa using percent, by decide⟩

/-! ## Segments of a path that is read -/

/-- The scheme is one of the web. -/
def IsWeb (scheme : String) : Prop :=
  scheme = "http" ∨ scheme = "https"

namespace IsWeb

theorem isSpecial (web : IsWeb scheme) : isSpecial scheme = true := by
  rcases web with rfl | rfl <;> decide

theorem ne_file (web : IsWeb scheme) : scheme ≠ "file" := by
  rcases web with rfl | rfl <;> decide

theorem append_eq (web : IsWeb scheme) (escaped : Char → Bool) (segments : List String)
    (characters : List Char) :
    append scheme escaped segments characters =
      segments ++ [Percent.encodeText escaped (String.ofList (unbroken characters))] := by
  simp [append, web.ne_file]

end IsWeb

theorem leave_subset (segments : List String) : leave segments ⊆ segments := by
  unfold leave
  split
  · split
    · exact List.Subset.refl _
    · exact List.dropLast_subset _
  · exact List.nil_subset _

theorem AllSettled.leave (settled : AllSettled segments) : AllSettled (leave segments) :=
  fun segment member => settled segment (leave_subset segments member)

theorem allSettled_step (web : IsWeb scheme) (settled : AllSettled segments)
    (whole : ∀ character ∈ characters, partsSegments true character = false) :
    AllSettled (step scheme segments characters) := by
  unfold step
  by_cases doubleDot : isDoubleDot (unbroken characters) = true
  · simp only [doubleDot, if_true]
    exact settled.leave
  · by_cases dot : isDot (unbroken characters) = true
    · simp only [doubleDot, dot, if_true]
      exact settled
    · simp only [doubleDot, dot]
      rw [if_neg Bool.false_ne_true, if_neg Bool.false_ne_true, web.append_eq]
      refine settled.append (allSettled_singleton (isSettled_encodeText_inPath ?_ ?_))
      · exact fun character member => whole character (List.mem_filter.mp member).1
      · rw [← isDots_iff, Bool.or_eq_true]
        exact not_or.mpr ⟨dot, doubleDot⟩

theorem whole_of_mem_rawSegments {raw : List Char} (member : raw ∈ rawSegments true characters) :
    ∀ character ∈ raw, partsSegments true character = false := by
  induction characters generalizing raw with
  | nil =>
      obtain rfl : raw = [] := by simpa [rawSegments] using member
      simp
  | cons first rest hyp =>
      unfold rawSegments at member
      split at member
      · rcases List.mem_cons.mp member with rfl | later
        · simp
        · exact hyp later
      · next inside =>
          have whole : partsSegments true first = false := by simpa using inside
          split at member
          · obtain rfl : raw = [first] := by simpa using member
            simpa using whole
          · next piece others pieces =>
              rw [pieces] at hyp
              rcases List.mem_cons.mp member with rfl | later
              · exact List.forall_mem_cons.mpr ⟨whole, hyp List.mem_cons_self⟩
              · exact hyp (List.mem_cons_of_mem _ later)

theorem allSettled_resolveSegments (web : IsWeb scheme) {raw : List (List Char)}
    (whole : ∀ piece ∈ raw, ∀ character ∈ piece, partsSegments true character = false) :
    AllSettled (resolveSegments scheme raw) := by
  have folded : ∀ before : List String, AllSettled before →
      AllSettled (raw.foldl (step scheme) before) := by
    induction raw with
    | nil => exact fun before settled => settled
    | cons piece rest hyp =>
        obtain ⟨inPiece, inRest⟩ := List.forall_mem_cons.mp whole
        exact fun before settled => hyp inRest _ (allSettled_step web settled inPiece)
  have start : AllSettled (raw.foldl (step scheme) []) := folded [] (by simp [AllSettled])
  unfold resolveSegments
  dsimp only
  split
  · exact start.append (allSettled_singleton isSettled_empty)
  · exact start

/-- Whatever path is read, its segments are settled. -/
theorem allSettled_readSegments (web : IsWeb scheme) (characters : List Char) :
    AllSettled (readSegments scheme characters) := by
  unfold readSegments
  simp only [web.isSpecial]
  split
  · exact allSettled_singleton isSettled_empty
  · exact allSettled_resolveSegments web fun piece member => whole_of_mem_rawSegments member

/-! ## Settled segments are read as they are -/

theorem rawSegments_eq_splitOn (free : '\\' ∉ characters) (special : Bool) :
    rawSegments special characters = Text.splitOn '/' characters := by
  induction characters with
  | nil => rfl
  | cons character rest hyp =>
      obtain ⟨differs, inRest⟩ := not_or.mp (mt List.mem_cons.mpr free)
      have parts : partsSegments special character = decide (character = '/') := by
        simp [partsSegments, Ne.symm differs]
      by_cases isSlash : character = '/'
      · rw [rawSegments, Text.splitOn, parts, if_pos (decide_eq_true isSlash), if_pos isSlash,
          hyp inRest]
      · cases pieces : Text.splitOn '/' rest with
        | nil => simp [rawSegments, Text.splitOn, parts, isSlash, hyp inRest, pieces]
        | cons piece others => simp [rawSegments, Text.splitOn, parts, isSlash, hyp inRest, pieces]

/-- The pieces between the slashes of a path are its segments. -/
theorem splitOn_pathCharacters (free : '/' ∉ segment.toList)
    (inMore : ∀ other ∈ more, '/' ∉ other.toList) :
    Text.splitOn '/' (segment.toList ++ pathCharacters more) =
      (segment :: more).map String.toList := by
  induction more generalizing segment with
  | nil =>
      rw [pathCharacters, List.flatMap_nil, List.append_nil]
      exact Text.splitOn_of_not_mem free
  | cons next rest hyp =>
      obtain ⟨inNext, inRest⟩ := List.forall_mem_cons.mp inMore
      have unfolded : pathCharacters (next :: rest) =
          '/' :: (next.toList ++ pathCharacters rest) := by simp [pathCharacters]
      rw [unfolded, Text.splitOn_append_separator _ free, hyp inNext inRest]
      rfl

theorem step_of_settled (web : IsWeb scheme) (settled : IsSettled segment) :
    step scheme segments segment.toList = segments ++ [segment] := by
  have notDots : ¬ (isDot segment.toList || isDoubleDot segment.toList) = true := by
    rw [isDots_iff, String.ofList_toList]
    exact settled.notDots
  rw [Bool.or_eq_true, not_or] at notDots
  rw [step, settled.unbroken_eq, if_neg notDots.2, if_neg notDots.1, web.append_eq,
    settled.unbroken_eq, String.ofList_toList, settled.encodeText_eq]

theorem resolveSegments_of_settled (web : IsWeb scheme) (settled : AllSettled segments) :
    resolveSegments scheme (segments.map String.toList) = segments := by
  have folded : ∀ before : List String,
      (segments.map String.toList).foldl (step scheme) before = before ++ segments := by
    induction segments with
    | nil => simp
    | cons segment rest hyp =>
        obtain ⟨first, inRest⟩ := List.forall_mem_cons.mp settled
        intro before
        rw [List.map_cons, List.foldl_cons, step_of_settled web first, hyp inRest,
          List.append_assoc, List.singleton_append]
  have noDots : ((segments.map String.toList).getLast?.map unbroken).any
      (fun last => isDot last || isDoubleDot last) = false := by
    rw [List.getLast?_map]
    cases last : segments.getLast? with
    | none => rfl
    | some segment =>
        have isSettled := settled segment (List.mem_of_getLast? last)
        simp only [Option.map_some, Option.any_some, isSettled.unbroken_eq]
        rw [← Bool.not_eq_true, isDots_iff, String.ofList_toList]
        exact isSettled.notDots
  simp only [resolveSegments, noDots, folded]
  rfl

/-- A path that is written in settled segments is read as these. -/
theorem readSegments_pathCharacters (web : IsWeb scheme) (settled : AllSettled segments)
    (some_segment : segments ≠ []) :
    readSegments scheme (pathCharacters segments) = segments := by
  cases segments with
  | nil => exact absurd rfl some_segment
  | cons segment rest =>
      obtain ⟨first, inRest⟩ := List.forall_mem_cons.mp settled
      have unfolded : pathCharacters (segment :: rest) =
          '/' :: (segment.toList ++ pathCharacters rest) := by simp [pathCharacters]
      have parts : partsSegments true '/' = true := by decide
      have noBackslash : '\\' ∉ segment.toList ++ pathCharacters rest := fun member =>
        settled.backslash_not_mem (unfolded ▸ List.mem_cons_of_mem '/' member)
      rw [unfolded, readSegments]
      simp only [web.isSpecial, parts, if_true]
      rw [rawSegments_eq_splitOn noBackslash, splitOn_pathCharacters first.slash_not_mem
        fun other member => (inRest other member).slash_not_mem,
        resolveSegments_of_settled web settled]

/-! ## Segments that are added -/

/-- A segment as it is written when it is added to a path of the web. -/
def written (text : String) : String :=
  Percent.encodeText Percent.inSpecialSegment text

/-- Whatever is added to a path, its segments are settled. -/
theorem allSettled_pushSegment (web : IsWeb scheme) (settled : AllSettled segments)
    (text : String) : AllSettled (pushSegment scheme segments text) := by
  unfold pushSegment
  split
  · exact settled
  · have opened : AllSettled (if segments = [""] then [] else segments) := by
      split
      · simp [AllSettled]
      · exact settled
    have isEmpty := allSettled_singleton isSettled_empty
    dsimp only
    split
    · exact opened.leave.append isEmpty
    · next notDoubleDot =>
        split
        · exact opened.append isEmpty
        · next notDot =>
            rw [web.append_eq, web.isSpecial, if_pos rfl]
            exact opened.append
              (allSettled_singleton (isSettled_encodeText_inSpecialSegment notDot notDoubleDot))

/-- Segments that are there do not all go when one is added. -/
theorem pushSegment_ne_nil (web : IsWeb scheme) (some_segment : segments ≠ []) (text : String) :
    pushSegment scheme segments text ≠ [] := by
  unfold pushSegment
  split
  · exact some_segment
  · dsimp only
    split
    · exact List.concat_ne_nil _ _
    · split
      · exact List.concat_ne_nil _ _
      · rw [web.append_eq]
        exact List.concat_ne_nil _ _

/-- A text without breaks that is not dots is written as one segment. -/
theorem pushSegment_eq (web : IsWeb scheme)
    (unbrokenText : ∀ character ∈ text.toList, isBreak character = false)
    (notDots : ¬ (text = "." ∨ text = "..")) (segments : List String) :
    pushSegment scheme segments text =
      (if segments = [""] then [] else segments) ++ [written text] := by
  have kept := unbroken_eq_self unbrokenText
  obtain ⟨notDot, notDoubleDot⟩ := not_or.mp notDots
  have apart : text.toList ≠ ['.'] := fun same => notDot (String.toList_inj.mp same)
  have apartTwo : text.toList ≠ ['.', '.'] := fun same => notDoubleDot (String.toList_inj.mp same)
  rw [pushSegment, if_neg notDots]
  simp only [kept, apart, apartTwo, if_false]
  rw [web.append_eq, web.isSpecial, if_pos rfl, kept, String.ofList_toList]
  rfl

/-- Breaks in a segment that is added are lost, so it is the one without them that is added. -/
theorem pushSegment_unbroken (web : IsWeb scheme) (segments : List String)
    (notDots : ¬ (String.ofList (unbroken text.toList) = "." ∨
      String.ofList (unbroken text.toList) = "..")) :
    pushSegment scheme segments text =
      pushSegment scheme segments (String.ofList (unbroken text.toList)) := by
  have free : ∀ character ∈ (String.ofList (unbroken text.toList)).toList,
      isBreak character = false := by
    intro character member
    rw [String.toList_ofList] at member
    simpa using (List.mem_filter.mp member).2
  have given : ¬ (text = "." ∨ text = "..") := by
    rintro (rfl | rfl) <;> exact notDots (by decide)
  obtain ⟨notDot, notDoubleDot⟩ := not_or.mp notDots
  have apart : unbroken text.toList ≠ ['.'] := fun same => notDot (by rw [same])
  have apartTwo : unbroken text.toList ≠ ['.', '.'] := fun same =>
    notDoubleDot (by rw [same])
  rw [pushSegment_eq web free notDots, pushSegment, if_neg given]
  simp only [apart, apartTwo, if_false]
  rw [web.append_eq, web.isSpecial, if_pos rfl]
  rfl

/-- What is written for a text that is not empty is not empty. -/
theorem written_ne_empty (some_text : text ≠ "") : written text ≠ "" := by
  intro isEmpty
  have percent : Percent.inSpecialSegment '%' = true := by decide
  have back := Percent.decodeText?_encodeText percent text
  have none_left : Percent.decodeText? "" = some "" := Bytes.toString?_ofString ""
  rw [← written, isEmpty, none_left, Option.some.injEq] at back
  exact some_text back.symm

theorem dropEmptyEnd_append_empty (segments : List String) :
    dropEmptyEnd (segments ++ [""]) = if segments = [] then [""] else segments := by
  have last : (segments ++ [""]).getLast? = some "" := List.getLast?_concat
  have front : (segments ++ [""]).dropLast = segments := List.dropLast_concat
  rw [dropEmptyEnd, last, front]
  cases segments <;> simp

/-- A group and a key become the last two segments of a path that ends in a slash; a key of
dots is left out. -/
theorem push_group_and_key (web : IsWeb scheme)
    (unbrokenGroup : ∀ character ∈ group.toList, isBreak character = false)
    (notDots : ¬ (group = "." ∨ group = ".."))
    (unbrokenKey : ∀ character ∈ key.toList, isBreak character = false)
    (inside : group ≠ "" ∨ segments ≠ []) (notRoot : segments ≠ [""]) :
    [group, key].foldl (pushSegment scheme) (dropEmptyEnd (segments ++ [""])) =
      segments ++ written group ::
        (if key = "." ∨ key = ".." then [] else [written key]) := by
  have grouped : pushSegment scheme (dropEmptyEnd (segments ++ [""])) group =
      segments ++ [written group] := by
    rw [dropEmptyEnd_append_empty, pushSegment_eq web unbrokenGroup notDots]
    by_cases root : segments = []
    · simp [root]
    · simp [root, notRoot]
  have notEmpty : segments ++ [written group] ≠ [""] := by
    intro same
    rcases inside with some_group | some_segment
    · have last := congrArg List.getLast? same
      simp [written_ne_empty some_group] at last
    · have length := congrArg List.length same
      simp [some_segment] at length
  rw [List.foldl_cons, List.foldl_cons, List.foldl_nil, grouped]
  by_cases keyDots : key = "." ∨ key = ".."
  · rw [pushSegment, if_pos keyDots, if_pos keyDots]
  · rw [pushSegment_eq web unbrokenKey keyDots, if_neg notEmpty, if_neg keyDots]
    simp

end Url

end PeerCache
