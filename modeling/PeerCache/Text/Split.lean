/-
Module: PeerCache.Text.Split
Purpose: Cutting texts at separators.
Main exports:
  trimEnd, splitOn, splitOn_ne_nil, intercalate_splitOn, splitOn_of_not_mem,
  splitOn_append_separator
-/

namespace PeerCache.Text

/-- A text without separators at its end. -/
def trimEnd (separator : Char) (text : String) : String :=
  String.ofList (text.toList.reverse.dropWhile (· = separator)).reverse

/-- The pieces of a text between the occurrences of a separator; one more than there
are separators. -/
def splitOn (separator : Char) : List Char → List (List Char)
  | [] => [[]]
  | character :: rest =>
      if character = separator then [] :: splitOn separator rest
      else
        match splitOn separator rest with
        | [] => [[character]]
        | piece :: pieces => (character :: piece) :: pieces

/-- There is always a piece. -/
theorem splitOn_ne_nil (separator : Char) (characters : List Char) :
    splitOn separator characters ≠ [] := by
  cases characters with
  | nil => simp [splitOn]
  | cons character rest =>
      unfold splitOn
      split
      · simp
      · split <;> simp

/-- The pieces with the separator between them are the text. -/
theorem intercalate_splitOn (separator : Char) (characters : List Char) :
    [separator].intercalate (splitOn separator characters) = characters := by
  induction characters with
  | nil => rfl
  | cons character rest hyp =>
      unfold splitOn
      split
      · next same =>
          subst same
          cases pieces : splitOn character rest with
          | nil => exact absurd pieces (splitOn_ne_nil character rest)
          | cons piece others =>
              rw [pieces] at hyp
              simp only [List.intercalate, List.intersperse, List.flatten_cons] at hyp ⊢
              simp [hyp]
      · cases pieces : splitOn separator rest with
        | nil => exact absurd pieces (splitOn_ne_nil separator rest)
        | cons piece others =>
            rw [pieces] at hyp
            cases others with
            | nil => simpa [List.intercalate] using hyp
            | cons next more => simpa [List.intercalate, List.intersperse] using hyp

/-- No piece holds the separator. -/
theorem not_mem_of_mem_splitOn {separator : Char} {characters piece : List Char}
    (member : piece ∈ splitOn separator characters) : separator ∉ piece := by
  induction characters generalizing piece with
  | nil =>
      obtain rfl : piece = [] := by simpa [splitOn] using member
      simp
  | cons character rest hyp =>
      unfold splitOn at member
      split at member
      · rcases List.mem_cons.mp member with rfl | later
        · simp
        · exact hyp later
      · next differs =>
          split at member
          · next pieces => exact absurd pieces (splitOn_ne_nil separator rest)
          · next first others pieces =>
              rw [pieces] at hyp
              rcases List.mem_cons.mp member with rfl | later
              · have inFirst := hyp List.mem_cons_self
                simp [Ne.symm differs, inFirst]
              · exact hyp (List.mem_cons_of_mem _ later)

/-- A text without the separator is one piece. -/
theorem splitOn_of_not_mem {separator : Char} {piece : List Char} (free : separator ∉ piece) :
    splitOn separator piece = [piece] := by
  induction piece with
  | nil => rfl
  | cons character rest hyp =>
      obtain ⟨differs, inRest⟩ := not_or.mp (mt List.mem_cons.mpr free)
      rw [splitOn, if_neg (Ne.symm differs), hyp inRest]

/-- The first separator ends the first piece. -/
theorem splitOn_append_separator {separator : Char} {piece : List Char} (rest : List Char)
    (free : separator ∉ piece) :
    splitOn separator (piece ++ separator :: rest) = piece :: splitOn separator rest := by
  induction piece with
  | nil => rw [List.nil_append, splitOn, if_pos rfl]
  | cons character others hyp =>
      obtain ⟨differs, inRest⟩ := not_or.mp (mt List.mem_cons.mpr free)
      rw [List.cons_append, splitOn, if_neg (Ne.symm differs), hyp inRest]

end PeerCache.Text
