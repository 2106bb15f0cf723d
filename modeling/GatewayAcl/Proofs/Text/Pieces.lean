import GatewayAcl.Text.Pieces
import Mathlib.Data.List.Infix

/-!
# Pieces between separators, and texts with a separator on either side

Splitting a text at a separator and joining the pieces gives the text back, and a
separator in the text splits it where it stands.  There is no other way to take a
text apart into texts without the separator.  So such a text occurs between two
separators exactly if it is one of the pieces, and neither the first nor the last
of them.
-/

namespace GatewayAcl.Text

/-- The pieces of a text that have a separator on either side: all but the first and
the last. -/
def enclosedPieces (separator : Char) (text : List Char) : List (List Char) :=
  (pieces separator text).tail.dropLast

variable {separator : Char} {part text : List Char}

theorem pieces_ne_nil (separator : Char) (text : List Char) : pieces separator text ≠ [] := by
  cases text with
  | nil => simp [pieces]
  | cons char rest =>
      rw [pieces]
      split
      · simp
      · split <;> simp

theorem pieces_of_not_mem (plain : separator ∉ part) : pieces separator part = [part] := by
  induction part with
  | nil => rfl
  | cons char rest ih =>
      have distinct : char ≠ separator := fun same => plain (same ▸ List.mem_cons_self)
      have plainRest : separator ∉ rest := fun behind => plain (List.mem_cons_of_mem char behind)
      simp [pieces, distinct, ih plainRest]

/-- A separator splits a text into the pieces in front of it and those behind it. -/
theorem pieces_append_separator (separator : Char) (front behind : List Char) :
    pieces separator (front ++ separator :: behind) =
      pieces separator front ++ pieces separator behind := by
  induction front with
  | nil => simp [pieces]
  | cons char front ih =>
      rw [List.cons_append, pieces, pieces, ih]
      by_cases same : char = separator
      · simp [same]
      · cases split : pieces separator front with
        | nil => exact absurd split (pieces_ne_nil separator front)
        | cons piece others => simp [same]

theorem joined_cons (separator piece : List Char) {others : List (List Char)}
    (given : others ≠ []) :
    joined separator (piece :: others) = piece ++ separator ++ joined separator others := by
  cases others with
  | nil => exact absurd rfl given
  | cons next rest => rfl

theorem joined_append (separator : List Char) {left right : List (List Char)}
    (leftGiven : left ≠ []) (rightGiven : right ≠ []) :
    joined separator (left ++ right) =
      joined separator left ++ separator ++ joined separator right := by
  induction left with
  | nil => exact absurd rfl leftGiven
  | cons piece others ih =>
      cases others with
      | nil => exact joined_cons separator piece rightGiven
      | cons next rest =>
          have joinedRest := ih (by simp)
          rw [List.cons_append, joined_cons separator piece (by simp), joinedRest,
            joined_cons separator piece (by simp)]
          simp only [List.append_assoc]

theorem joined_eq_intercalate (separator : List Char) (texts : List (List Char)) :
    joined separator texts = separator.intercalate texts := by
  induction texts with
  | nil => rfl
  | cons text others ih =>
      cases others with
      | nil => exact List.intercalate_singleton.symm
      | cons next rest =>
          rw [joined_cons separator text (List.cons_ne_nil next rest), ih,
            List.intercalate_cons_cons]

theorem joined_pieces (separator : Char) (text : List Char) :
    joined [separator] (pieces separator text) = text := by
  induction text with
  | nil => rfl
  | cons char rest ih =>
      cases split : pieces separator rest with
      | nil => exact absurd split (pieces_ne_nil separator rest)
      | cons piece others =>
          rw [split] at ih
          by_cases same : char = separator
          · simp [pieces, same, split, joined, ih]
          · cases others <;> simpa [pieces, same, split, joined] using ih

theorem separator_not_mem_of_mem_pieces {piece : List Char}
    (member : piece ∈ pieces separator text) : separator ∉ piece := by
  induction text generalizing piece with
  | nil =>
      cases List.mem_singleton.mp member
      exact List.not_mem_nil
  | cons char rest ih =>
      rw [pieces] at member
      split at member
      · rcases List.mem_cons.mp member with first | behind
        · exact first ▸ List.not_mem_nil
        · exact ih behind
      · next distinct =>
          cases split : pieces separator rest with
          | nil => exact absurd split (pieces_ne_nil separator rest)
          | cons next others =>
              simp only [split] at member ih
              rcases List.mem_cons.mp member with first | behind
              · have plain := ih List.mem_cons_self
                rw [first, List.mem_cons, not_or]
                exact ⟨Ne.symm distinct, plain⟩
              · exact ih (List.mem_cons_of_mem next behind)

/-- The pieces of joined texts are the pieces of each. -/
theorem pieces_joined {texts : List (List Char)} (given : texts ≠ []) :
    pieces separator (joined [separator] texts) = texts.flatMap (pieces separator) := by
  induction texts with
  | nil => exact absurd rfl given
  | cons text others ih =>
      cases others with
      | nil => simp [joined]
      | cons next rest =>
          rw [List.flatMap_cons, joined_cons _ _ (List.cons_ne_nil next rest), List.append_assoc,
            List.singleton_append, pieces_append_separator, ih (List.cons_ne_nil next rest)]

/-- A text is taken apart into texts without the separator. -/
structure Splits (separator : Char) (text : List Char) (parts : List (List Char)) : Prop where
  nonempty : parts ≠ []
  plain : ∀ part ∈ parts, separator ∉ part
  joins : joined [separator] parts = text

/-- A text is taken apart in one way only: into its pieces. -/
theorem splits_iff {parts : List (List Char)} :
    Splits separator text parts ↔ parts = pieces separator text := by
  constructor
  · intro ⟨nonempty, plain, joins⟩
    calc parts = parts.flatMap fun part => [part] := (List.flatMap_singleton' parts).symm
      _ = parts.flatMap (pieces separator) :=
        List.flatMap_congr fun part member => (pieces_of_not_mem (plain part member)).symm
      _ = pieces separator text := by rw [← pieces_joined nonempty, joins]
  · intro isPieces
    subst isPieces
    exact ⟨pieces_ne_nil separator text, fun _ => separator_not_mem_of_mem_pieces,
      joined_pieces separator text⟩

/-- An item is neither the first nor the last one if some stand in front of it and some
behind. -/
theorem mem_tail_dropLast_iff {α : Type} {item : α} {items : List α} :
    item ∈ items.tail.dropLast ↔
      ∃ before after, items = before ++ item :: after ∧ before ≠ [] ∧ after ≠ [] := by
  constructor
  · intro inside
    cases items with
    | nil => cases inside
    | cons head rest =>
        rw [List.tail_cons] at inside
        obtain ⟨before, after, split⟩ := List.append_of_mem inside
        have given : rest ≠ [] := by
          intro empty
          subst empty
          cases inside
        refine ⟨head :: before, after ++ [rest.getLast given], ?_, by simp, by simp⟩
        calc head :: rest
            = head :: (rest.dropLast ++ [rest.getLast given]) := by
              rw [List.dropLast_append_getLast given]
          _ = head :: before ++ item :: (after ++ [rest.getLast given]) := by
              rw [split]
              simp
  · intro ⟨before, after, split, someBefore, someAfter⟩
    cases before with
    | nil => exact absurd rfl someBefore
    | cons head before =>
        rw [split, List.cons_append, List.tail_cons, List.dropLast_append_of_ne_nil (by simp),
          List.dropLast_cons_of_ne_nil someAfter]
        simp

/-- A text without the separator occurs between two separators exactly if it is one of
the enclosed pieces. -/
theorem enclosed_isInfix_iff (plain : separator ∉ part) :
    separator :: (part ++ [separator]) <:+: text ↔ part ∈ enclosedPieces separator text := by
  rw [enclosedPieces, mem_tail_dropLast_iff]
  constructor
  · intro ⟨front, behind, whole⟩
    refine ⟨pieces separator front, pieces separator behind, ?_, pieces_ne_nil _ _,
      pieces_ne_nil _ _⟩
    calc pieces separator text
        = pieces separator (front ++ separator :: (part ++ separator :: behind)) := by
          rw [← whole]
          simp
      _ = pieces separator front ++ part :: pieces separator behind := by
          rw [pieces_append_separator, pieces_append_separator, pieces_of_not_mem plain]
          rfl
  · intro ⟨before, after, split, someBefore, someAfter⟩
    refine ⟨joined [separator] before, joined [separator] after, ?_⟩
    calc joined [separator] before ++ separator :: (part ++ [separator]) ++
          joined [separator] after
        = joined [separator] (before ++ ([part] ++ after)) := by
          rw [joined_append _ someBefore (by simp), joined_append _ (by simp) someAfter]
          simp [joined]
      _ = text := by
          rw [List.singleton_append, ← split]
          exact joined_pieces separator text

end GatewayAcl.Text
