import GatewayAcl.Text.Blank
import Mathlib.Data.List.TakeWhile

/-!
# Trimmed texts

Trimming removes the blanks at both ends of a text and nothing else.  What remains has no
blank at an end, and there is only one way to take a text apart like this.
-/

namespace GatewayAcl.Text

/-- A text holds nothing but blanks. -/
def AllBlank (text : List Char) : Prop :=
  ∀ char ∈ text, isBlank char = true

/-- A text has a core with blanks around it, which has no blank at its own ends. -/
structure Trims (text core : List Char) : Prop where
  surrounded : ∃ front back, text = front ++ core ++ back ∧ AllBlank front ∧ AllBlank back
  begins : ∀ char ∈ core.head?, isBlank char = false
  ends : ∀ char ∈ core.getLast?, isBlank char = false

variable {text core front back : List Char}

/-! ## One end -/

theorem trimStart_append (blank : AllBlank front) (text : List Char) :
    trimStart (front ++ text) = trimStart text :=
  List.dropWhile_append_of_pos blank

theorem trimStart_of_begins (begins : ∀ char ∈ text.head?, isBlank char = false) :
    trimStart text = text := by
  cases text with
  | nil => rfl
  | cons char rest => exact List.dropWhile_cons_of_neg (by simp [begins char rfl])

theorem begins_trimStart (text : List Char) :
    ∀ char ∈ (trimStart text).head?, isBlank char = false := by
  intro char isHead
  have atHead := List.head?_dropWhile_not isBlank text
  rwa [← trimStart, Option.mem_def.mp isHead] at atHead

theorem trimStart_splits (text : List Char) :
    text = text.takeWhile isBlank ++ trimStart text :=
  List.takeWhile_append_dropWhile.symm

/-- The end of a text is the beginning of its reverse. -/
theorem trimEnd_eq (text : List Char) : trimEnd text = (trimStart text.reverse).reverse := rfl

theorem trimEnd_append (blank : AllBlank back) (text : List Char) :
    trimEnd (text ++ back) = trimEnd text := by
  rw [trimEnd_eq, List.reverse_append, trimStart_append fun char member =>
    blank char (List.mem_reverse.mp member)]
  rfl

theorem trimEnd_of_ends (ends : ∀ char ∈ text.getLast?, isBlank char = false) :
    trimEnd text = text := by
  rw [← List.head?_reverse] at ends
  rw [trimEnd_eq, trimStart_of_begins ends, List.reverse_reverse]

theorem ends_trimEnd (text : List Char) :
    ∀ char ∈ (trimEnd text).getLast?, isBlank char = false := by
  rw [trimEnd_eq, List.getLast?_reverse]
  exact begins_trimStart text.reverse

theorem trimEnd_splits (text : List Char) :
    text = trimEnd text ++ (text.reverse.takeWhile isBlank).reverse := by
  have splits := congrArg List.reverse (trimStart_splits text.reverse)
  rwa [List.reverse_reverse, List.reverse_append] at splits

/-! ## Both ends -/

theorem trims_trim (text : List Char) : Trims text (trim text) where
  surrounded := by
    refine ⟨text.takeWhile isBlank, ((trimStart text).reverse.takeWhile isBlank).reverse, ?_,
      fun char member => List.mem_takeWhile_imp member,
      fun char member => List.mem_takeWhile_imp (List.mem_reverse.mp member)⟩
    rw [List.append_assoc, trim, ← trimEnd_splits, ← trimStart_splits]
  begins := by
    -- What remains stands in front of the text without the blanks at its beginning.
    intro char isHead
    apply begins_trimStart text char
    rw [trimEnd_splits (trimStart text), List.head?_append]
    exact Option.or_eq_some_iff.mpr (.inl isHead)
  ends := ends_trimEnd (trimStart text)

theorem trim_of_trims (trims : Trims text core) : trim text = core := by
  have ⟨front, back, splits, blankFront, blankBack⟩ := trims.surrounded
  have atStart : trimStart text = trimStart (core ++ back) := by
    rw [splits, List.append_assoc, trimStart_append blankFront]
  rw [trim, atStart]
  cases isCore : core with
  | nil =>
      have nothing : trimStart back = [] := List.dropWhile_eq_nil_iff.mpr blankBack
      rw [List.nil_append, nothing]
      rfl
  | cons char rest =>
      have begins := trims.begins
      rw [isCore] at begins
      rw [trimStart_of_begins (by simpa using begins), trimEnd_append blankBack,
        trimEnd_of_ends (isCore ▸ trims.ends)]

/-- Trimming finds the core of a text. -/
theorem trim_eq_iff : trim text = core ↔ Trims text core := by
  constructor
  · intro trimmed
    exact trimmed ▸ trims_trim text
  · exact trim_of_trims

theorem trim_eq_nil_iff : trim text = [] ↔ AllBlank text := by
  rw [trim_eq_iff]
  constructor
  · intro trims
    have ⟨front, back, splits, blankFront, blankBack⟩ := trims.surrounded
    rw [splits, List.append_nil]
    exact List.forall_mem_append.mpr ⟨blankFront, blankBack⟩
  · intro blank
    exact ⟨⟨text, [], by simp, blank, List.forall_mem_nil _⟩, by simp, by simp⟩

/-- A core without blanks may have any blanks around it. -/
theorem trims_of_plain (blankFront : AllBlank front) (blankBack : AllBlank back)
    (plain : ∀ char ∈ core, isBlank char = false) : Trims (front ++ core ++ back) core where
  surrounded := ⟨front, back, rfl, blankFront, blankBack⟩
  begins char isHead := plain char (List.mem_of_mem_head? isHead)
  ends char isLast := plain char (List.mem_of_mem_getLast? isLast)

end GatewayAcl.Text
