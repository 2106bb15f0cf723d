import GatewayAcl.Proofs.Json.Legibility
import GatewayAcl.Proofs.Text.Pieces

/-!
# Texts of patches

What is understood by those who receive the text of a patch: a list of operations, each of
which replaces the part that a pointer leads to.  The steps of a pointer stand behind
slashes, and in a step a tilde and a digit stand for a tilde or a slash.  The text of a
patch is understood as this patch.
-/

namespace GatewayAcl

open Text

theorem mapM_map_eq_some {α β : Type} {write : α → β} {read? : β → Option α} {items : List α}
    (readsBack : ∀ item ∈ items, read? (write item) = some item) :
    (items.map write).mapM read? = some items := by
  induction items with
  | nil => rfl
  | cons item items ih =>
      have ⟨first, others⟩ := List.forall_mem_cons.mp readsBack
      rw [List.map_cons, List.mapM_cons, first, ih others]
      rfl

namespace Pointer

/-- The characters of a step that is written with escapes; none if a tilde escapes
nothing. -/
def unescape? : List Char → Option (List Char)
  | [] => some []
  | '~' :: '0' :: rest => (unescape? rest).map ('~' :: ·)
  | '~' :: '1' :: rest => (unescape? rest).map ('/' :: ·)
  | '~' :: _ => none
  | char :: rest => (unescape? rest).map (char :: ·)

/-- The pointer with a written form, which begins with a slash unless it is empty. -/
def parse? (text : String) : Option Pointer :=
  match pieces '/' text.toList with
  | [] :: steps =>
      (steps.mapM fun step => (unescape? step).map String.ofList).map fun steps => ⟨steps⟩
  | _ => none

theorem unescape?_escapeStep (step : String) : unescape? (escapeStep step) = some step.toList := by
  rw [escapeStep]
  induction step.toList with
  | nil => rfl
  | cons char rest ih =>
      rw [List.flatMap_cons]
      split
      · next isTilde => simp [unescape?, ih, isTilde]
      · next noTilde =>
          split
          · next isSlash => simp [unescape?, ih, isSlash]
          · simp [unescape?, ih, noTilde]

theorem slash_not_mem_escapeStep (step : String) : '/' ∉ escapeStep step := by
  rw [escapeStep, List.mem_flatMap]
  rintro ⟨char, _, member⟩
  split at member
  · simp at member
  · next noTilde =>
      split at member
      · simp at member
      · next noSlash => exact noSlash (List.mem_singleton.mp member).symm

/-- The steps of a pointer are the pieces of its written form behind the first slash. -/
theorem pieces_print (steps : List String) {front : List Char} (plain : '/' ∉ front) :
    pieces '/' (front ++ steps.flatMap fun step => '/' :: escapeStep step) =
      front :: steps.map escapeStep := by
  induction steps generalizing front with
  | nil => simp [pieces_of_not_mem plain]
  | cons step steps ih =>
      rw [List.flatMap_cons, List.cons_append, pieces_append_separator, pieces_of_not_mem plain,
        ih (slash_not_mem_escapeStep step)]
      rfl

theorem parse?_print (pointer : Pointer) : parse? pointer.print = some pointer := by
  have split := pieces_print pointer.steps (List.not_mem_nil : '/' ∉ [])
  have unescaped : (pointer.steps.map escapeStep).mapM
      (fun step => (unescape? step).map String.ofList) = some pointer.steps :=
    mapM_map_eq_some fun step _ => by simp [unescape?_escapeStep]
  rw [List.nil_append] at split
  rw [parse?, print, String.toList_ofList, split]
  simp only [unescaped, Option.map_some]

end Pointer

/-- The replacement that an operation asks for; none if it is no replacement. -/
def Replacement.ofJson? (json : Json) : Option Replacement :=
  match json.member? "op", json.member? "path", json.member? "value" with
  | some (.string "replace"), some (.string path), some value =>
      (Pointer.parse? path).map (⟨·, value⟩)
  | _, _, _ => none

namespace Patch

/-- The patch that a list of operations asks for; none if one of them is no replacement. -/
def ofJson? (json : Json) : Option Patch :=
  json.items? >>= fun operations =>
    (operations.mapM Replacement.ofJson?).map fun replacements => ⟨replacements⟩

/-- The operations that ask for a patch: for each replacement an object with the operation's
name, the pointer in its written form, and the value. -/
def operations (patch : Patch) : List Json :=
  patch.replacements.map fun replacement => .object [
    ("op", .string "replace"),
    ("path", .string replacement.path.print),
    ("value", replacement.value)]

/-- Bytes are the text of a patch: what they list are its operations.  Whoever reads them
finds these operations, unless a value in them is none that can be read from its text, and
these operations ask for this patch and no other. -/
structure IsWritten (patch : Patch) (bytes : List UInt8) : Prop where
  text : bytes = (Json.array patch.operations).print.toUTF8.toList
  reads : (∀ replacement ∈ patch.replacements, replacement.value.Legible 125) →
    Json.ofBytes bytes = .ok (.array patch.operations)
  means : ofJson? (.array patch.operations) = some patch

theorem ofJson?_operations (patch : Patch) : ofJson? (.array patch.operations) = some patch := by
  have understood : patch.operations.mapM Replacement.ofJson? = some patch.replacements := by
    refine mapM_map_eq_some fun replacement _ => ?_
    simp [Replacement.ofJson?, Json.member?, List.lookup_cons, Pointer.parse?_print]
  simp [ofJson?, Json.items?, understood]

theorem legible_operations {patch : Patch}
    (legible : ∀ replacement ∈ patch.replacements, replacement.value.Legible 125) :
    (Json.array patch.operations).Legible Json.depthLimit := by
  refine .array fun operation member => ?_
  obtain ⟨replacement, isReplacement, rfl⟩ := List.mem_map.mp member
  have sorted : ["op", "path", "value"].Pairwise (· < ·) := by decide
  refine .object (Members.ascending_iff_names.mpr sorted) ?_
  simp only [List.forall_mem_cons, List.not_mem_nil, false_implies, implies_true, and_true]
  exact ⟨.string _, .string _, legible replacement isReplacement⟩

theorem isWritten_encode (patch : Patch) :
    patch.IsWritten patch.encode.print.toUTF8.toList where
  text := rfl
  reads legible := Json.ofText_print (legible_operations legible)
  means := ofJson?_operations patch

end Patch

end GatewayAcl
