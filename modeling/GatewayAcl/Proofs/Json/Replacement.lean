import GatewayAcl.Json.Pointer
import GatewayAcl.Proofs.Json.Canonical
import GatewayAcl.Proofs.Text.Numerals

/-!
# Replacing a part of a value

Replacing the part that steps lead to, as a relation between two values that
differ in that part only.  It holds the other way round as well, so a replacement
can be taken back, and one replacement after another at the same place is a
single one.
-/

namespace GatewayAcl.Json

@[simp] theorem follow?_nil (json : Json) : follow? [] json = some json := by
  cases json <;> rfl

@[simp] theorem replace?_nil (new json : Json) : replace? new [] json = some new := by
  cases json <;> rfl

/-- The first member of a name is replaced by what a function makes of its value. -/
theorem updateMember?_eq_some_iff {name : String} {update : Json → Option Json}
    {members members' : List (String × Json)} :
    updateMember? name update members = some members' ↔
      ∃ old new, update old = some new ∧ Members.Replaced name old new members members' := by
  constructor
  · intro updated
    induction members generalizing members' with
    | nil => cases updated
    | cons head rest ih =>
        obtain ⟨other, value⟩ := head
        rw [updateMember?] at updated
        by_cases same : name = other
        · subst same
          simp only [beq_self_eq_true, if_true, Option.map_eq_some_iff] at updated
          obtain ⟨new, made, rfl⟩ := updated
          exact ⟨value, new, made, .here rest⟩
        · simp only [beq_eq_false_iff_ne.mpr same, Bool.false_eq_true, if_false,
            Option.map_eq_some_iff] at updated
          obtain ⟨rest', updatedRest, rfl⟩ := updated
          obtain ⟨old, new, made, replaced⟩ := ih updatedRest
          exact ⟨old, new, made, .there value same replaced⟩
  · rintro ⟨old, new, made, replaced⟩
    induction replaced with
    | here rest => simp [updateMember?, made]
    | there value distinct _ ih => simp [updateMember?, distinct, ih]

theorem updateItem?_eq_some_iff {update : Json → Option Json} {position : Nat}
    {items items' : List Json} :
    updateItem? update position items = some items' ↔
      ∃ old new, items[position]? = some old ∧ update old = some new ∧
        items' = items.set position new := by
  induction items generalizing position items' with
  | nil => simp [updateItem?]
  | cons item rest ih =>
      cases position with
      | zero =>
          simp only [updateItem?, Option.map_eq_some_iff, List.getElem?_cons_zero,
            Option.some.injEq, List.set_cons_zero, exists_and_left, exists_eq_left']
          simp only [eq_comm]
      | succ position =>
          simp only [updateItem?, Option.map_eq_some_iff, ih, List.getElem?_cons_succ,
            List.set_cons_succ]
          constructor
          · rintro ⟨_, ⟨old, new, found, made, rfl⟩, rfl⟩
            exact ⟨old, new, found, made, rfl⟩
          · rintro ⟨old, new, found, made, rfl⟩
            exact ⟨_, ⟨old, new, found, made, rfl⟩, rfl⟩

/-- Two values differ at most in the part that steps lead to. -/
inductive ReplacedAt (old new : Json) : List String → Json → Json → Prop where
  | here : ReplacedAt old new [] old new
  | member {step : String} {steps : List String} {part part' : Json}
      {members members' : List (String × Json)} :
      Members.Replaced step part part' members members' → ReplacedAt old new steps part part' →
        ReplacedAt old new (step :: steps) (.object members) (.object members')
  | item {step : String} {steps : List String} {position : Nat} {part part' : Json}
      {items : List Json} :
      Pointer.position? step = some position → items[position]? = some part →
        ReplacedAt old new steps part part' →
        ReplacedAt old new (step :: steps) (.array items) (.array (items.set position part'))

/-- A replacement that is made changes the part that it leads to and nothing else. -/
theorem replace?_eq_some_iff {new json json' : Json} {steps : List String} :
    replace? new steps json = some json' ↔ ∃ old, ReplacedAt old new steps json json' := by
  constructor
  · intro made
    induction steps generalizing json json' with
    | nil =>
        rw [replace?_nil, Option.some.injEq] at made
        subst made
        exact ⟨json, .here⟩
    | cons step steps ih =>
        cases json with
        | object members =>
            obtain ⟨members', updated, rfl⟩ := Option.map_eq_some_iff.mp made
            obtain ⟨part, part', madePart, replaced⟩ := updateMember?_eq_some_iff.mp updated
            obtain ⟨old, replacedAt⟩ := ih madePart
            exact ⟨old, .member replaced replacedAt⟩
        | array items =>
            obtain ⟨position, named, updated⟩ := Option.bind_eq_some_iff.mp made
            obtain ⟨items', updatedItem, rfl⟩ := Option.map_eq_some_iff.mp updated
            obtain ⟨part, part', found, madePart, rfl⟩ :=
              updateItem?_eq_some_iff.mp updatedItem
            obtain ⟨old, replacedAt⟩ := ih madePart
            exact ⟨old, .item named found replacedAt⟩
        | _ => cases made
  · rintro ⟨old, replacedAt⟩
    induction replacedAt with
    | here => exact replace?_nil new old
    | member replaced _ ih =>
        rw [replace?, updateMember?_eq_some_iff.mpr ⟨_, _, ih, replaced⟩]
        rfl
    | item named found _ ih =>
        rw [replace?, named]
        exact Option.map_eq_some_iff.mpr
          ⟨_, updateItem?_eq_some_iff.mpr ⟨_, _, found, ih, rfl⟩, rfl⟩

/-- A step that is no position leads to the member of an object. -/
theorem follow?_of_name {step : String} {steps : List String}
    (noPosition : Pointer.position? step = none) (json : Json) :
    follow? (step :: steps) json = json.member? step >>= follow? steps := by
  cases json with
  | array items => rw [follow?, noPosition]; rfl
  | _ => rfl

/-- Steps that begin with a name lead into an object. -/
theorem object_of_follow? {step : String} {steps : List String} {json old : Json}
    (noPosition : Pointer.position? step = none) (found : follow? (step :: steps) json = some old) :
    ∃ members part, json = .object members ∧ members.lookup step = some part ∧
      follow? steps part = some old := by
  rw [follow?_of_name noPosition] at found
  have ⟨part, given, foundIn⟩ := Option.bind_eq_some_iff.mp found
  cases json with
  | object members => exact ⟨members, part, rfl, given, foundIn⟩
  | _ => cases given

/-- A position leads to the item of an array in that position. -/
theorem follow?_of_position (position : Nat) (steps : List String) (items : List Json) :
    follow? (toString position :: steps) (.array items) = items[position]? >>= follow? steps := by
  rw [follow?, Pointer.position?_toString]
  rfl

theorem exists_replacedAt {old json : Json} {steps : List String} (new : Json)
    (found : follow? steps json = some old) : ∃ json', ReplacedAt old new steps json json' := by
  induction steps generalizing json with
  | nil =>
      rw [follow?_nil, Option.some.injEq] at found
      subst found
      exact ⟨new, .here⟩
  | cons step steps ih =>
      cases json with
      | object members =>
          obtain ⟨part, foundPart, foundIn⟩ := Option.bind_eq_some_iff.mp found
          obtain ⟨part', replacedAt⟩ := ih foundIn
          obtain ⟨members', replaced⟩ := Members.Replaced.exists_of_lookup part' foundPart
          exact ⟨_, .member replaced replacedAt⟩
      | array items =>
          obtain ⟨part, foundPart, foundIn⟩ := Option.bind_eq_some_iff.mp found
          obtain ⟨position, named, partAt⟩ := Option.bind_eq_some_iff.mp foundPart
          obtain ⟨part', replacedAt⟩ := ih foundIn
          exact ⟨_, .item named partAt replacedAt⟩
      | _ => cases found

namespace ReplacedAt

variable {old new : Json} {steps : List String} {json json' : Json}

theorem symm (replacedAt : ReplacedAt old new steps json json') :
    ReplacedAt new old steps json' json := by
  induction replacedAt with
  | here => exact .here
  | member replaced _ ih => exact .member replaced.symm ih
  | @item step steps position part part' items named found _ ih =>
      have inside : position < items.length := (List.getElem?_eq_some_iff.mp found).1
      have restored : (items.set position part').set position part = items := by
        rw [List.set_set, ← (List.getElem?_eq_some_iff.mp found).2, List.set_getElem_self]
      have back := ReplacedAt.item named (List.getElem?_set_self inside) ih
      rwa [restored] at back

theorem follow?_old (replacedAt : ReplacedAt old new steps json json') :
    follow? steps json = some old := by
  induction replacedAt with
  | here => exact follow?_nil old
  | member replaced _ ih => rw [follow?, replaced.lookup_old]; exact ih
  | item named found _ ih => rw [follow?, named, Option.bind_eq_bind]; simp [found, ih]

theorem follow?_new (replacedAt : ReplacedAt old new steps json json') :
    follow? steps json' = some new :=
  replacedAt.symm.follow?_old

theorem trans {newest json'' : Json} (first : ReplacedAt old new steps json json')
    (second : ReplacedAt new newest steps json' json'') :
    ReplacedAt old newest steps json json'' := by
  induction first generalizing json'' with
  | here =>
      cases second with
      | here => exact .here
  | member replaced _ ih =>
      cases second with
      | member replaced' second =>
          cases replaced.lookup_new.symm.trans replaced'.lookup_old
          exact .member (replaced.trans replaced') (ih second)
  | item named found _ ih =>
      cases second with
      | item named' found' second =>
          cases named.symm.trans named'
          have inside := (List.getElem?_eq_some_iff.mp found).1
          rw [List.getElem?_set_self inside] at found'
          cases found'
          rw [List.set_set]
          exact .item named found (ih second)

theorem refl_right (replacedAt : ReplacedAt old new steps json json') :
    ReplacedAt new new steps json' json' :=
  replacedAt.symm.trans replacedAt

theorem canonical (replacedAt : ReplacedAt old new steps json json')
    (canonicalNew : new.Canonical) (canonicalJson : json.Canonical) : json'.Canonical := by
  induction replacedAt with
  | here => exact canonicalNew
  | member replaced _ ih =>
      have canonicalPart := ih (canonicalJson.lookup replaced.lookup_old)
      refine .object _ (replaced.ascending canonicalJson.ascending) fun entry member => ?_
      rcases replaced.mem_of_mem member with same | before
      · exact same ▸ canonicalPart
      · exact canonicalJson.entry entry before
  | item _ found _ ih =>
      have canonicalPart := ih (canonicalJson.item _ (List.mem_of_getElem? found))
      refine .array _ fun other member => ?_
      rcases List.mem_or_eq_of_mem_set member with before | same
      · exact canonicalJson.item other before
      · exact same ▸ canonicalPart

theorem canonical_old (replacedAt : ReplacedAt old new steps json json')
    (canonicalJson : json.Canonical) : old.Canonical := by
  induction replacedAt with
  | here => exact canonicalJson
  | member replaced _ ih => exact ih (canonicalJson.lookup replaced.lookup_old)
  | item _ found _ ih => exact ih (canonicalJson.item _ (List.mem_of_getElem? found))

theorem member_of_name {step : String} (noPosition : Pointer.position? step = none)
    (replacedAt : ReplacedAt old new (step :: steps) json json') :
    ∃ members members' part part', json = .object members ∧ json' = .object members' ∧
      Members.Replaced step part part' members members' ∧
      ReplacedAt old new steps part part' := by
  cases replacedAt with
  | member replaced inner => exact ⟨_, _, _, _, rfl, rfl, replaced, inner⟩
  | item named _ _ => cases noPosition.symm.trans named

theorem item_of_array {items : List Json} {position : Nat}
    (replacedAt : ReplacedAt old new (toString position :: steps) (.array items) json') :
    ∃ part part', items[position]? = some part ∧
      json' = .array (items.set position part') ∧ ReplacedAt old new steps part part' := by
  cases replacedAt with
  | item named found inner =>
      rw [Pointer.position?_toString, Option.some.injEq] at named
      subst named
      exact ⟨_, _, found, rfl, inner⟩

end ReplacedAt

theorem replace?_eq_none_iff {new json : Json} {steps : List String} :
    replace? new steps json = none ↔ follow? steps json = none := by
  constructor
  · intro nothing
    cases found : follow? steps json with
    | none => rfl
    | some old =>
        have ⟨_, replacedAt⟩ := exists_replacedAt new found
        cases nothing.symm.trans (replace?_eq_some_iff.mpr ⟨old, replacedAt⟩)
  · intro nowhere
    cases made : replace? new steps json with
    | none => rfl
    | some json' =>
        have ⟨_, replacedAt⟩ := replace?_eq_some_iff.mp made
        cases nowhere.symm.trans replacedAt.follow?_old

end GatewayAcl.Json
