/-!
# Members in ascending order of their names

Lists of named values that are sorted by name, with each name once, and finite
maps made of them. Names are compared code point by code point, which is also
the order of their bytes. A dictionary carries the order as an invariant, so two
dictionaries with the same entries are equal.
-/

namespace GatewayAcl

namespace Members

variable {α : Type}

/-- Adds a member in the place that the order of names gives it. An existing
member of the same name is replaced. -/
def insert (name : String) (value : α) : List (String × α) → List (String × α)
  | [] => [(name, value)]
  | (other, old) :: rest =>
      if name < other then (name, value) :: (other, old) :: rest
      else if name = other then (name, value) :: rest
      else (other, old) :: insert name value rest

/-- The members in order, the last one given under each name. -/
def ofList (members : List (String × α)) : List (String × α) :=
  members.foldl (fun sorted (name, value) => insert name value sorted) []

/-- The names are in ascending order, each once. -/
def Ascending (members : List (String × α)) : Prop :=
  members.Pairwise fun left right => left.1 < right.1

theorem ascending_nil : Ascending ([] : List (String × α)) :=
  List.Pairwise.nil

theorem lt_of_not_lt_of_ne {left right : String} (notBelow : ¬ left < right)
    (distinct : left ≠ right) : right < left :=
  String.not_le.mp fun notAbove =>
    distinct (String.le_antisymm notAbove (String.not_lt.mp notBelow))

theorem mem_insert {name : String} {value : α} {members : List (String × α)}
    {entry : String × α} (member : entry ∈ insert name value members) :
    entry = (name, value) ∨ entry ∈ members := by
  induction members with
  | nil => simpa [insert] using member
  | cons head rest ih =>
      obtain ⟨other, old⟩ := head
      simp only [insert] at member
      split at member
      · simpa using member
      · split at member
        · rcases List.mem_cons.mp member with same | behind
          · exact .inl same
          · exact .inr (List.mem_cons_of_mem _ behind)
        · rcases List.mem_cons.mp member with same | behind
          · exact .inr (same ▸ List.mem_cons_self)
          · exact (ih behind).imp id (List.mem_cons_of_mem _)

theorem ascending_insert {name : String} {value : α} {members : List (String × α)}
    (ascending : Ascending members) : Ascending (insert name value members) := by
  induction members with
  | nil => exact List.pairwise_singleton _ _
  | cons head rest ih =>
      obtain ⟨other, old⟩ := head
      obtain ⟨below, ascendingRest⟩ := List.pairwise_cons.mp ascending
      simp only [insert]
      split
      · next before =>
          refine List.pairwise_cons.mpr ⟨fun entry member => ?_, ascending⟩
          rcases List.mem_cons.mp member with same | behind
          · exact same ▸ before
          · exact String.lt_trans before (below entry behind)
      · next notBefore =>
          split
          · next same =>
              exact List.pairwise_cons.mpr
                ⟨fun entry member => same ▸ below entry member, ascendingRest⟩
          · next distinct =>
              refine List.pairwise_cons.mpr ⟨fun entry member => ?_, ih ascendingRest⟩
              rcases mem_insert member with same | behind
              · exact same ▸ lt_of_not_lt_of_ne notBefore distinct
              · exact below entry behind

theorem ascending_foldl_insert (members : List (String × α)) :
    ∀ {sorted : List (String × α)}, Ascending sorted →
      Ascending (members.foldl (fun sorted entry => insert entry.1 entry.2 sorted) sorted) := by
  induction members with
  | nil => exact fun ascending => ascending
  | cons head rest ih => exact fun ascending => ih (ascending_insert ascending)

theorem ascending_ofList (members : List (String × α)) : Ascending (ofList members) :=
  ascending_foldl_insert members ascending_nil

end Members

/-- A finite map from names to values. -/
structure Dictionary (α : Type) where
  entries : List (String × α)
  ascending : Members.Ascending entries

namespace Dictionary

variable {α β : Type}

@[ext] theorem ext {left right : Dictionary α} (same : left.entries = right.entries) :
    left = right := by
  cases left; cases right; cases same; rfl

instance [DecidableEq α] : DecidableEq (Dictionary α) := fun left right =>
  if same : left.entries = right.entries then .isTrue (ext same)
  else .isFalse fun equal => same (equal ▸ rfl)

def empty : Dictionary α := ⟨[], Members.ascending_nil⟩

instance : Inhabited (Dictionary α) := ⟨empty⟩

/-- The map with the given entries, the last one under each name. -/
def ofList (members : List (String × α)) : Dictionary α :=
  ⟨Members.ofList members, Members.ascending_ofList members⟩

def singleton (name : String) (value : α) : Dictionary α :=
  ⟨[(name, value)], List.pairwise_singleton _ _⟩

def get? (dictionary : Dictionary α) (name : String) : Option α :=
  dictionary.entries.lookup name

def names (dictionary : Dictionary α) : List String :=
  dictionary.entries.map Prod.fst

def values (dictionary : Dictionary α) : List α :=
  dictionary.entries.map Prod.snd

end Dictionary

end GatewayAcl
