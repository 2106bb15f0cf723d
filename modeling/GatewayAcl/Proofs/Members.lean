import GatewayAcl.Members

/-!
# Look-ups and replacements of members

What is found under a name in a list of members, after members have been
inserted and after the value of one of them has been replaced.  In ascending
order a list of members is the one that its own members make.
-/

namespace GatewayAcl.Members

variable {α : Type}

theorem lookup_cons_of_ne {name other : String} (distinct : name ≠ other) (value : α)
    (members : List (String × α)) :
    ((other, value) :: members).lookup name = members.lookup name := by
  rw [List.lookup_cons, beq_eq_false_iff_ne.mpr distinct]

@[simp] theorem lookup_insert (name other : String) (value : α)
    (members : List (String × α)) :
    (insert name value members).lookup other =
      if other = name then some value else members.lookup other := by
  induction members with
  | nil =>
      by_cases same : other = name
      · simp [insert, same]
      · simp [insert, lookup_cons_of_ne same, same]
  | cons head rest ih =>
      obtain ⟨first, old⟩ := head
      simp only [insert]
      by_cases same : other = name
      · subst same
        split
        · simp
        · split
          · simp
          · next distinct => rw [lookup_cons_of_ne distinct, ih, if_pos rfl, if_pos rfl]
      · rw [if_neg same]
        split
        · exact lookup_cons_of_ne same value _
        · split
          · next equal =>
              subst equal
              rw [lookup_cons_of_ne same, lookup_cons_of_ne same]
          · simp only [List.lookup_cons, ih, same, if_false]

/-- The members of a list have under a name the last value that the list gives
it. -/
theorem lookup_foldl_insert (name : String) (members : List (String × α)) :
    ∀ sorted : List (String × α),
      (members.foldl (fun sorted entry => insert entry.1 entry.2 sorted) sorted).lookup name =
        (members.reverse.lookup name).or (sorted.lookup name) := by
  induction members with
  | nil => simp
  | cons head rest ih =>
      intro sorted
      obtain ⟨first, value⟩ := head
      rw [List.foldl_cons, ih, lookup_insert, List.reverse_cons, List.lookup_append,
        Option.or_assoc]
      by_cases same : name = first
      · simp [same]
      · simp [same, lookup_cons_of_ne same]

theorem lookup_ofList (name : String) (members : List (String × α)) :
    (ofList members).lookup name = members.reverse.lookup name := by
  rw [ofList, lookup_foldl_insert]
  simp

theorem insert_of_above {name : String} {value : α} {members : List (String × α)}
    (above : ∀ entry ∈ members, entry.1 < name) :
    insert name value members = members ++ [(name, value)] := by
  induction members with
  | nil => rfl
  | cons head rest ih =>
      have aboveHead : head.1 < name := above head List.mem_cons_self
      have notBelow : ¬ name < head.1 := String.lt_asymm aboveHead
      have distinct : name ≠ head.1 := fun same => String.lt_irrefl _ (same ▸ aboveHead)
      simp only [insert, notBelow, distinct, if_false, List.cons_append,
        ih fun entry member => above entry (List.mem_cons_of_mem head member)]

theorem foldl_insert_of_ascending {members : List (String × α)} :
    ∀ {sorted : List (String × α)}, Ascending (sorted ++ members) →
      members.foldl (fun sorted entry => insert entry.1 entry.2 sorted) sorted =
        sorted ++ members := by
  induction members with
  | nil => simp
  | cons head rest ih =>
      intro sorted ascending
      have above : ∀ entry ∈ sorted, entry.1 < head.1 := fun entry member =>
        (List.pairwise_append.mp ascending).2.2 entry member head List.mem_cons_self
      rw [List.foldl_cons, insert_of_above above, ih (by simpa using ascending)]
      simp

theorem ascending_iff_names {members : List (String × α)} :
    Ascending members ↔ (members.map Prod.fst).Pairwise (· < ·) :=
  List.pairwise_map.symm

theorem ofList_of_ascending {members : List (String × α)} (ascending : Ascending members) :
    ofList members = members := by
  rw [ofList, foldl_insert_of_ascending (by simpa using ascending), List.nil_append]

theorem mem_foldl_insert {entry : String × α} {members : List (String × α)} :
    ∀ {sorted : List (String × α)},
      entry ∈ members.foldl (fun sorted entry => insert entry.1 entry.2 sorted) sorted →
        entry ∈ members ∨ entry ∈ sorted := by
  induction members with
  | nil => exact fun member => .inr member
  | cons head rest ih =>
      intro sorted member
      rcases ih member with behind | inserted
      · exact .inl (List.mem_cons_of_mem head behind)
      · rcases mem_insert inserted with same | before
        · exact .inl (same ▸ List.mem_cons_self)
        · exact .inr before

theorem mem_ofList {entry : String × α} {members : List (String × α)}
    (member : entry ∈ ofList members) : entry ∈ members := by
  rcases mem_foldl_insert member with given | inserted
  · exact given
  · cases inserted

theorem mem_of_lookup {name : String} {value : α} {members : List (String × α)}
    (found : members.lookup name = some value) : (name, value) ∈ members := by
  obtain ⟨front, behind, rfl, _⟩ := List.lookup_eq_some_iff.mp found
  exact List.mem_append_right front List.mem_cons_self

theorem lookup_eq_none_of_ascending {name : String} {value : α} {members : List (String × α)}
    (ascending : Ascending ((name, value) :: members)) : members.lookup name = none := by
  cases found : members.lookup name with
  | none => rfl
  | some other =>
      have above := (List.pairwise_cons.mp ascending).1 _ (mem_of_lookup found)
      exact absurd above (String.lt_irrefl name)

/-- Leaving members out by their names does not matter to the names that remain. -/
theorem lookup_filter {name : String} (keep : String → Bool) (kept : keep name = true)
    (members : List (String × α)) :
    (members.filter fun entry => keep entry.1).lookup name = members.lookup name := by
  induction members with
  | nil => rfl
  | cons head rest ih =>
      obtain ⟨other, value⟩ := head
      by_cases same : name = other
      · subst same
        simp only [List.filter_cons, kept, if_true, List.lookup_cons_self]
      · rw [lookup_cons_of_ne same, ← ih, List.filter_cons]
        split
        · exact lookup_cons_of_ne same value _
        · rfl

/-- Two lists of members differ in the first value under a name at most. -/
inductive Replaced (name : String) (old new : α) :
    List (String × α) → List (String × α) → Prop where
  | here (rest : List (String × α)) :
      Replaced name old new ((name, old) :: rest) ((name, new) :: rest)
  | there {other : String} (value : α) {rest rest' : List (String × α)} :
      name ≠ other → Replaced name old new rest rest' →
        Replaced name old new ((other, value) :: rest) ((other, value) :: rest')

namespace Replaced

variable {name : String} {old new : α} {members members' : List (String × α)}

theorem symm (replaced : Replaced name old new members members') :
    Replaced name new old members' members := by
  induction replaced with
  | here rest => exact .here rest
  | there value distinct _ ih => exact .there value distinct ih

theorem trans {newest : α} {members'' : List (String × α)}
    (first : Replaced name old new members members')
    (second : Replaced name new newest members' members'') :
    Replaced name old newest members members'' := by
  induction first generalizing members'' with
  | here rest =>
      cases second with
      | here => exact .here rest
      | there _ distinct _ => exact absurd rfl distinct
  | there value distinct _ ih =>
      cases second with
      | here => exact absurd rfl distinct
      | there _ _ second => exact .there value distinct (ih second)

theorem lookup_old (replaced : Replaced name old new members members') :
    members.lookup name = some old := by
  induction replaced with
  | here rest => simp
  | there value distinct _ ih => rw [lookup_cons_of_ne distinct, ih]

theorem lookup_new (replaced : Replaced name old new members members') :
    members'.lookup name = some new :=
  replaced.symm.lookup_old

theorem lookup_other {other : String} (replaced : Replaced name old new members members')
    (distinct : other ≠ name) : members'.lookup other = members.lookup other := by
  induction replaced with
  | here rest => rw [lookup_cons_of_ne distinct, lookup_cons_of_ne distinct]
  | there value _ _ ih => simp only [List.lookup_cons, ih]

theorem names_eq (replaced : Replaced name old new members members') :
    members'.map Prod.fst = members.map Prod.fst := by
  induction replaced with
  | here rest => rfl
  | there value _ _ ih => simp [ih]

theorem exists_of_lookup (new : α) (found : members.lookup name = some old) :
    ∃ members', Replaced name old new members members' := by
  induction members with
  | nil => cases found
  | cons head rest ih =>
      obtain ⟨other, value⟩ := head
      by_cases same : name = other
      · subst same
        rw [List.lookup_cons_self, Option.some.injEq] at found
        subst found
        exact ⟨_, .here rest⟩
      · rw [lookup_cons_of_ne same] at found
        obtain ⟨rest', replaced⟩ := ih found
        exact ⟨_, .there value same replaced⟩

theorem ascending (replaced : Replaced name old new members members')
    (inOrder : Ascending members) : Ascending members' := by
  rw [ascending_iff_names, replaced.names_eq, ← ascending_iff_names]
  exact inOrder

theorem mem_of_mem {entry : String × α} (replaced : Replaced name old new members members')
    (member : entry ∈ members') : entry.2 = new ∨ entry ∈ members := by
  induction replaced with
  | here rest =>
      rcases List.mem_cons.mp member with same | behind
      · exact .inl (congrArg Prod.snd same)
      · exact .inr (List.mem_cons_of_mem _ behind)
  | there value _ _ ih =>
      rcases List.mem_cons.mp member with same | behind
      · exact .inr (List.mem_cons.mpr (.inl same))
      · exact (ih behind).imp id (List.mem_cons_of_mem _)

end Replaced

end GatewayAcl.Members
