import GatewayAcl.Proofs.Net.SpelledNetworks
import GatewayAcl.Proofs.Results
import GatewayAcl.Rule

/-!
# Validation of rules

A draft is valid if it has an action, a matcher and at least one CIDR, all of them spelled
as they should be.  Its rule has the networks that the CIDRs spell, one for each and in
their order.  A draft with faults is refused for the first of them in the order of the
checks.  A rule written down is a draft of that rule.
-/

namespace GatewayAcl

open Net

/-- The values of a table under the names that each value has. -/
theorem lookup_eq_some_iff_of_names {α : Type} {known : List (String × α)} {name : α → String}
    (named : ∀ entry ∈ known, name entry.2 = entry.1)
    (complete : ∀ value, known.lookup (name value) = some value) {text : String} {value : α} :
    known.lookup text = some value ↔ name value = text := by
  constructor
  · intro found
    have ⟨before, behind, splits, _⟩ := List.lookup_eq_some_iff.mp found
    exact named (text, value) (splits ▸ List.mem_append_right before List.mem_cons_self)
  · intro isName
    exact isName ▸ complete value

namespace Action

def IsName (text : String) : Prop :=
  text = "ALLOW" ∨ text = "DENY"

theorem isName_iff {text : String} : IsName text ↔ ∃ action : Action, action.name = text := by
  constructor
  · intro isName
    cases isName with
    | inl isAllow => exact ⟨.allow, isAllow.symm⟩
    | inr isDeny => exact ⟨.deny, isDeny.symm⟩
  · intro ⟨action, isName⟩
    cases action with
    | allow => exact .inl isName.symm
    | deny => exact .inr isName.symm

theorem parse?_eq_some_iff {text : String} {action : Action} :
    parse? text = some action ↔ action.name = text :=
  lookup_eq_some_iff_of_names (by decide) fun action => by cases action <;> decide

end Action

namespace Matcher

def IsName (text : String) : Prop :=
  text = "source_ip" ∨ text = "remote_ip" ∨ text = "direct_remote_ip"

theorem isName_iff {text : String} : IsName text ↔ ∃ matcher : Matcher, matcher.name = text := by
  constructor
  · intro isName
    rcases isName with isSource | isRemote | isDirect
    · exact ⟨.sourceIp, isSource.symm⟩
    · exact ⟨.remoteIp, isRemote.symm⟩
    · exact ⟨.directRemoteIp, isDirect.symm⟩
  · intro ⟨matcher, isName⟩
    cases matcher with
    | sourceIp => exact .inl isName.symm
    | remoteIp => exact .inr (.inl isName.symm)
    | directRemoteIp => exact .inr (.inr isName.symm)

theorem parse?_eq_some_iff {text : String} {matcher : Matcher} :
    parse? text = some matcher ↔ matcher.name = text :=
  lookup_eq_some_iff_of_names (by decide) fun matcher => by cases matcher <;> decide

end Matcher

/-- A text spells some network. -/
def IsCidr (text : String) : Prop :=
  ∃ network, Network.Spelled text.toList network

namespace DraftRule

/-- Every part of a draft is as it should be. -/
structure IsValid (draft : DraftRule) : Prop where
  action : Action.IsName draft.action
  matcher : Matcher.IsName draft.matcher
  nonempty : draft.cidrs ≠ []
  cidrs : ∀ text ∈ draft.cidrs, IsCidr text

/-- A draft spells a rule, network by network. -/
structure Spells (draft : DraftRule) (rule : Rule) : Prop where
  action : rule.action.name = draft.action
  matcher : rule.matcher.name = draft.matcher
  nonempty : draft.cidrs ≠ []
  networks : List.Forall₂ (fun text network => Network.Spelled text.toList network)
    draft.cidrs rule.networks

/-- The first fault of a draft, with nothing wrong in the parts that are checked before. -/
inductive FirstFault : Option DraftRule → RuleError → Prop where
  | missing : FirstFault none .missing
  | action {draft : DraftRule} :
      ¬ Action.IsName draft.action → FirstFault (some draft) (.invalidAction draft.action)
  | matcher {draft : DraftRule} :
      Action.IsName draft.action → ¬ Matcher.IsName draft.matcher →
        FirstFault (some draft) (.invalidMatcher draft.matcher)
  | missingCidrs {draft : DraftRule} :
      Action.IsName draft.action → Matcher.IsName draft.matcher → draft.cidrs = [] →
        FirstFault (some draft) .missingCidrs
  | cidr {draft : DraftRule} {before behind : List String} {text : String} :
      Action.IsName draft.action → Matcher.IsName draft.matcher →
        draft.cidrs = before ++ text :: behind → (∀ earlier ∈ before, IsCidr earlier) →
        ¬ IsCidr text → FirstFault (some draft) (.invalidCidr text)

end DraftRule

namespace Rule

variable {draft : DraftRule} {rule : Rule} {error : RuleError} {text : String}

theorem parseAction_eq_ok_iff {action : Action} :
    parseAction text = .ok action ↔ action.name = text := by
  rw [← Action.parse?_eq_some_iff, parseAction]
  cases Action.parse? text <;> simp

theorem parseAction_eq_error_iff :
    parseAction text = .error error ↔ ¬ Action.IsName text ∧ error = .invalidAction text := by
  rw [Action.isName_iff]
  simp only [← Action.parse?_eq_some_iff, parseAction]
  cases Action.parse? text <;> simp [eq_comm]

theorem parseMatcher_eq_ok_iff {matcher : Matcher} :
    parseMatcher text = .ok matcher ↔ matcher.name = text := by
  rw [← Matcher.parse?_eq_some_iff, parseMatcher]
  cases Matcher.parse? text <;> simp

theorem parseMatcher_eq_error_iff :
    parseMatcher text = .error error ↔ ¬ Matcher.IsName text ∧ error = .invalidMatcher text := by
  rw [Matcher.isName_iff]
  simp only [← Matcher.parse?_eq_some_iff, parseMatcher]
  cases Matcher.parse? text <;> simp [eq_comm]

theorem isCidr_iff : IsCidr text ↔ ∃ network, Network.parse? text = some network := by
  simp only [IsCidr, Network.parse?_eq_some_iff]

-- No text is to be read while terms that read it are compared.
attribute [local irreducible] Network.parse?

theorem parseNetworks_nil : parseNetworks [] = .ok [] := rfl

theorem parseNetworks_cons (text : String) (texts : List String) :
    parseNetworks (text :: texts) =
      match Network.parse? text with
      | none => .error (.invalidCidr text)
      | some network => (parseNetworks texts).map (network :: ·) := rfl

theorem parseNetworks_of_none (texts : List String) (parsed : Network.parse? text = none) :
    parseNetworks (text :: texts) = .error (.invalidCidr text) := by
  rw [parseNetworks_cons, parsed]

theorem parseNetworks_of_some {network : Network} (texts : List String)
    (parsed : Network.parse? text = some network) :
    parseNetworks (text :: texts) = (parseNetworks texts).map (network :: ·) := by
  rw [parseNetworks_cons, parsed]

theorem parseNetworks_eq_ok_iff {texts : List String} {networks : List Network} :
    parseNetworks texts = .ok networks ↔
      List.Forall₂ (fun text network => Network.Spelled text.toList network) texts networks := by
  induction texts generalizing networks with
  | nil =>
      rw [List.forall₂_nil_left_iff, parseNetworks_nil, Except.ok.injEq, eq_comm]
  | cons text texts ih =>
      rw [List.forall₂_cons_left_iff]
      cases parsed : Network.parse? text with
      | none =>
          rw [parseNetworks_of_none texts parsed]
          constructor
          · intro failed
            cases failed
          · intro ⟨network, _, spelled, _⟩
            cases parsed.symm.trans (Network.parse?_eq_some_iff.mpr spelled)
      | some network =>
          rw [parseNetworks_of_some texts parsed, except_map_eq_ok_iff]
          constructor
          · intro ⟨others, areOthers, isAll⟩
            exact ⟨network, others, Network.parse?_eq_some_iff.mp parsed, ih.mp areOthers,
              isAll.symm⟩
          · intro ⟨other, others, spelled, areOthers, isAll⟩
            cases parsed.symm.trans (Network.parse?_eq_some_iff.mpr spelled)
            exact ⟨others, ih.mpr areOthers, isAll.symm⟩

theorem parseNetworks_eq_error_iff {texts : List String} :
    parseNetworks texts = .error error ↔
      ∃ before text behind, texts = before ++ text :: behind ∧
        (∀ earlier ∈ before, IsCidr earlier) ∧ ¬ IsCidr text ∧ error = .invalidCidr text := by
  induction texts with
  | nil => simp [parseNetworks_nil]
  | cons first texts ih =>
      cases parsed : Network.parse? first with
      | none =>
          rw [parseNetworks_of_none texts parsed]
          have noCidr : ¬ IsCidr first := by simp [isCidr_iff, parsed]
          constructor
          · intro failed
            cases failed
            exact ⟨[], first, texts, rfl, List.forall_mem_nil _, noCidr, rfl⟩
          · intro ⟨before, text, behind, splits, areCidrs, _, isError⟩
            cases before with
            | nil =>
                cases splits
                rw [isError]
            | cons earlier before =>
                cases splits
                exact absurd (areCidrs first List.mem_cons_self) noCidr
      | some network =>
          have isCidr : IsCidr first := isCidr_iff.mpr ⟨network, parsed⟩
          rw [parseNetworks_of_some texts parsed, except_map_eq_error_iff, ih]
          constructor
          · intro ⟨before, text, behind, splits, areCidrs, fault⟩
            exact ⟨first :: before, text, behind, congrArg (first :: ·) splits,
              List.forall_mem_cons.mpr ⟨isCidr, areCidrs⟩, fault⟩
          · intro ⟨before, text, behind, splits, areCidrs, noCidr, isError⟩
            cases before with
            | nil =>
                cases splits
                exact absurd isCidr noCidr
            | cons earlier before =>
                cases splits
                exact ⟨before, text, behind, rfl, (List.forall_mem_cons.mp areCidrs).2, noCidr,
                  isError⟩

theorem validate_some_eq_ok_iff : validate (some draft) = .ok rule ↔ draft.Spells rule := by
  simp only [validate, except_bind_eq_ok_iff, parseAction_eq_ok_iff, parseMatcher_eq_ok_iff,
    List.isEmpty_iff]
  constructor
  · intro ⟨action, isAction, matcher, isMatcher, checked⟩
    split at checked
    · cases checked
    · next nonempty =>
        have ⟨networks, areNetworks, isRule⟩ := except_bind_eq_ok_iff.mp checked
        cases isRule
        exact ⟨isAction, isMatcher, nonempty, parseNetworks_eq_ok_iff.mp areNetworks⟩
  · intro spells
    refine ⟨rule.action, spells.action, rule.matcher, spells.matcher, ?_⟩
    rw [if_neg spells.nonempty, parseNetworks_eq_ok_iff.mpr spells.networks]
    rfl

/-- A draft is refused for its first fault. -/
theorem validate_eq_error_iff {draft? : Option DraftRule} :
    validate draft? = .error error ↔ DraftRule.FirstFault draft? error := by
  cases draft? with
  | none =>
      constructor
      · intro failed
        cases failed
        exact .missing
      · intro fault
        cases fault
        rfl
  | some draft =>
      simp only [validate, except_bind_eq_error_iff, parseAction_eq_error_iff,
        parseMatcher_eq_error_iff, parseAction_eq_ok_iff, parseMatcher_eq_ok_iff,
        List.isEmpty_iff]
      constructor
      · intro failed
        rcases failed with ⟨noAction, isError⟩ | ⟨action, isAction, failed⟩
        · exact isError ▸ .action noAction
        have actionNamed := Action.isName_iff.mpr ⟨action, isAction⟩
        rcases failed with ⟨noMatcher, isError⟩ | ⟨matcher, isMatcher, failed⟩
        · exact isError ▸ .matcher actionNamed noMatcher
        have matcherNamed := Matcher.isName_iff.mpr ⟨matcher, isMatcher⟩
        split at failed
        · next isEmpty =>
            cases failed
            exact .missingCidrs actionNamed matcherNamed isEmpty
        · rcases except_bind_eq_error_iff.mp failed with noNetworks | ⟨networks, _, isRule⟩
          · have ⟨before, text, behind, splits, areCidrs, noCidr, isError⟩ :=
              parseNetworks_eq_error_iff.mp noNetworks
            exact isError ▸ .cidr actionNamed matcherNamed splits areCidrs noCidr
          · cases isRule
      · intro fault
        cases fault with
        | action noAction => exact .inl ⟨noAction, rfl⟩
        | matcher isAction noMatcher =>
            have ⟨action, actionNamed⟩ := Action.isName_iff.mp isAction
            exact .inr ⟨action, actionNamed, .inl ⟨noMatcher, rfl⟩⟩
        | missingCidrs isAction isMatcher isEmpty =>
            have ⟨action, actionNamed⟩ := Action.isName_iff.mp isAction
            have ⟨matcher, matcherNamed⟩ := Matcher.isName_iff.mp isMatcher
            refine .inr ⟨action, actionNamed, .inr ⟨matcher, matcherNamed, ?_⟩⟩
            rw [if_pos isEmpty]
        | @cidr _ before behind text isAction isMatcher splits areCidrs noCidr =>
            have ⟨action, actionNamed⟩ := Action.isName_iff.mp isAction
            have ⟨matcher, matcherNamed⟩ := Matcher.isName_iff.mp isMatcher
            have nonempty : draft.cidrs ≠ [] := by simp [splits]
            have failed := parseNetworks_eq_error_iff.mpr
              ⟨before, text, behind, splits, areCidrs, noCidr, rfl⟩
            refine .inr ⟨action, actionNamed, .inr ⟨matcher, matcherNamed, ?_⟩⟩
            rw [if_neg nonempty, failed]
            rfl

theorem validate_eq_ok_iff {draft? : Option DraftRule} :
    validate draft? = .ok rule ↔ ∃ draft, draft? = some draft ∧ draft.Spells rule := by
  cases draft? with
  | none =>
      constructor
      · intro accepted
        cases accepted
      · intro ⟨draft, given, _⟩
        cases given
  | some draft =>
      rw [validate_some_eq_ok_iff]
      constructor
      · intro spells
        exact ⟨draft, rfl, spells⟩
      · intro ⟨given, same, spells⟩
        cases same
        exact spells

theorem exists_networks_iff {texts : List String} :
    (∃ networks, List.Forall₂ (fun text network => Network.Spelled text.toList network)
      texts networks) ↔ ∀ text ∈ texts, IsCidr text := by
  induction texts with
  | nil => simp
  | cons text texts ih =>
      rw [List.forall_mem_cons, ← ih]
      constructor
      · intro ⟨_, spelled⟩
        cases spelled with
        | cons first others => exact ⟨⟨_, first⟩, _, others⟩
      · intro ⟨⟨network, first⟩, networks, others⟩
        exact ⟨network :: networks, .cons first others⟩

theorem exists_spells_iff : (∃ rule, draft.Spells rule) ↔ draft.IsValid := by
  constructor
  · intro ⟨rule, spells⟩
    refine ⟨?_, ?_, spells.nonempty, exists_networks_iff.mp ⟨_, spells.networks⟩⟩
    · exact Action.isName_iff.mpr ⟨rule.action, spells.action⟩
    · exact Matcher.isName_iff.mpr ⟨rule.matcher, spells.matcher⟩
  · intro valid
    have ⟨action, actionNamed⟩ := Action.isName_iff.mp valid.action
    have ⟨matcher, matcherNamed⟩ := Matcher.isName_iff.mp valid.matcher
    have ⟨networks, spelled⟩ := exists_networks_iff.mpr valid.cidrs
    exact ⟨⟨action, matcher, networks⟩, actionNamed, matcherNamed, valid.nonempty, spelled⟩

/-- A rule with networks is spelled by what it is written down as. -/
theorem spells_draft (nonempty : rule.networks ≠ []) : rule.draft.Spells rule where
  action := rfl
  matcher := rfl
  nonempty := by simpa [draft] using nonempty
  networks := by
    rw [draft, List.forall₂_map_left_iff, List.forall₂_same]
    intro network _
    exact Network.parse?_eq_some_iff.mp network.parse?_print

theorem networks_ne_nil_of_spells (spells : draft.Spells rule) : rule.networks ≠ [] := by
  intro isEmpty
  have noCidrs := spells.networks
  rw [isEmpty, List.forall₂_nil_right_iff] at noCidrs
  exact spells.nonempty noCidrs

/-- Validation is exact, keeps the order of the CIDRs and undoes the writing of rules.  A
draft that is refused is refused for its first fault. -/
theorem validate_exact (draft? : Option DraftRule) :
    ((∃ rule, validate draft? = .ok rule) ↔ ∃ draft, draft? = some draft ∧ draft.IsValid) ∧
    (∀ rule, validate draft? = .ok rule ↔ ∃ draft, draft? = some draft ∧ draft.Spells rule) ∧
    (∀ rule, validate draft? = .ok rule → validate (some rule.draft) = .ok rule) ∧
    (∀ rule : Rule, rule.networks ≠ [] → validate (some rule.draft) = .ok rule) ∧
    (∀ error, validate draft? = .error error ↔ DraftRule.FirstFault draft? error) := by
  have rewritten := fun (rule : Rule) (nonempty : rule.networks ≠ []) =>
    validate_some_eq_ok_iff.mpr (spells_draft nonempty)
  refine ⟨?_, fun _ => validate_eq_ok_iff, ?_, rewritten, fun _ => validate_eq_error_iff⟩
  · simp only [validate_eq_ok_iff, ← exists_spells_iff]
    constructor
    · intro ⟨rule, draft, given, spells⟩
      exact ⟨draft, given, rule, spells⟩
    · intro ⟨draft, given, rule, spells⟩
      exact ⟨rule, draft, given, spells⟩
  · intro rule accepted
    have ⟨draft, _, spells⟩ := validate_eq_ok_iff.mp accepted
    exact rewritten rule (networks_ne_nil_of_spells spells)

/-- The second CIDR is too long and the third one is none. -/
example : validate (some ⟨"ALLOW", "source_ip", ["10.0.0.1/08", "::/129", "10.0.0.0"]⟩) =
    .error (.invalidCidr "::/129") := by decide +kernel

end Rule

end GatewayAcl
