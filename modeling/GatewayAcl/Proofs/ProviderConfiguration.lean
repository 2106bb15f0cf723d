import GatewayAcl.ProviderConfig
import GatewayAcl.Proofs.Json.Layouts

/-!
# What users can write

A grammar of provider configurations that does not mention decoding.  What is decoded is
what is written in this grammar, field by field, and nothing else is accepted.  So nothing
that a user has written is ignored.
-/

namespace GatewayAcl

/-- What is given conveys a value: it is what the value is encoded as, or nothing if the
value is the one that is meant then. -/
inductive Json.Conveys {α : Type} (encode : α → Json) (absent : α) : Option Json → α → Prop where
  | nothing : Conveys encode absent none absent
  | value (value : α) : Conveys encode absent (some (encode value)) value

/-- A member with an exact decoder, from which values read back, is decoded as what is given
conveys. -/
theorem Decoder.member_eq_ok_iff {α : Type} {decoder : Decoder α} {encode : α → Json}
    {absent : α} (exact : decoder.Exact encode)
    (back : ∀ value, decoder.ofJson (encode value) = .ok value) {given : Option Json}
    (canonical : ∀ json ∈ given, json.Canonical) {value : α} :
    decoder.member absent given = .ok value ↔ Json.Conveys encode absent given value := by
  constructor
  · intro read
    cases given with
    | none =>
        cases read
        exact .nothing
    | some json =>
        rw [exact (canonical json rfl) read]
        exact .value value
  · intro conveys
    cases conveys with
    | nothing => rfl
    | value => exact back value

namespace DraftRule

/-- A draft is written with its fields as members or, in order, as items.  Fields that are
left out are empty. -/
inductive Written : Json → DraftRule → Prop where
  | keyed {members : List (String × Json)} {draft : DraftRule} :
      (∀ entry ∈ members, entry.1 ∈ ["action", "type", "cidrs"]) →
        Json.Conveys .string "" (members.lookup "action") draft.action →
        Json.Conveys .string "" (members.lookup "type") draft.matcher →
        Json.Conveys (fun cidrs => .array (cidrs.map .string)) [] (members.lookup "cidrs")
          draft.cidrs →
          Written (.object members) draft
  | positional {items : List Json} {draft : DraftRule} :
      items.length ≤ 3 →
        Json.Conveys .string "" items[0]? draft.action →
        Json.Conveys .string "" items[1]? draft.matcher →
        Json.Conveys (fun cidrs => .array (cidrs.map .string)) [] items[2]? draft.cidrs →
          Written (.array items) draft

def parts : List (Part DraftRule) := [
  .defaulted "action" .string .string "" action,
  .defaulted "type" .string .string "" matcher,
  .defaulted "cidrs" (.list .string) (fun cidrs => .array (cidrs.map .string)) [] cidrs]

theorem layout : Layout shape encode parts where
  orderly := .triple (by decide) (by intros; rfl) (by intros; rfl) (by intros; rfl)
  names := rfl
  assembles given draft := by
    cases draft
    simp only [shape, parts, Shape.assembles_defaulted_iff "",
      Shape.assembles_defaulted_iff ([] : List String), Shape.assembles_nil_iff,
      List.forall_mem_cons, List.not_mem_nil, false_implies, implies_true, Part.name_defaulted,
      Part.reads_defaulted]
    grind
  encode_eq draft := by simp [encode, parts]

theorem given_positional (items : List Json) :
    shape.given (.array items) "action" = items[0]? ∧
      shape.given (.array items) "type" = items[1]? ∧
      shape.given (.array items) "cidrs" = items[2]? := by
  match items with
  | [] => exact ⟨rfl, rfl, rfl⟩
  | [_] => exact ⟨rfl, rfl, rfl⟩
  | [_, _] => exact ⟨rfl, rfl, rfl⟩
  | _ :: _ :: _ :: _ => exact ⟨rfl, rfl, rfl⟩

theorem decoder_eq_ok_iff {json : Json} (canonical : json.Canonical) {draft : DraftRule} :
    shape.decoder.ofJson json = .ok draft ↔ Written json draft := by
  have readsText (name : String) (text : String) :
      Decoder.string.member "" (shape.given json name) = .ok text ↔
        Json.Conveys .string "" (shape.given json name) text :=
    Decoder.member_eq_ok_iff Decoder.exact_string (fun _ => rfl)
      fun _ found => Shape.canonical_given canonical found
  have readsTexts (name : String) (texts : List String) :
      (Decoder.list .string).member [] (shape.given json name) = .ok texts ↔
        Json.Conveys (fun texts => .array (texts.map .string)) [] (shape.given json name) texts :=
    Decoder.member_eq_ok_iff Decoder.exact_string.list
      (fun _ => Decoder.list_ofJson_map fun _ _ => rfl)
      fun _ found => Shape.canonical_given canonical found
  rw [layout.decoder_eq_ok_iff canonical, parts, List.forall_mem_cons, List.forall_mem_cons,
    List.forall_mem_singleton]
  simp only [Part.name_defaulted, Part.reads_defaulted, readsText, readsTexts]
  cases json with
  | object members =>
      rw [Shape.fits_object_iff_of_strict rfl]
      constructor
      · intro decoded
        rcases decoded with ⟨known, action, matcher, cidrs⟩
        exact .keyed known action matcher cidrs
      · intro written
        cases written with
        | keyed known action matcher cidrs => exact ⟨known, action, matcher, cidrs⟩
  | array items =>
      rcases given_positional items with ⟨first, second, third⟩
      rw [Shape.fits_array_iff_of_allowed (by decide) (by simp [shape, Field.defaulted]), first,
        second, third]
      constructor
      · intro decoded
        rcases decoded with ⟨short, action, matcher, cidrs⟩
        exact .positional short action matcher cidrs
      · intro written
        cases written with
        | positional short action matcher cidrs => exact ⟨short, action, matcher, cidrs⟩
  | _ =>
      constructor
      · intro decoded
        cases decoded.1
      · intro written
        cases written

theorem decoder_encode (draft : DraftRule) : shape.decoder.ofJson draft.encode = .ok draft := by
  apply layout.decoder_encode
  rw [parts, List.forall_mem_cons, List.forall_mem_cons, List.forall_mem_singleton]
  refine ⟨rfl, rfl, ?_⟩
  exact Decoder.list_ofJson_map fun _ _ => rfl

end DraftRule

namespace ProviderConfig

/-- At most one rule is written: none where nothing or null is given. -/
inductive WritesRule : Option Json → Option DraftRule → Prop where
  | nothing : WritesRule none none
  | null : WritesRule (some .null) none
  | rule {json : Json} {draft : DraftRule} :
      draft.Written json → WritesRule (some json) (some draft)

/-- A configuration is written with the rule as its only member or its only item, if there is
one. -/
inductive Written : Json → ProviderConfig → Prop where
  | keyed {members : List (String × Json)} {config : ProviderConfig} :
      (∀ entry ∈ members, entry.1 = "rule") → WritesRule (members.lookup "rule") config.rule →
        Written (.object members) config
  | positional {items : List Json} {config : ProviderConfig} :
      items.length ≤ 1 → WritesRule items[0]? config.rule → Written (.array items) config

/-- A key that nobody knows stands in the configuration or in its rule. -/
inductive HasStranger : Json → Prop where
  | outer {members : List (String × Json)} {entry : String × Json} :
      entry ∈ members → entry.1 ≠ "rule" → HasStranger (.object members)
  | keyed {members rule : List (String × Json)} {entry : String × Json} :
      members.lookup "rule" = some (.object rule) → entry ∈ rule →
        entry.1 ∉ ["action", "type", "cidrs"] → HasStranger (.object members)
  | positional {items : List Json} {rule : List (String × Json)} {entry : String × Json} :
      items[0]? = some (.object rule) → entry ∈ rule →
        entry.1 ∉ ["action", "type", "cidrs"] → HasStranger (.array items)

def parts : List (Part ProviderConfig) := [
  .optional "rule" DraftRule.shape.decoder DraftRule.encode rule]

theorem layout : Layout shape encode parts where
  orderly := ⟨by decide, List.pairwise_singleton _ _⟩
  names := rfl
  assembles given config := by
    cases config
    simp [shape, parts, Shape.assembles_optional_iff, Shape.assembles_nil_iff]
  encode_eq config := by simp [encode, parts]

theorem member_rule_eq_ok_iff {given : Option Json} (canonical : ∀ json ∈ given, json.Canonical)
    {rule? : Option DraftRule} :
    DraftRule.shape.decoder.option.member none given = .ok rule? ↔ WritesRule given rule? := by
  rw [Decoder.member_option_eq_ok_iff]
  constructor
  · intro read
    cases given with
    | none =>
        cases read
        exact .nothing
    | some json =>
        by_cases isNull : json = .null
        · subst isNull
          cases read
          exact .null
        · rw [Json.unlessNull_some isNull] at read
          cases read with
          | some readRule =>
              exact .rule ((DraftRule.decoder_eq_ok_iff (canonical json rfl)).mp readRule)
  · intro writes
    cases writes with
    | nothing => exact .none
    | null => exact .none
    | @rule json draft written =>
        have notNull : json ≠ .null := by
          intro isNull
          subst isNull
          cases written
        rw [Json.unlessNull_some notNull, Option.rel_some_some]
        exact (DraftRule.decoder_eq_ok_iff (canonical json rfl)).mpr written

theorem decode_eq_ok_iff {raw : Json} (canonical : raw.Canonical) {config : ProviderConfig} :
    decode raw = .ok config ↔ Written raw config := by
  have readsRule : DraftRule.shape.decoder.option.member none (shape.given raw "rule") =
        .ok config.rule ↔ WritesRule (shape.given raw "rule") config.rule :=
    member_rule_eq_ok_iff fun _ found => Shape.canonical_given canonical found
  rw [decode, layout.decoder_eq_ok_iff canonical, parts, List.forall_mem_singleton,
    Part.name_optional, Part.reads_optional, readsRule]
  cases raw with
  | object members =>
      rw [Shape.fits_object_iff_of_strict rfl]
      constructor
      · intro decoded
        rcases decoded with ⟨known, rule⟩
        exact .keyed (fun entry member => List.mem_singleton.mp (known entry member)) rule
      · intro written
        cases written with
        | keyed known rule =>
            exact ⟨fun entry member => List.mem_singleton.mpr (known entry member), rule⟩
  | array items =>
      have first : shape.given (.array items) "rule" = items[0]? := by
        cases items <;> rfl
      rw [Shape.fits_array_iff_of_allowed (by decide)
        (by simp [shape, Field.optional, Field.defaulted]), first]
      constructor
      · intro decoded
        rcases decoded with ⟨short, rule⟩
        exact .positional short rule
      · intro written
        cases written with
        | positional short rule => exact ⟨short, rule⟩
  | _ =>
      constructor
      · intro decoded
        cases decoded.1
      · intro written
        cases written

/-- A rule with a key that nobody knows is not written in the grammar. -/
theorem not_writesRule_of_stranger {members : List (String × Json)} {entry : String × Json}
    (member : entry ∈ members) (unknown : entry.1 ∉ ["action", "type", "cidrs"])
    {rule? : Option DraftRule} : ¬ WritesRule (some (.object members)) rule? := by
  intro writes
  cases writes with
  | rule written =>
      cases written with
      | keyed known _ _ _ => exact unknown (known entry member)

theorem not_written_of_hasStranger {raw : Json} (stranger : HasStranger raw)
    (config : ProviderConfig) : ¬ Written raw config := by
  intro written
  cases stranger with
  | outer member unknown =>
      cases written with
      | keyed known _ => exact unknown (known _ member)
  | keyed isRule member unknown =>
      cases written with
      | keyed _ rule =>
          rw [isRule] at rule
          exact not_writesRule_of_stranger member unknown rule
  | positional isRule member unknown =>
      cases written with
      | positional _ rule =>
          rw [isRule] at rule
          exact not_writesRule_of_stranger member unknown rule

theorem decode_encode (config : ProviderConfig) : decode config.encode = .ok config := by
  have present (draft : DraftRule) : draft.encode ≠ .null := by
    simp [DraftRule.encode, Json.record]
  apply layout.decoder_encode
  rw [parts, List.forall_mem_singleton]
  exact Decoder.member_option_map present DraftRule.decoder_encode config.rule

/-- Decoding accepts what is written in the grammar, as the configuration that is written, and
nothing else.  So a key that nobody knows is never ignored, wherever it stands, and nothing
is lost of a configuration that is encoded. -/
theorem decode_accepts_grammar {raw : Json} (canonical : raw.Canonical) :
    (∀ config, decode raw = .ok config ↔ Written raw config) ∧
      (HasStranger raw → ∃ error, decode raw = .error error) ∧
      ∀ config, decode config.encode = .ok config := by
  refine ⟨fun config => decode_eq_ok_iff canonical, ?_, decode_encode⟩
  intro stranger
  rw [except_failed_iff]
  intro config decoded
  exact not_written_of_hasStranger stranger config ((decode_eq_ok_iff canonical).mp decoded)

namespace Demo

/-- A configuration in positional notation, with a rule in keyed notation. -/
def raw : Json :=
  .array [.object [("action", .string "ALLOW"), ("cidrs", .array [.string "10.0.0.0/8"])]]

/-- A misspelt key among others. -/
def misspelt : Json :=
  .object [("rule", .object [("action", .string "ALLOW"), ("cidr", .array [])])]

end Demo

/-- The first is decoded as it is written, the second is refused. -/
theorem decode_accepts_grammar_demo :
    Demo.raw.Canonical ∧ Written Demo.raw ⟨some ⟨"ALLOW", "", ["10.0.0.0/8"]⟩⟩ ∧
      Demo.misspelt.Canonical ∧ HasStranger Demo.misspelt ∧
      ∃ error, decode Demo.misspelt = .error error := by
  have canonical : Demo.raw.Canonical :=
    Document.canonical_of_toJson (rfl : Demo.raw.toDocument.toJson = .ok Demo.raw)
  have canonical' : Demo.misspelt.Canonical :=
    Document.canonical_of_toJson (rfl : Demo.misspelt.toDocument.toJson = .ok Demo.misspelt)
  have stranger : HasStranger Demo.misspelt :=
    .keyed rfl (List.mem_cons_of_mem _ List.mem_cons_self) (by decide)
  rcases decode_accepts_grammar canonical with ⟨accepted, _⟩
  rcases decode_accepts_grammar canonical' with ⟨_, refused, _⟩
  exact ⟨canonical, (accepted _).mp rfl, canonical', stranger, refused stranger⟩

end ProviderConfig

end GatewayAcl
