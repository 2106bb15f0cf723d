import GatewayAcl.Admission.Service
import GatewayAcl.Proofs.Json.PatchTexts
import GatewayAcl.Proofs.Json.Records
import GatewayAcl.Proofs.Results

/-!
# What the service reports

What the API server reads in the answers of the service.  The service is asked about
gateway filter objects and extensions only.  There it reports what the mutator or the
validator has come to, and nothing that it cannot understand is ever reported as
allowed.
-/

namespace GatewayAcl

open Kube

def Decoder.byte : Decoder UInt8 := fun document =>
  (Decoder.u8 document).map UInt8.ofNat

namespace Admission

/-! ## Reading a review -/

/-- What is read in a status: its code and its message, zero and empty if there is
none. -/
structure StatusReport where
  code : Nat
  message : String

def StatusReport.shape : Shape StatusReport where
  name := "Status"
  strictness := .lenient
  blank := ⟨0, ""⟩
  fields := [
    .defaulted "code" .u16 fun status value => { status with code := value },
    .defaulted "message" .string fun status value => { status with message := value }]

/-- What is read in a review that carries a response. -/
structure Report where
  uid : String
  allowed : Bool
  status : StatusReport
  patch : Option (List UInt8)
  patchType : Option String

namespace Report

/-- The report before anything about it is known. -/
def blank : Report := ⟨"", false, ⟨0, ""⟩, none, none⟩

def responseShape : Shape Report where
  name := "AdmissionResponse"
  strictness := .lenient
  blank := blank
  fields := [
    .required "uid" .string fun report value => { report with uid := value },
    .required "allowed" .bool fun report value => { report with allowed := value },
    .required "status" StatusReport.shape.decoder fun report value =>
      { report with status := value },
    .optional "patch" (.list .byte) fun report value => { report with patch := value },
    .optional "patchType" .string fun report value => { report with patchType := value }]

def shape : Shape Report where
  name := "AdmissionReview"
  strictness := .lenient
  blank := blank
  fields := [
    .required "apiVersion" .string fun report _ => report,
    .required "kind" .string fun report _ => report,
    .required "response" responseShape.decoder fun _ report => report]

end Report

def Response.report (response : Response) : Report where
  uid := response.uid
  allowed := response.allowed
  status := ⟨response.status.code, response.status.message⟩
  patch := response.patch
  patchType := response.patch.map fun _ => "JSONPatch"

/-! ## A review reads as what it says -/

namespace StatusReport

theorem orderly : shape.Orderly :=
  .pair (by decide) (by intros; rfl)

/-- A member that is left out under a condition is found under its own name only. -/
theorem lookup_unless {condition : Prop} [Decidable condition] (name other : String)
    (json : Json) :
    (if condition then [] else [(name, json)]).reverse.lookup other =
      if other = name then if condition then none else some json else none := by
  by_cases leftOut : condition
  · simp [leftOut]
  · by_cases same : other = name
    · simp [leftOut, same]
    · simp [leftOut, same, Members.lookup_cons_of_ne same]

theorem member?_encode (status : Status) :
    status.encode.member? "code" =
        (if status.code = 0 then none else some (.ofNat status.code)) ∧
      status.encode.member? "message" =
        (if status.message = "" then none else some (.string status.message)) := by
  have ⟨isFailure, code, message, reason⟩ := status
  simp only [Status.encode, Status.textMember, Json.record, Json.member?, Members.lookup_ofList,
    List.reverse_append, List.lookup_append, lookup_unless]
  cases isFailure with
  | true => simp [List.lookup_cons]
  | false => simp

theorem legible_unless {condition : Prop} [Decidable condition] (name : String) {json : Json}
    {depth : Nat} (legible : json.Legible depth) :
    ∀ entry ∈ (if condition then [] else [(name, json)]), entry.2.Legible depth := by
  split
  · simp
  · simpa using legible

theorem legible_encode {status : Status} (bounded : status.code < Power.ofTwo 16) :
    status.encode.Legible 125 := by
  have isCode : status.code < Power.ofTwo 64 := Nat.lt_trans bounded (by decide)
  refine .record ?_
  simp only [List.forall_mem_append]
  refine ⟨⟨⟨?_, ?code⟩, ?message⟩, ?reason⟩
  case code => exact legible_unless "code" (.ofNat isCode)
  case message => exact legible_unless "message" (.string status.message)
  case reason => exact legible_unless "reason" (.string status.reason)
  split
  · simpa using Json.Legible.string "Failure"
  · simp

/-- What a status leaves out is read as what it would have said. -/
theorem decoder_encode {status : Status} (bounded : status.code < Power.ofTwo 16) :
    shape.decoder.ofJson status.encode = .ok ⟨status.code, status.message⟩ := by
  have ⟨code, message⟩ := member?_encode status
  have readCode : Decoder.u16.member 0 (status.encode.member? "code") = .ok status.code := by
    rw [code]
    by_cases zero : status.code = 0
    · rw [if_pos zero, zero]
      rfl
    · rw [if_neg zero]
      exact Decoder.natural_ofNat bounded
  have readMessage :
      Decoder.string.member "" (status.encode.member? "message") = .ok status.message := by
    rw [message]
    by_cases empty : status.message = ""
    · rw [if_pos empty, empty]
      rfl
    · rw [if_neg empty]
      rfl
  apply Shape.Reads.decoder orderly (by decide)
  refine .defaulted readCode rfl ?_
  refine .defaulted readMessage rfl ?_
  exact .nil _

end StatusReport

namespace Report

theorem byte_ofNat (byte : UInt8) : Decoder.byte.ofJson (.ofNat byte.toNat) = .ok byte := by
  have read : Decoder.u8.ofJson (.ofNat byte.toNat) = .ok byte.toNat :=
    Decoder.natural_ofNat byte.toNat_lt
  rw [Decoder.ofJson] at read
  rw [Decoder.ofJson, Decoder.byte, read]
  exact congrArg Except.ok UInt8.ofNat_toNat

theorem orderly_response : responseShape.Orderly where
  distinct := by decide
  commutes := by
    simp only [responseShape, List.pairwise_cons, List.forall_mem_cons, List.not_mem_nil,
      false_implies, implies_true, List.Pairwise.nil, and_true]
    refine ⟨⟨?_, ?_, ?_, ?_⟩, ⟨?_, ?_, ?_⟩, ⟨?_, ?_⟩, ?_⟩ <;>
      exact Field.commutes_of_set (by intros; rfl)

theorem orderly : shape.Orderly :=
  .triple (by decide) (by intros; rfl) (by intros; rfl) (by intros; rfl)

def responseMembers (response : Response) : List (String × Json) :=
  [("uid", .string response.uid), ("allowed", .bool response.allowed),
    ("status", response.status.encode)] ++ Response.patchMembers response.patch

theorem member?_response (response : Response) :
    (Json.record (responseMembers response)).member? "uid" = some (.string response.uid) ∧
      (Json.record (responseMembers response)).member? "allowed" =
        some (.bool response.allowed) ∧
      (Json.record (responseMembers response)).member? "status" =
        some response.status.encode ∧
      (Json.record (responseMembers response)).member? "patch" =
        response.patch.map (fun bytes => .array (bytes.map fun byte => .ofNat byte.toNat)) ∧
      (Json.record (responseMembers response)).member? "patchType" =
        (response.patch.map fun _ => "JSONPatch").map .string := by
  have ⟨type, uid, allowed, status, patch⟩ := response
  cases patch with
  | none => exact ⟨rfl, rfl, rfl, rfl, rfl⟩
  | some bytes => exact ⟨rfl, rfl, rfl, rfl, rfl⟩

theorem decoder_response {response : Response} (bounded : response.status.code < Power.ofTwo 16) :
    responseShape.decoder.ofJson (.record (responseMembers response)) = .ok response.report := by
  have ⟨uid, allowed, status, patch, patchType⟩ := member?_response response
  apply Shape.Reads.decoder orderly_response (by decide)
  refine .required uid rfl ?_
  refine .required allowed rfl ?_
  refine .required status (StatusReport.decoder_encode bounded) ?_
  refine .optional patch (by simp) ?_ rfl ?_
  · intro bytes
    exact Decoder.list_ofJson_map fun byte _ => byte_ofNat byte
  refine .optional patchType (by simp) (fun _ => rfl) rfl ?_
  exact .nil response.report

theorem decoder_encode {response : Response} (bounded : response.status.code < Power.ofTwo 16) :
    shape.decoder.ofJson response.encode = .ok response.report := by
  apply Shape.Reads.decoder orderly (by decide)
  refine .required rfl rfl ?_
  refine .required rfl rfl ?_
  refine .required rfl (decoder_response bounded) ?_
  exact .nil response.report

end Report

/-- A written response is read as a report, as a value and from its text. -/
structure Response.ReadsAs (response : Response) (report : Report) : Prop where
  value : Report.shape.decoder.ofJson response.encode = .ok report
  text : Report.shape.decoder.ofText response.encode.print = .ok report

namespace Response

/-- What is written for a response can be read: its numbers are a code and bytes. -/
theorem legible_encode {response : Response} (bounded : response.status.code < Power.ofTwo 16) :
    response.encode.Legible Json.depthLimit := by
  have status := StatusReport.legible_encode bounded
  have patch : ∀ entry ∈ patchMembers response.patch, entry.2.Legible 125 := by
    cases response.patch with
    | none => simp [patchMembers]
    | some bytes =>
        have written : (Json.array (bytes.map fun byte => .ofNat byte.toNat)).Legible 125 := by
          refine .array (List.forall_mem_map.mpr fun byte _ => ?_)
          exact .ofNat (Nat.lt_trans byte.toNat_lt (by decide))
        simp [patchMembers, written, Json.Legible.string]
  have inner : (Json.record (Report.responseMembers response)).Legible 126 := by
    refine .record (List.forall_mem_append.mpr ⟨?_, patch⟩)
    simp [status, Json.Legible.string, Json.Legible.bool]
  refine .record ?_
  simp only [List.forall_mem_cons, List.not_mem_nil, false_implies, implies_true, and_true]
  exact ⟨.string _, .string _, inner⟩

theorem readsAs_report {response : Response} (bounded : response.status.code < Power.ofTwo 16) :
    response.ReadsAs response.report where
  value := Report.decoder_encode bounded
  text := by
    rw [Json.decoder_ofText_print _ (legible_encode bounded), Report.decoder_encode bounded,
      except_mapError_ok]

end Response

/-! ## What is reported -/

/-- A report conveys what came of a request: it is allowed unless there is a rejection,
whose code and message are told, and it has a patch exactly if there is one, whose text it
is. -/
structure Report.Conveys (report : Report) (uid : String)
    (result : Except Rejection (Option Patch)) : Prop where
  sameUid : report.uid = uid
  allowed_iff : report.allowed = true ↔ ∃ patch?, result = .ok patch?
  patch_iff : ∀ bytes, report.patch = some bytes ↔
    ∃ patch, result = .ok (some patch) ∧ patch.IsWritten bytes
  typed : report.patchType = report.patch.map fun _ => "JSONPatch"
  denied : ∀ rejection, result = .error rejection →
    report.status.code = rejection.code ∧ report.status.message = rejection.message

theorem Report.Conveys.patch_eq_none {report : Report} {uid : String}
    {result : Except Rejection (Option Patch)} (conveys : report.Conveys uid result)
    (unpatched : ∀ patch, result ≠ .ok (some patch)) : report.patch = none := by
  rw [Option.eq_none_iff_forall_ne_some]
  intro bytes given
  have ⟨patch, patched, _⟩ := (conveys.patch_iff bytes).mp given
  exact unpatched patch patched

/-- Who reads a written response is told what came of a request. -/
def Response.Tells (response : Response) (uid : String)
    (result : Except Rejection (Option Patch)) : Prop :=
  ∃ report, response.ReadsAs report ∧ report.Conveys uid result

theorem Rejection.code_lt (rejection : Rejection) : rejection.code < Power.ofTwo 16 := by
  unfold Rejection.code
  split <;> decide

namespace Response

variable (type : ObjectType) (request : Request)

theorem accept_tells : (accept type request).Tells request.uid (.ok none) := by
  refine ⟨_, readsAs_report (Nat.two_pow_pos 16), rfl, ?_, ?_, rfl, ?_⟩
  · exact iff_of_true rfl ⟨none, rfl⟩
  · intro bytes
    simp [report, accept]
  · intro rejection denied
    cases denied

theorem acceptPatched_tells (patch : Patch) :
    (acceptPatched type request patch).Tells request.uid (.ok (some patch)) := by
  refine ⟨_, readsAs_report (Nat.two_pow_pos 16), rfl, ?_, ?_, rfl, ?_⟩
  · exact iff_of_true rfl ⟨some patch, rfl⟩
  · intro bytes
    constructor
    · rintro ⟨⟩
      exact ⟨patch, rfl, patch.isWritten_encode⟩
    · rintro ⟨_, ⟨⟩, isWritten⟩
      exact congrArg some isWritten.text.symm
  · intro rejection denied
    cases denied

theorem deny_tells (rejection : Rejection) :
    (deny type request rejection).Tells request.uid (.error rejection) := by
  refine ⟨_, readsAs_report rejection.code_lt, rfl, ?_, ?_, rfl, ?_⟩
  · simp [report, deny]
  · intro bytes
    simp [report, deny, accept]
  · intro other denied
    cases denied
    exact ⟨rfl, rfl⟩

end Response

/-- A request is about objects of a kind in a group, of whatever version and spelled in
whatever case. -/
def Request.IsAbout (request : Request) (group kind : String) : Prop :=
  request.kind.group.toLower = group ∧ request.kind.kind.toLower = kind

namespace Service

variable {service : Service} {type : ObjectType} {request : Request} {bytes : List UInt8}

theorem sameLetters_iff {left right lower : String}
    (isLower : right.toList.map Char.toLower = lower.toList) :
    GroupVersionKind.sameLetters left right = true ↔ left.toLower = lower := by
  have letters : left.toLower.toList = left.toList.map Char.toLower := String.toList_map
  rw [GroupVersionKind.sameLetters, beq_iff_eq, isLower, ← String.toList_inj, letters]

theorem isFilterRequest_iff :
    isFilterRequest request = true ↔ request.IsAbout "networking.istio.io" "envoyfilter" := by
  rw [isFilterRequest, GroupVersionKind.isNamed, Bool.and_eq_true]
  exact and_congr (sameLetters_iff (by decide)) (sameLetters_iff (by decide))

theorem isExtensionRequest_iff :
    isExtensionRequest request = true ↔
      request.IsAbout "extensions.gardener.cloud" "extension" := by
  rw [isExtensionRequest, GroupVersionKind.isNamed, Bool.and_eq_true]
  exact and_congr (sameLetters_iff (by decide)) (sameLetters_iff (by decide))

theorem not_extension_of_filter
    (isFilter : request.IsAbout "networking.istio.io" "envoyfilter") :
    ¬ request.IsAbout "extensions.gardener.cloud" "extension" := by
  intro isExtension
  exact absurd (isFilter.1.symm.trans isExtension.1) (by decide)

theorem handleFilter_tells (service : Service) (type : ObjectType) (request : Request) :
    (service.handleFilter type request).answer.Tells request.uid
      (service.mutator.mutate request).result := by
  rw [handleFilter]
  cases (service.mutator.mutate request).result with
  | error rejection => exact Response.deny_tells type request rejection
  | ok patch? =>
      cases patch? with
      | none => exact Response.accept_tells type request
      | some patch => exact Response.acceptPatched_tells type request patch

theorem handleExtension_tells (service : Service) (type : ObjectType) (request : Request) :
    (service.handleExtension type request).answer.Tells request.uid
      ((service.validator.validate request).map fun _ => none) := by
  rw [handleExtension]
  cases service.validator.validate request with
  | error rejection => exact Response.deny_tells type request rejection
  | ok valid => exact Response.accept_tells type request

/-- What is told about the body of an HTTP request: what the mutator or the validator
comes to for a request about one of their kinds, and a refusal of everything else. -/
structure Answers (service : Service) (bytes : List UInt8) (report : Report) : Prop where
  refused : (∀ type submitted, Review.decoder.ofBytes bytes = .ok ⟨type, some submitted⟩ →
      ¬ submitted.IsAbout "networking.istio.io" "envoyfilter" ∧
        ¬ submitted.IsAbout "extensions.gardener.cloud" "extension") →
    report.allowed = false ∧ report.patch = none
  filter : ∀ type submitted, Review.decoder.ofBytes bytes = .ok ⟨type, some submitted⟩ →
    submitted.IsAbout "networking.istio.io" "envoyfilter" →
      report.Conveys submitted.uid (service.mutator.mutate submitted).result
  extension : ∀ type submitted, Review.decoder.ofBytes bytes = .ok ⟨type, some submitted⟩ →
    submitted.IsAbout "extensions.gardener.cloud" "extension" →
      report.patch = none ∧
        report.Conveys submitted.uid ((service.validator.validate submitted).map fun _ => none)

theorem Answers.of_unsupported {report : Report}
    (unsupported : ∀ type submitted,
      Review.decoder.ofBytes bytes = .ok ⟨type, some submitted⟩ →
        ¬ submitted.IsAbout "networking.istio.io" "envoyfilter" ∧
          ¬ submitted.IsAbout "extensions.gardener.cloud" "extension")
    (refused : report.allowed = false ∧ report.patch = none) : service.Answers bytes report where
  refused _ := refused
  filter type submitted read aboutFilter :=
    absurd aboutFilter (unsupported type submitted read).1
  extension type submitted read aboutExtension :=
    absurd aboutExtension (unsupported type submitted read).2

theorem Answers.of_filter {report : Report}
    (read : Review.decoder.ofBytes bytes = .ok ⟨type, some request⟩)
    (aboutFilter : request.IsAbout "networking.istio.io" "envoyfilter")
    (conveys : report.Conveys request.uid (service.mutator.mutate request).result) :
    service.Answers bytes report where
  refused unsupported := absurd aboutFilter (unsupported type request read).1
  filter _ submitted read' _ := by
    cases read.symm.trans read'
    exact conveys
  extension _ submitted read' aboutExtension := by
    cases read.symm.trans read'
    exact absurd aboutExtension (not_extension_of_filter aboutFilter)

theorem Answers.of_extension {report : Report}
    (read : Review.decoder.ofBytes bytes = .ok ⟨type, some request⟩)
    (aboutExtension : request.IsAbout "extensions.gardener.cloud" "extension")
    (conveys : report.Conveys request.uid
      ((service.validator.validate request).map fun _ => none)) :
    service.Answers bytes report where
  refused unsupported := absurd aboutExtension (unsupported type request read).2
  filter _ submitted read' aboutFilter := by
    cases read.symm.trans read'
    exact absurd aboutExtension (not_extension_of_filter aboutFilter)
  extension _ submitted read' _ := by
    cases read.symm.trans read'
    exact ⟨conveys.patch_eq_none (by simp [except_map_eq_ok_iff]), conveys⟩

/-- A response to what is unsupported is read as a refusal. -/
theorem unsupported_reads (explanation : String) :
    ∃ report, (Response.unsupported explanation).ReadsAs report ∧
      report.allowed = false ∧ report.patch = none :=
  ⟨_, Response.readsAs_report (Nat.two_pow_pos 16), rfl, rfl⟩

theorem handleRequest_answers
    (read : Review.decoder.ofBytes bytes = .ok ⟨type, some request⟩) :
    ∃ report, (service.handleRequest type request).answer.ReadsAs report ∧
      service.Answers bytes report := by
  rw [handleRequest]
  by_cases isFilter : isFilterRequest request = true
  · rw [if_pos isFilter]
    have ⟨report, isReport, conveys⟩ := service.handleFilter_tells type request
    exact ⟨report, isReport, .of_filter read (isFilterRequest_iff.mp isFilter) conveys⟩
  · rw [if_neg isFilter]
    by_cases isExtension : isExtensionRequest request = true
    · rw [if_pos isExtension]
      have ⟨report, isReport, conveys⟩ := service.handleExtension_tells type request
      exact ⟨report, isReport, .of_extension read (isExtensionRequest_iff.mp isExtension) conveys⟩
    · rw [if_neg isExtension]
      have ⟨report, isReport, refused⟩ :=
        unsupported_reads ("unsupported resource type: " ++ request.kind.print)
      refine ⟨report, isReport, .of_unsupported ?_ refused⟩
      intro _ submitted read'
      cases read.symm.trans read'
      exact ⟨mt isFilterRequest_iff.mpr isFilter, mt isExtensionRequest_iff.mpr isExtension⟩

/-- Every body is answered. -/
theorem handleBody_answers (service : Service) (bytes : List UInt8) :
    ∃ report, (service.handleBody bytes).answer.ReadsAs report ∧
      service.Answers bytes report := by
  rw [handleBody]
  cases read : Review.decoder.ofBytes bytes with
  | error error =>
      have ⟨report, isReport, refused⟩ := unsupported_reads error.message
      exact ⟨report, isReport, .of_unsupported (by simp [read]) refused⟩
  | ok review =>
      have ⟨type, request?⟩ := review
      cases request? with
      | none =>
          have ⟨report, isReport, refused⟩ :=
            unsupported_reads "failed to convert AdmissionReview into AdmissionRequest"
          exact ⟨report, isReport, .of_unsupported (by simp [read]) refused⟩
      | some request => exact handleRequest_answers read

/-- The service reports its verdicts faithfully.  It is found at one place only, where
every body that can be read is answered with a review, and what is read in this review, or
in its text, is what the mutator or the validator has come to. -/
theorem handle_reports (service : Service) (request : Http.Request) :
    (request.method ≠ "POST" ∨ request.target.path ≠ "/" →
      ∃ answer, (service.handle request).answer = .ok answer ∧
        answer.status = 404 ∧ answer.body? = none) ∧
    (request.method = "POST" → request.target.path = "/" →
      (request.body = none → (service.handle request).answer = .error .unreadableBody) ∧
      ∀ bytes, request.body = some bytes →
        ∃ answer body report, (service.handle request).answer = .ok answer ∧
          answer.status = 200 ∧ answer.body? = some body ∧
          Report.shape.decoder.ofJson body = .ok report ∧
          Report.shape.decoder.ofText body.print = .ok report ∧
          service.Answers bytes report) := by
  constructor
  · intro elsewhere
    have unrouted : (request.method != "POST" || request.target.path != "/") = true := by
      simpa using elsewhere
    refine ⟨.notFound, ?_, rfl, rfl⟩
    rw [handle, if_pos unrouted]
  · intro isPost isRoot
    have routed : ¬ (request.method != "POST" || request.target.path != "/") = true := by
      simp [isPost, isRoot]
    rw [handle, if_neg routed]
    constructor
    · intro unreadable
      rw [unreadable]
    · intro bytes readable
      have ⟨report, reads, answers⟩ := service.handleBody_answers bytes
      rw [readable]
      exact ⟨_, _, report, rfl, rfl, rfl, reads.value, reads.text, answers⟩

end Service

end Admission

end GatewayAcl
