import GatewayAcl.Lookup.ApiServer
import GatewayAcl.Proofs.Results
import Mathlib.Data.List.TakeWhile

/-!
# What is made of the server's replies

What the API server is asked for, when a lookup against it yields an object, when it
yields that there is none, and that it is a failure in all other cases.  Only an error
which the server itself has reported, with the reason for this, says that there is no
extension.  Nothing ever says so of a cluster or an infrastructure.
-/

namespace GatewayAcl

open Kube

/-! ## Questions -/

/-- A text is read as a path if each of its characters can stand in one. -/
theorem Http.Target.ofResource?_of_isPathChar {text : List Char}
    (plain : ∀ char ∈ text, isPathChar char = true) :
    ofResource? text = some ⟨String.ofList text, none⟩ := by
  have unlike (other : Char) (excluded : isPathChar other = false) :
      ∀ char ∈ text, (char != other) = true := by
    intro char member
    rw [bne_iff_ne]
    rintro rfl
    cases excluded.symm.trans (plain char member)
  have noFragment := List.takeWhile_eq_self_iff.mpr (unlike '#' (by decide))
  have noQuery := List.takeWhile_eq_self_iff.mpr (unlike '?' (by decide))
  have nothing := List.dropWhile_eq_nil_iff.mpr (unlike '?' (by decide))
  have isPath : text.all isPathChar = true := List.all_eq_true.mpr plain
  simp only [ofResource?, noFragment, noQuery, nothing, isPath]
  rfl

namespace Query

/-- An object that has a name stands at a path of the API server. -/
inductive IsAt : Query → (path : String) → Prop where
  | extension {namespaceName name : String} : name ≠ "" →
      IsAt (.extension namespaceName name)
        ("/apis/extensions.gardener.cloud/v1alpha1/namespaces/" ++ namespaceName ++
          "/extensions/" ++ name)
  | cluster {name : String} : name ≠ "" →
      IsAt (.cluster name) ("/apis/extensions.gardener.cloud/v1alpha1/clusters/" ++ name)
  | infrastructure {namespaceName name : String} : name ≠ "" →
      IsAt (.infrastructure namespaceName name)
        ("/apis/extensions.gardener.cloud/v1alpha1/namespaces/" ++ namespaceName ++
          "/infrastructures/" ++ name)

variable {query : Query} {path : String}

theorem IsAt.name_ne_empty (isAt : query.IsAt path) : query.name ≠ "" := by
  cases isAt <;> assumption

theorem IsAt.path_eq (isAt : query.IsAt path) : query.path = path := by
  have namespaces : apiPath ++ "/namespaces/" =
      "/apis/extensions.gardener.cloud/v1alpha1/namespaces/" := by decide
  have clusters : apiPath ++ "/clusters/" =
      "/apis/extensions.gardener.cloud/v1alpha1/clusters/" := by decide
  cases isAt with
  | extension _ => rw [Query.path, namespaces]
  | cluster _ => rw [Query.path, clusters]
  | infrastructure _ => rw [Query.path, namespaces]

/-- The target of an object is its path, unless this is no path or too long. -/
theorem IsAt.target_eq (isAt : query.IsAt path)
    (plain : ∀ char ∈ path.toList, Http.isPathChar char = true)
    (short : path.utf8ByteSize ≤ 65534) : query.target = .ok ⟨path, none⟩ := by
  have inLimit : ¬ Http.targetLimit < path.utf8ByteSize := Nat.not_lt.mpr short
  rw [target, isAt.path_eq, if_neg isAt.name_ne_empty, if_neg inLimit,
    Http.Target.ofResource?_of_isPathChar plain, String.ofList_toList]

end Query

/-! ## Replies -/

variable {α : Type}

namespace Reply

/-- A reply holds a value: it reports no error, and its body is the value. -/
def Holds (decoder : Decoder α) (reply : Reply) (value : α) : Prop :=
  ∃ code body, reply = .answered code body ∧ ¬ (400 ≤ code ∧ code < 600) ∧
    decoder.ofText body = .ok value

/-- A reply says that there is no such object: it reports an error, and its body is one
with the reason for that. -/
def SaysNotFound (reply : Reply) : Prop :=
  ∃ code body error, reply = .answered code body ∧ (400 ≤ code ∧ code < 600) ∧
    ServerError.shape.decoder.ofText body = .ok error ∧ error.reason = "NotFound"

theorem isErrorCode_iff (code : Nat) : isErrorCode code = true ↔ 400 ≤ code ∧ code < 600 := by
  simp [isErrorCode]

/-- What stands for a body that is no error is not taken for the absence of an object. -/
theorem isNotFound_ofAnswer_iff (code : Nat) (body : String) :
    (ServerError.ofAnswer code body).isNotFound = true ↔
      ∃ error, ServerError.shape.decoder.ofText body = .ok error ∧ error.reason = "NotFound" := by
  rw [ServerError.ofAnswer]
  cases ServerError.shape.decoder.ofText body with
  | ok error => simp [ServerError.isNotFound]
  | error error => simp [ServerError.isNotFound]

theorem read_eq_ok_iff {decoder : Decoder α} {reply : Reply} {value : α} :
    reply.read decoder = .ok value ↔ reply.Holds decoder value := by
  cases reply with
  | failed reason => simp [read, Holds]
  | garbled code fault => simp [read, Holds]
  | answered code body =>
      rw [read]
      by_cases isError : isErrorCode code = true
      · have inRange := (isErrorCode_iff code).mp isError
        rw [if_pos isError]
        constructor
        · intro found
          cases found
        · intro ⟨_, _, same, outside, _⟩
          cases same
          exact absurd inRange outside
      · have outside := mt (isErrorCode_iff code).mpr isError
        rw [if_neg isError, except_mapError_eq_ok_iff]
        constructor
        · intro decoded
          exact ⟨code, body, rfl, outside, decoded⟩
        · intro ⟨_, _, same, _, decoded⟩
          cases same
          exact decoded

theorem read_eq_notFound_iff (decoder : Decoder α) {reply : Reply} :
    (∃ error, reply.read decoder = .error (.server error) ∧ error.isNotFound = true) ↔
      reply.SaysNotFound := by
  cases reply with
  | failed reason => simp [read, SaysNotFound]
  | garbled code fault => simp [read, SaysNotFound]
  | answered code body =>
      rw [read]
      by_cases isError : isErrorCode code = true
      · rw [if_pos isError]
        constructor
        · intro ⟨error, same, notFound⟩
          cases same
          have ⟨error, decoded, reason⟩ := (isNotFound_ofAnswer_iff code body).mp notFound
          exact ⟨code, body, error, rfl, (isErrorCode_iff code).mp isError, decoded, reason⟩
        · intro ⟨_, _, error, same, _, decoded, reason⟩
          cases same
          exact ⟨_, rfl, (isNotFound_ofAnswer_iff code body).mpr ⟨error, decoded, reason⟩⟩
      · rw [if_neg isError]
        constructor
        · intro ⟨error, refused, _⟩
          have ⟨_, _, other⟩ := except_mapError_eq_error_iff.mp refused
          cases other
        · intro ⟨_, _, _, same, inRange, _⟩
          cases same
          exact absurd ((isErrorCode_iff code).mpr inRange) isError

end Reply

namespace ApiServer

variable {server : ApiServer} {decoder : Decoder α} {query : Query} {value : α}

/-- The server gives a reply to the request for an object.  There is none to a request
that cannot be made. -/
def Replies (server : ApiServer) (query : Query) (reply : Reply) : Prop :=
  ∃ target, query.target = .ok target ∧ server.reply target = reply

theorem replies_iff {path : String} (isAt : query.IsAt path)
    (plain : ∀ char ∈ path.toList, Http.isPathChar char = true)
    (short : path.utf8ByteSize ≤ 65534) (reply : Reply) :
    server.Replies query reply ↔ server.reply ⟨path, none⟩ = reply := by
  simp [Replies, isAt.target_eq plain short]

theorem request_eq_ok_iff :
    server.request decoder query = .ok value ↔
      ∃ reply, server.Replies query reply ∧ reply.Holds decoder value := by
  simp only [request, except_bind_eq_ok_iff, except_mapError_eq_ok_iff, Reply.read_eq_ok_iff]
  constructor
  · intro ⟨target, made, holds⟩
    exact ⟨_, ⟨target, made, rfl⟩, holds⟩
  · intro ⟨reply, ⟨target, made, replied⟩, holds⟩
    exact ⟨target, made, replied ▸ holds⟩

theorem request_eq_notFound_iff (decoder : Decoder α) :
    (∃ error, server.request decoder query = .error (.server error) ∧
        error.isNotFound = true) ↔
      ∃ reply, server.Replies query reply ∧ reply.SaysNotFound := by
  rw [request]
  cases made : query.target with
  | error error => simp [Replies, made]
  | ok target => simp [Replies, made, ← Reply.read_eq_notFound_iff decoder]

theorem report_failed_iff :
    (∃ failure, report query (server.request decoder query) = .error failure) ↔
      ∀ reply, server.Replies query reply → ∀ value, ¬ reply.Holds decoder value := by
  simp only [except_failed_iff, report, ne_eq, except_mapError_eq_ok_iff, request_eq_ok_iff,
    not_exists, not_and]
  constructor
  · intro unknown reply replied value
    exact unknown value reply replied
  · intro unreadable value reply replied
    exact unreadable reply replied value

/-- A lookup of an extension ends without failure exactly if a reply holds it or says
that it was not found. -/
theorem extension_eq_ok_iff {namespaceName name : String} {found? : Option Extension} :
    server.extension namespaceName name = .ok found? ↔
      (∃ extension, found? = some extension ∧
        ∃ reply, server.Replies (.extension namespaceName name) reply ∧
          reply.Holds Extension.shape.decoder extension) ∨
      (found? = none ∧
        ∃ reply, server.Replies (.extension namespaceName name) reply ∧
          reply.SaysNotFound) := by
  simp only [← request_eq_ok_iff, ← request_eq_notFound_iff Extension.shape.decoder]
  rw [ApiServer.extension]
  cases server.request Extension.shape.decoder (.extension namespaceName name) with
  | ok found => cases found? <;> simp
  | error error =>
      cases error with
      | server error =>
          by_cases notFound : error.isNotFound = true
          · cases found? <;> simp [notFound]
          · simp [notFound, report]
      | _ => simp [report]

theorem extension_eq_some_iff {namespaceName name : String} {extension : Extension} :
    server.extension namespaceName name = .ok (some extension) ↔
      ∃ reply, server.Replies (.extension namespaceName name) reply ∧
        reply.Holds Extension.shape.decoder extension := by
  rw [extension_eq_ok_iff]
  simp only [Option.some.injEq, exists_eq_left', reduceCtorEq, false_and, or_false]

theorem extension_eq_none_iff {namespaceName name : String} :
    server.extension namespaceName name = .ok none ↔
      ∃ reply, server.Replies (.extension namespaceName name) reply ∧ reply.SaysNotFound := by
  rw [extension_eq_ok_iff]
  simp only [reduceCtorEq, false_and, exists_false, true_and, false_or]

theorem extension_failed_iff {namespaceName name : String} :
    (∃ failure, server.extension namespaceName name = .error failure) ↔
      ∀ reply, server.Replies (.extension namespaceName name) reply →
        ¬ reply.SaysNotFound ∧ ∀ extension, ¬ reply.Holds Extension.shape.decoder extension := by
  rw [except_failed_iff]
  constructor
  · intro unknown reply replied
    constructor
    · intro notFound
      exact unknown none (extension_eq_none_iff.mpr ⟨reply, replied, notFound⟩)
    · intro extension holds
      exact unknown (some extension) (extension_eq_some_iff.mpr ⟨reply, replied, holds⟩)
  · intro unreadable found? found
    cases found? with
    | none =>
        have ⟨reply, replied, notFound⟩ := extension_eq_none_iff.mp found
        exact (unreadable reply replied).1 notFound
    | some extension =>
        have ⟨reply, replied, holds⟩ := extension_eq_some_iff.mp found
        exact (unreadable reply replied).2 extension holds

theorem cluster_failed_iff {name : String} :
    (∃ failure, server.cluster name = .error failure) ↔
      ∀ reply, server.Replies (.cluster name) reply →
        ∀ cluster, ¬ reply.Holds Cluster.shape.decoder cluster := by
  rw [ApiServer.cluster, report_failed_iff]

/-- Everything but an infrastructure is a failure, whatever reason is given for it. -/
theorem infrastructure_failed_iff {namespaceName name : String} :
    (∃ failure, server.infrastructure namespaceName name = .error failure) ↔
      ∀ reply, server.Replies (.infrastructure namespaceName name) reply →
        ∀ infrastructure, ¬ reply.Holds Infrastructure.shape.decoder infrastructure := by
  rw [ApiServer.infrastructure, report_failed_iff]

end ApiServer

end GatewayAcl
