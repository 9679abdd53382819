import HighperfServer.Construction.Proxy
import HighperfServer.Proof.Http.Response

namespace HighperfServer.Proxy
open Library

/-- The request that the proxy hands to its client. -/
def upstreamRequest (request : HttpRequest) (upstreamBase : Str) (stripPrefix : Option Str) :
    UpstreamRequest :=
  ⟨request.method, targetUrl request upstreamBase stripPrefix, forwardHeaders request.headers,
    request.body⟩

/-- The fields that the proxy adds to a relayed response. -/
def stamps (body : Bytes) : HeaderMap :=
  [("content-length".toList, Utf8.encode (decimal body.length)),
    ("server".toList, Utf8.encode serverHeader)]

/-- The response has the upstream's status and body, one length, one server name and the upstream's
other headers. -/
structure WellFramed (upstream : UpstreamResponse) (body : Bytes) (response : HttpResponse) : Prop where
  status_eq : response.status = upstream.status
  body_eq : response.body = body
  length_once : response.headers.getAll "content-length".toList =
    [Utf8.encode (decimal body.length)]
  server_once : response.headers.getAll "server".toList = [Utf8.encode serverHeader]
  others_kept : ∀ name, name ≠ "content-length".toList → name ≠ "server".toList →
    response.headers.getAll name =
      if hopByHop.contains name then [] else upstream.headers.getAll name

/-- An answer whose body arrives is relayed. -/
theorem proxyRequest_of_answer {client : Client} {request : HttpRequest} {upstreamBase : Str}
    {stripPrefix : Option Str} {upstream : UpstreamResponse} {body : Bytes}
    (answered : client (upstreamRequest request upstreamBase stripPrefix) = some upstream)
    (received : upstream.body = some body) :
    proxyRequest client request upstreamBase stripPrefix = relay upstream body := by
  rw [upstreamRequest] at answered
  simp only [proxyRequest, answered, received]

/-- The upstream's values of a name that may cross come before the stamps. -/
theorem relay_getAll (upstream : UpstreamResponse) (body : Bytes) (name : Str) :
    (relay upstream body).headers.getAll name =
      (if hopByHop.contains name then [] else upstream.headers.getAll name) ++
        (stamps body).getAll name := by
  rw [relay, HeaderMap.getAll_append, HeaderMap.getAll_filter upstream.headers fun name =>
    !hopByHop.contains name]
  cases hopByHop.contains name <;> rfl

/-- The stamps have no other name. -/
theorem stamps_getAll_of_ne (body : Bytes) {name : Str} (notLength : name ≠ "content-length".toList)
    (notServer : name ≠ "server".toList) : (stamps body).getAll name = [] := by
  apply (HeaderMap.getAll_eq_nil_iff _ _).mpr
  intro field member
  rcases List.mem_pair.mp member with rfl | rfl
  · exact notLength.symm
  · exact notServer.symm

/-- A relayed response is well framed exactly when the upstream sends no length and no server. -/
theorem relayed_wellFramed_iff (client : Client) (request : HttpRequest) (upstreamBase : Str)
    (stripPrefix : Option Str) (upstream : UpstreamResponse) (body : Bytes)
    (answered : client (upstreamRequest request upstreamBase stripPrefix) = some upstream)
    (received : upstream.body = some body) :
    WellFramed upstream body (proxyRequest client request upstreamBase stripPrefix) ↔
      ∀ field ∈ upstream.headers,
        field.1 ≠ "content-length".toList ∧ field.1 ≠ "server".toList := by
  rw [proxyRequest_of_answer answered received, forall₂_and, ← HeaderMap.getAll_eq_nil_iff,
    ← HeaderMap.getAll_eq_nil_iff]
  have lengths : (relay upstream body).headers.getAll "content-length".toList =
      upstream.headers.getAll "content-length".toList ++ [Utf8.encode (decimal body.length)] :=
    relay_getAll upstream body _
  have servers : (relay upstream body).headers.getAll "server".toList =
      upstream.headers.getAll "server".toList ++ [Utf8.encode serverHeader] :=
    relay_getAll upstream body _
  constructor
  · intro framed
    have length := framed.length_once
    have server := framed.server_once
    rw [lengths, List.append_left_eq_self] at length
    rw [servers, List.append_left_eq_self] at server
    exact ⟨length, server⟩
  · rintro ⟨noLength, noServer⟩
    refine ⟨rfl, rfl, ?_, ?_, ?_⟩
    · rw [lengths, noLength, List.nil_append]
    · rw [servers, noServer, List.nil_append]
    · intro name notLength notServer
      rw [relay_getAll, stamps_getAll_of_ne body notLength notServer, List.append_nil]

/-- A client that always answers the same. -/
def answering (headers : HeaderMap) (body : Bytes) : Client := fun _ => some ⟨.ok, headers, some body⟩

/-- A request for the front page. -/
def frontPage (method : Method) : HttpRequest :=
  .fromParts method (.withoutQuery (.rooted "/".toList (.refl true))) [] []

/-- An upstream that leaves its length and its name to the proxy is relayed well. -/
theorem relayed_wellFramed_iff_bare :
    WellFramed ⟨.ok, [("etag".toList, [0x31])], some [0x61]⟩ [0x61]
      (proxyRequest (answering [("etag".toList, [0x31])] [0x61]) (frontPage .get)
        "http://backend:3000".toList none) :=
  (relayed_wellFramed_iff _ _ _ _ _ _ rfl rfl).mpr (by decide)

/-- A HEAD answer that declares four bytes is relayed with two lengths, and its server with two
names. -/
theorem relay_doubles_length :
    let response := proxyRequest (answering [("content-length".toList, Utf8.encode "4".toList),
      ("server".toList, Utf8.encode "backend".toList)] []) (frontPage .head)
      "http://backend:3000".toList none
    response.headers.getAll "content-length".toList =
        [Utf8.encode "4".toList, Utf8.encode "0".toList] ∧
      response.headers.getAll "server".toList =
        [Utf8.encode "backend".toList, Utf8.encode serverHeader] ∧
      ∀ upstream, ¬ WellFramed upstream [] response := by
  intro response
  have lengths : response.headers.getAll "content-length".toList =
      [Utf8.encode "4".toList, Utf8.encode "0".toList] := by decide +kernel
  refine ⟨lengths, by decide +kernel, fun upstream framed => ?_⟩
  have once := congrArg List.length (lengths.symm.trans framed.length_once)
  exact absurd once (by decide)

/-- The optional white space around a list element. -/
def isOws (byte : UInt8) : Bool := byte = 0x20 ∨ byte = 0x09

/-- Header names are compared without regard to case. -/
def asciiLower (byte : UInt8) : UInt8 := if 0x41 ≤ byte ∧ byte ≤ 0x5A then byte + 0x20 else byte

/-- The options of all `Connection` fields: comma-separated, trimmed and in small letters. -/
def connectionOptions (headers : HeaderMap) : List Bytes :=
  (headers.getAll "connection".toList).flatMap fun value =>
    (value.splitOn 0x2C).map fun option =>
      ((option.dropWhile isOws).rdropWhile isOws).map asciiLower

/-- A `Connection` field of the message names the header. -/
def Nominated (headers : HeaderMap) (name : Str) : Prop := Utf8.encode name ∈ connectionOptions headers

instance (headers : HeaderMap) (name : Str) : Decidable (Nominated headers name) :=
  inferInstanceAs (Decidable (_ ∈ _))

/-- Every header crosses the proxy except the listed and the nominated ones. -/
def Crosses (listed : List Str) (headers crossed : HeaderMap) : Prop :=
  ∀ field, field ∈ crossed ↔ field ∈ headers ∧ field.1 ∉ listed ∧ ¬ Nominated headers field.1

/-- A filter by dropped names is exact when every field to stay behind has such a name. -/
theorem crosses_filter_iff {dropped listed : List Str} (within : dropped ⊆ listed)
    (headers : HeaderMap) :
    Crosses listed headers (headers.filter fun field => !dropped.contains field.1) ↔
      ∀ field ∈ headers, field.1 ∈ listed ∨ Nominated headers field.1 → field.1 ∈ dropped := by
  simp only [Crosses, List.mem_filter, Bool.not_eq_true', List.contains_eq_mem, decide_eq_false_iff_not,
    and_congr_right_iff]
  refine forall₂_congr fun field _ => ⟨fun exact => ?_, fun covered => ?_⟩
  · intro stays
    by_contra crossing
    have kept := exact.mp crossing
    exact stays.elim kept.1 kept.2
  · constructor
    · intro crossing
      rw [← not_or]
      exact fun stays => crossing (covered stays)
    · exact fun kept member => kept.1 (within member)

/-- A filter by the listed names themselves only misses nominated ones. -/
theorem crosses_filter_self_iff (listed : List Str) (headers : HeaderMap) :
    Crosses listed headers (headers.filter fun field => !listed.contains field.1) ↔
      ∀ field ∈ headers, Nominated headers field.1 → field.1 ∈ listed := by
  rw [crosses_filter_iff (List.Subset.refl listed)]
  refine forall₂_congr fun field _ => ⟨fun covered nominated => covered (.inr nominated), ?_⟩
  exact fun covered stays => stays.elim id covered

/-- The request filter drops the host and the hop-by-hop names. -/
theorem forwardHeaders_eq_filter (headers : HeaderMap) :
    forwardHeaders headers =
      headers.filter fun field => !("host".toList :: hopByHop).contains field.1 := by
  apply List.filter_congr
  intro field _
  rw [List.contains_cons, beq_eq_decide]

/-- The relayed headers are those before the stamps. -/
theorem exists_relayed_iff (upstream : UpstreamResponse) (body : Bytes) (crossed : HeaderMap → Prop) :
    (∃ relayed, (relay upstream body).headers = relayed ++ stamps body ∧ crossed relayed) ↔
      crossed (upstream.headers.filter fun field => !hopByHop.contains field.1) := by
  constructor
  · rintro ⟨relayed, split, holds⟩
    have same := List.append_cancel_right split
    rw [same]
    exact holds
  · intro holds
    exact ⟨_, rfl, holds⟩

/-- No connection-specific header crosses the proxy in either direction. -/
def NoneCrosses (responseListed : List Str) (headers : HeaderMap) (upstream : UpstreamResponse)
    (body : Bytes) : Prop :=
  Crosses ("host".toList :: hopByHop) headers (forwardHeaders headers) ∧
    ∃ relayed, (relay upstream body).headers = relayed ++ stamps body ∧
      Crosses responseListed upstream.headers relayed

/-- The fixed list of names is enough exactly when no other field is nominated. If the host is to be
withheld from the client as well, the response must not carry one either. -/
theorem noneCrosses_iff_unnominated (headers : HeaderMap) (upstream : UpstreamResponse)
    (body : Bytes) :
    (NoneCrosses hopByHop headers upstream body ↔
      (∀ field ∈ headers, Nominated headers field.1 → field.1 ∈ "host".toList :: hopByHop) ∧
        ∀ field ∈ upstream.headers, Nominated upstream.headers field.1 → field.1 ∈ hopByHop) ∧
    (NoneCrosses ("host".toList :: hopByHop) headers upstream body ↔
      (∀ field ∈ headers, Nominated headers field.1 → field.1 ∈ "host".toList :: hopByHop) ∧
        ∀ field ∈ upstream.headers,
          field.1 ∈ "host".toList :: hopByHop ∨ Nominated upstream.headers field.1 →
            field.1 ∈ hopByHop) := by
  unfold NoneCrosses
  rw [forwardHeaders_eq_filter, crosses_filter_self_iff, exists_relayed_iff, exists_relayed_iff,
    crosses_filter_self_iff, crosses_filter_iff (List.subset_cons_self _ _)]
  exact ⟨Iff.rfl, Iff.rfl⟩

/-- A header that the client nominates reaches the upstream. -/
theorem nominated_header_forwarded :
    let headers := [("connection".toList, Utf8.encode "close, X-Session-Token".toList),
      ("x-session-token".toList, Utf8.encode "s3cret".toList)]
    Nominated headers "x-session-token".toList ∧
      forwardHeaders headers = [("x-session-token".toList, Utf8.encode "s3cret".toList)] ∧
      ∀ listed upstream body, ¬ NoneCrosses listed headers upstream body := by
  intro headers
  have nominated : Nominated headers "x-session-token".toList := by decide +kernel
  have forwarded : forwardHeaders headers =
      [("x-session-token".toList, Utf8.encode "s3cret".toList)] := by decide +kernel
  refine ⟨nominated, forwarded, fun listed upstream body crosses => ?_⟩
  have sent : ("x-session-token".toList, Utf8.encode "s3cret".toList) ∈ forwardHeaders headers := by
    rw [forwarded]
    exact List.mem_cons_self
  exact ((crosses.1 _).mp sent).2.2 nominated

end HighperfServer.Proxy
