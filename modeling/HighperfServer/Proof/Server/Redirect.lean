import HighperfServer.Construction.Server.Redirect
import HighperfServer.Proof.Http.Response

namespace HighperfServer
open Library

namespace Redirect

/-- A host is a name without separators or a bracketed literal. -/
inductive IsHost : Str → Prop where
  | name {host : Str} (filled : host ≠ []) (clean : ':' ∉ host ∧ '/' ∉ host ∧ '[' ∉ host) :
      IsHost host
  | literal {inner : Str} (clean : ']' ∉ inner ∧ '/' ∉ inner) : IsHost ('[' :: inner ++ [']'])

theorem IsHost.slash_not_mem {host : Str} (formed : IsHost host) : '/' ∉ host := by
  cases formed with
  | name filled clean => exact clean.2.1
  | literal clean => simpa using clean.2

/-- The host header is the host, with a port or without. -/
def hostHeader (host : Str) (port : Option Str) : Str := host ++ (port.map (':' :: ·)).getD []

/-- The authority leaves out the default port. -/
def authority (host : Str) (httpsPort : UInt16) : Str :=
  if httpsPort = 443 then host else host ++ ':' :: decimal httpsPort.toNat

/-- The port of a host header is dropped. -/
theorem bareHost_hostHeader {host : Str} {port : Option Str} (formed : IsHost host)
    (digits : ∀ text ∈ port, ∀ char ∈ text, char.isDigit = true) :
    bareHost (hostHeader host port) = host := by
  cases formed with
  | @literal inner clean =>
      have start : (hostHeader ('[' :: inner ++ [']']) port).head? = some '[' := rfl
      have closed : hostHeader ('[' :: inner ++ [']']) port =
          ('[' :: inner) ++ ']' :: (port.map (':' :: ·)).getD [] := by simp [hostHeader]
      have before : ']' ∉ '[' :: inner := by
        rw [List.mem_cons, not_or]
        exact ⟨by decide, clean.1⟩
      rw [bareHost, if_pos start, closed, if_pos (by simp), takeWhile_ne_append_cons before]
  | name filled clean =>
      obtain ⟨colonless, _, bracketless⟩ := clean
      have start : (hostHeader host port).head? ≠ some '[' := by
        rw [hostHeader, List.head?_append_of_ne_nil _ filled]
        exact fun bracket => bracketless (List.mem_of_mem_head? bracket)
      rw [bareHost, if_neg start]
      cases port with
      | none => simp [hostHeader, colonless]
      | some text =>
          have plain : ':' ∉ text := fun member => absurd (digits text rfl _ member) (by decide)
          have shape : hostHeader host (some text) = host ++ ':' :: text := rfl
          rw [shape, if_pos (by simp), rdropWhile_append_cons host plain, List.dropLast_concat]

/-- The location is the authority between the scheme and the target. -/
theorem location_eq (httpsPort : UInt16) (host target : Str) :
    location httpsPort host target = "https://".toList ++ authority host httpsPort ++ target := by
  unfold location authority
  split
  · rfl
  · simp only [List.append_assoc]

theorem isReadable_of_isDigit {char : Char} (digit : char.isDigit = true) : isReadable char = true := by
  rw [Char.isDigit_iff_toNat] at digit
  have low : '0'.toNat = 48 := rfl
  have high : '9'.toNat = 57 := rfl
  exact decide_eq_true (.inl (by omega))

/-- A port does not change whether a host header is readable. -/
theorem all_isReadable_hostHeader {host : Str} {port : Option Str}
    (digits : ∀ text ∈ port, ∀ char ∈ text, char.isDigit = true) :
    (hostHeader host port).all isReadable = host.all isReadable := by
  cases port with
  | none => simp [hostHeader]
  | some text =>
      have readable : (':' :: text).all isReadable = true :=
        List.all_eq_true.mpr (List.forall_mem_cons.mpr
          ⟨by decide, fun char member => isReadable_of_isDigit (digits text rfl char member)⟩)
      change (host ++ ':' :: text).all isReadable = _
      rw [List.all_append, readable, Bool.and_true]

/-- The host that the redirection names. -/
def namedHost (host : Str) : Str := if host.all isReadable then host else "localhost".toList

/-- The named host of a well-formed header is well formed. -/
theorem isHost_namedHost {host : Str} (formed : IsHost host) : IsHost (namedHost host) := by
  unfold namedHost
  split
  · exact formed
  · exact .name (by decide) (by decide)

/-- The named host is readable. -/
theorem namedHost_readable (host : Str) : (namedHost host).all isReadable = true := by
  unfold namedHost
  split
  · assumption
  · decide

/-- A readable host header is stripped of its port, and any other stands for the local host. -/
theorem bareHost_requestHost {headers : HeaderMap} {host : Str} {port : Option Str}
    (formed : IsHost host) (digits : ∀ text ∈ port, ∀ char ∈ text, char.isDigit = true)
    (sent : headers.get "host".toList = some (Utf8.encode (hostHeader host port))) :
    bareHost (requestHost headers) = namedHost host := by
  rw [requestHost, sent, Option.bind_some, headerToStr_encode, all_isReadable_hostHeader digits,
    namedHost]
  split
  · exact bareHost_hostHeader formed digits
  · decide

/-- A text splits at its first slash in one way. -/
theorem split_unique {host target : Str} (clean : '/' ∉ host) (rooted : target.head? = some '/')
    (before after : Str) :
    (host ++ target = before ++ after ∧ '/' ∉ before ∧ after.head? = some '/') ↔
      before = host ∧ after = target := by
  obtain ⟨tail, rfl⟩ := List.head?_eq_some_iff.mp rooted
  constructor
  · rintro ⟨same, cleanBefore, rootedAfter⟩
    obtain ⟨rest, rfl⟩ := List.head?_eq_some_iff.mp rootedAfter
    have parts := congrArg (splitOnce '/') same
    rw [splitOnce_append_cons clean, splitOnce_append_cons cleanBefore] at parts
    obtain ⟨rfl, rfl⟩ := Prod.mk.inj (Option.some.inj parts)
    exact ⟨rfl, rfl⟩
  · rintro ⟨rfl, rfl⟩
    exact ⟨rfl, clean, rooted⟩

/-- The authority of a host without a slash has none. -/
theorem slash_not_mem_authority {host : Str} (clean : '/' ∉ host) (httpsPort : UInt16) :
    '/' ∉ authority host httpsPort := by
  have digits : '/' ∉ decimal httpsPort.toNat := fun member =>
    absurd (Nat.isDigit_of_mem_toDigits (by decide) (by decide) member) (by decide)
  unfold authority
  split
  · exact clean
  · simp [clean, digits]

/-- A location of readable parts is a header value. -/
theorem validHeaderValue_location {host : Str} (readable : host.all isReadable = true)
    (httpsPort : UInt16) (target : PathAndQuery) :
    validHeaderValue (location httpsPort host target.text) = true := by
  have hostValid : validHeaderValue host = true := by
    apply List.all_eq_true.mpr
    intro char member
    apply decide_eq_true
    rcases of_decide_eq_true (List.all_eq_true.mp readable char member) with visible | tab
    · exact .inl ⟨visible.1, by omega⟩
    · exact .inr tab
  have targetValid : validHeaderValue target.text = true := by
    apply List.all_eq_true.mpr
    intro char member
    obtain ⟨low, notDelete⟩ := target.visible char member
    exact decide_eq_true (.inl ⟨by omega, notDelete⟩)
  have portValid := validHeaderValue_decimal httpsPort.toNat
  have append (first second : Str) :
      validHeaderValue (first ++ second) = (validHeaderValue first && validHeaderValue second) :=
    List.all_append
  have colon (rest : Str) : validHeaderValue (':' :: rest) = validHeaderValue rest := append [':'] rest
  have scheme : validHeaderValue "https://".toList = true := by decide
  unfold location
  split
  · rw [append, append, scheme, hostValid, targetValid]
    rfl
  · rw [append, append, append, scheme, hostValid, colon, portValid, targetValid]
    rfl

/-- The redirection keeps the path and query, names the HTTPS port unless it is the default one, and
keeps the host if it is readable. -/
theorem redirect_splits (host : Str) (port : Option Str) (httpsPort : UInt16) (headers : HeaderMap)
    (target : PathAndQuery) (formed : IsHost host)
    (digits : ∀ text ∈ port, ∀ char ∈ text, char.isDigit = true)
    (sent : headers.get "host".toList = some (Utf8.encode (hostHeader host port)))
    (rooted : target.text.head? = some '/') :
    ∃ location,
      response httpsPort headers (some target) =
        some ⟨.other 308, [("location".toList, Utf8.encode location),
          ("content-length".toList, Utf8.encode ['0'])], []⟩ ∧
      ∀ before after,
        (location = "https://".toList ++ before ++ after ∧ '/' ∉ before ∧ after.head? = some '/') ↔
          before = authority (namedHost host) httpsPort ∧ after = target.text := by
  have named := bareHost_requestHost formed digits sent
  have valid := validHeaderValue_location (namedHost_readable host) httpsPort target
  refine ⟨location httpsPort (namedHost host) target.text, ?_, ?_⟩
  · rw [response, named]
    exact if_pos valid
  · intro before after
    have clean := slash_not_mem_authority (isHost_namedHost formed).slash_not_mem httpsPort
    rw [← split_unique clean rooted, location_eq, List.append_assoc, List.append_assoc,
      List.append_cancel_left_eq]

theorem visible_of_all {text : Str}
    (checked : text.all (fun char => 0x21 ≤ char.toNat ∧ char.toNat ≠ 0x7F) = true) :
    ∀ char ∈ text, 0x21 ≤ char.toNat ∧ char.toNat ≠ 0x7F :=
  fun char member => of_decide_eq_true (List.all_eq_true.mp checked char member)

/-- An IPv6 literal loses its port and gets the HTTPS port. -/
theorem redirect_splits_literal :
    let headers : HeaderMap := [("host".toList, Utf8.encode "[::1]:8080".toList)]
    let target : PathAndQuery := ⟨"/a?b=c".toList, visible_of_all (by decide)⟩
    ∃ location,
      response 8443 headers (some target) =
        some ⟨.other 308, [("location".toList, Utf8.encode location),
          ("content-length".toList, Utf8.encode ['0'])], []⟩ ∧
      location = "https://[::1]:8443/a?b=c".toList := by
  intro headers target
  have literal : IsHost ('[' :: "::1".toList ++ [']']) := .literal (by decide)
  have digits : "8080".toList.all Char.isDigit = true := by decide
  have numeric : ∀ text ∈ some "8080".toList, ∀ char ∈ text, char.isDigit = true := by
    intro text sent
    cases sent
    exact List.all_eq_true.mp digits
  obtain ⟨location, redirected, splits⟩ := redirect_splits _ (some "8080".toList) 8443 headers target
    literal numeric (by decide) rfl
  refine ⟨location, redirected, ?_⟩
  have parts := (splits "[::1]:8443".toList "/a?b=c".toList).mpr ⟨by decide, rfl⟩
  rw [parts.1]
  decide

/-- A host name outside ASCII is replaced by the local host. -/
theorem redirect_renames_host :
    let headers : HeaderMap := [("host".toList, Utf8.encode "ä.example".toList)]
    IsHost "ä.example".toList ∧
    response 443 headers (some ⟨"/a".toList, visible_of_all (by decide)⟩) =
      some ⟨.other 308, [("location".toList, Utf8.encode "https://localhost/a".toList),
        ("content-length".toList, Utf8.encode ['0'])], []⟩ ∧
    Utf8.encode "https://localhost/a".toList ≠
      Utf8.encode ("https://".toList ++ authority "ä.example".toList 443 ++ "/a".toList) := by
  refine ⟨.name (by decide) (by decide), by decide, ?_⟩
  rw [Utf8.encode_injective.ne_iff]
  decide

end Redirect

end HighperfServer
