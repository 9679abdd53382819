import HighperfServer.Construction.Config
import HighperfServer.Library.Text
import HighperfServer.Library.Utf8

namespace HighperfServer
open Library

abbrev Bytes := List UInt8

inductive Method where
  | get
  | post
  | put
  | delete
  | head
  | options
  | connect
  | patch
  | trace
  | extension (token : Str)
  deriving DecidableEq, Repr

def Method.asStr : Method → Str
  | .get => "GET".toList
  | .post => "POST".toList
  | .put => "PUT".toList
  | .delete => "DELETE".toList
  | .head => "HEAD".toList
  | .options => "OPTIONS".toList
  | .connect => "CONNECT".toList
  | .patch => "PATCH".toList
  | .trace => "TRACE".toList
  | .extension token => token

/-- The path of a request URI is empty in authority form, a star in asterisk form, and starts with
a slash otherwise; it ends before a query or fragment. -/
structure UriPath where
  text : Str
  formed : text = [] ∨ text = ['*'] ∨ text.head? = some '/'
  ends : '?' ∉ text ∧ '#' ∉ text

def UriPath.rooted (text : Str)
    (checked : decide (text.head? = some '/' ∧ '?' ∉ text ∧ '#' ∉ text) = true) : UriPath :=
  ⟨text, .inr (.inr (of_decide_eq_true checked).1), (of_decide_eq_true checked).2⟩

instance : DecidableEq UriPath := fun first second =>
  decidable_of_iff (first.text = second.text) ⟨fun same => by
    cases first
    cases second
    cases same
    rfl, congrArg UriPath.text⟩

structure Uri where
  path : UriPath
  query : Option Str
  ends : ∀ text ∈ query, '#' ∉ text

def Uri.withoutQuery (path : UriPath) : Uri := ⟨path, none, by simp⟩

/-- Header names are in lower case, and the fields keep their order. -/
abbrev HeaderMap := List (Str × Bytes)

def HeaderMap.get (headers : HeaderMap) (name : Str) : Option Bytes :=
  (headers.find? fun field => field.1 = name).map Prod.snd

def headerToStr (value : Bytes) : Option Str :=
  if value.all (fun byte => (32 ≤ byte ∧ byte < 127) ∨ byte = 9) then
    some (value.map fun byte => Char.ofNat byte.toNat)
  else none

def hexDigit (byte : UInt8) : Option UInt8 :=
  if 0x30 ≤ byte ∧ byte ≤ 0x39 then some (byte - 0x30)
  else if 0x41 ≤ byte ∧ byte ≤ 0x46 then some (byte - 0x41 + 10)
  else if 0x61 ≤ byte ∧ byte ≤ 0x66 then some (byte - 0x61 + 10)
  else none

def percentDecodeBytes : Bytes → Bytes
  | [] => []
  | byte :: rest =>
      match rest with
      | high :: low :: after =>
          if byte = 0x25 then
            match hexDigit high, hexDigit low with
            | some upper, some lower => ((upper <<< 4) ||| lower) :: percentDecodeBytes after
            | _, _ => byte :: percentDecodeBytes (high :: low :: after)
          else byte :: percentDecodeBytes (high :: low :: after)
      | rest => byte :: percentDecodeBytes rest

/-- The same loop with its index and its output vector, where an index out of bounds is a panic. -/
def percentDecodeLoop (bytes : Bytes) (i : Nat) (out : Bytes) : Option Bytes :=
  if i < bytes.length then do
    let byte ← bytes[i]?
    if byte = 0x25 ∧ i + 2 < bytes.length then
      let high ← bytes[i + 1]?
      let low ← bytes[i + 2]?
      match hexDigit high, hexDigit low with
      | some upper, some lower =>
          percentDecodeLoop bytes (i + 3) (out ++ [(upper <<< 4) ||| lower])
      | _, _ => percentDecodeLoop bytes (i + 1) (out ++ [byte])
    else percentDecodeLoop bytes (i + 1) (out ++ [byte])
  else some out
termination_by bytes.length - i

def plusToSpace (text : Str) : Str := text.map fun char => if char = '+' then ' ' else char

def percentDecode (text : Str) : Str :=
  let out := percentDecodeBytes (Utf8.encode (plusToSpace text))
  (Utf8.decode out).getD (Utf8.decodeLossy out)

/-- `after_percent_sign` of the percent-encoding crate reads two hexadecimal digits. -/
def afterPercentSign (rest : Bytes) : Option UInt8 := do
  let high ← hexDigit (← rest[0]?)
  let low ← hexDigit (← rest[1]?)
  pure (high * 0x10 + low)

def percentDecodeFrom : Nat → Bytes → Bytes
  | _, [] => []
  | skip + 1, _ :: rest => percentDecodeFrom skip rest
  | 0, byte :: rest =>
      if byte = 0x25 then
        match afterPercentSign rest with
        | some decoded => decoded :: percentDecodeFrom 2 rest
        | none => byte :: percentDecodeFrom 0 rest
      else byte :: percentDecodeFrom 0 rest

def percentDecodeStr (text : Str) : Bytes := percentDecodeFrom 0 (Utf8.encode text)

def splitPair (pair : Str) : Str × Str := (splitOnce '=' pair).getD (pair, [])

def findParam (text : Str) (key : Str) : Option Str :=
  (text.splitOn '&').findSome? fun pair =>
    let (name, value) := splitPair pair
    if percentDecode name = key then some (percentDecode value) else none

structure HttpRequest where
  method : Method
  uri : Uri
  headers : HeaderMap
  body : Bytes
  pathParams : Str → Option Str

namespace HttpRequest

def fromParts (method : Method) (uri : Uri) (headers : HeaderMap) (body : Bytes) : HttpRequest :=
  ⟨method, uri, headers, body, fun _ => none⟩

def path (request : HttpRequest) : Str := request.uri.path.text

def query (request : HttpRequest) : Option Str := request.uri.query

def queryParam (request : HttpRequest) (key : Str) : Option Str :=
  request.query.bind fun query => findParam query key

def formParam (request : HttpRequest) (key : Str) : Option Str :=
  (Utf8.decode request.body).bind fun body => findParam body key

def pathParam (request : HttpRequest) (key : Str) : Option Str := request.pathParams key

def header (request : HttpRequest) (name : Str) : Option Str :=
  (request.headers.get name).bind headerToStr

end HttpRequest

end HighperfServer
