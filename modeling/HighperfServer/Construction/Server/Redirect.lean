import HighperfServer.Construction.Http.Response
import Mathlib.Data.List.DropRight

namespace HighperfServer
open Library

namespace Redirect

structure PathAndQuery where
  text : Str
  visible : ∀ char ∈ text, 0x21 ≤ char.toNat ∧ char.toNat ≠ 0x7F

def requestHost (headers : HeaderMap) : Str :=
  ((headers.get "host".toList).bind headerToStr).getD "localhost".toList

/-- An IPv6 literal ends with its first bracket, and any other host before its last colon. -/
def bareHost (host : Str) : Str :=
  if host.head? = some '[' then
    if ']' ∈ host then host.takeWhile (· ≠ ']') ++ [']'] else host
  else
    if ':' ∈ host then (host.rdropWhile (· ≠ ':')).dropLast else host

def location (httpsPort : UInt16) (bareHost pathAndQuery : Str) : Str :=
  if httpsPort = 443 then "https://".toList ++ bareHost ++ pathAndQuery
  else "https://".toList ++ bareHost ++ ':' :: decimal httpsPort.toNat ++ pathAndQuery

/-- Every request is redirected; a location that is no header value is a panic. -/
def response (httpsPort : UInt16) (headers : HeaderMap) (pathAndQuery : Option PathAndQuery) :
    Option HttpResponse :=
  let location := location httpsPort (bareHost (requestHost headers))
    ((pathAndQuery.map PathAndQuery.text).getD ['/'])
  if validHeaderValue location then
    some ⟨.other 308, [("location".toList, Utf8.encode location),
      ("content-length".toList, Utf8.encode ['0'])], []⟩
  else none

end Redirect

end HighperfServer
