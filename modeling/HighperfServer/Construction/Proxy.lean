import HighperfServer.Construction.Http.Response
import HighperfServer.Library.Url
import Mathlib.Data.List.DropRight

namespace HighperfServer
open Library

namespace Proxy

def hopByHop : List Str :=
  ["connection".toList, "keep-alive".toList, "proxy-authenticate".toList,
    "proxy-authorization".toList, "te".toList, "trailer".toList, "transfer-encoding".toList,
    "upgrade".toList]

structure UpstreamRequest where
  method : Method
  target : Str
  headers : HeaderMap
  body : Bytes
  deriving DecidableEq, Repr

structure UpstreamResponse where
  status : StatusCode
  headers : HeaderMap
  body : Option Bytes
  deriving DecidableEq, Repr

/-- The HTTP client answers a request or reports that the upstream is unreachable. -/
abbrev Client := UpstreamRequest → Option UpstreamResponse

def effectivePath (path : Str) (stripPrefix : Option Str) : Str :=
  (stripPrefix.bind fun start => start.isPrefixOf? path).getD path

/-- The target concatenates the base without its trailing slashes, the path and the query. -/
def targetUrl (request : HttpRequest) (upstreamBase : Str) (stripPrefix : Option Str) : Str :=
  let base := upstreamBase.rdropWhile (· = '/')
  let path := effectivePath request.path stripPrefix
  match request.query with
  | some query => base ++ path ++ '?' :: query
  | none => base ++ path

def forwardHeaders (headers : HeaderMap) : HeaderMap :=
  headers.filter fun field => !(field.1 = "host".toList || hopByHop.contains field.1)

def badGateway (reason : Str) : HttpResponse :=
  let body := Utf8.encode ("502 Bad Gateway: ".toList ++ reason ++ "\n".toList)
  ⟨.badGateway, [("content-type".toList, Utf8.encode "text/plain; charset=utf-8".toList),
    ("content-length".toList, Utf8.encode (decimal body.length)),
    ("server".toList, Utf8.encode serverHeader)], body⟩

/-- The upstream's headers come first, then the length of the buffered body and our server name. -/
def relay (response : UpstreamResponse) (body : Bytes) : HttpResponse :=
  ⟨response.status, response.headers.filter (fun field => !hopByHop.contains field.1) ++
    [("content-length".toList, Utf8.encode (decimal body.length)),
      ("server".toList, Utf8.encode serverHeader)], body⟩

def proxyRequest (client : Client) (request : HttpRequest) (upstreamBase : Str)
    (stripPrefix : Option Str) : HttpResponse :=
  let upstreamRequest : UpstreamRequest :=
    ⟨request.method, targetUrl request upstreamBase stripPrefix, forwardHeaders request.headers,
      request.body⟩
  match client upstreamRequest with
  | some response =>
      match response.body with
      | some body => relay response body
      | none => badGateway "upstream body read failed".toList
  | none => badGateway "upstream unreachable".toList

end Proxy

end HighperfServer
