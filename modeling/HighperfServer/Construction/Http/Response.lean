import HighperfServer.Construction.Http.Request

namespace HighperfServer
open Library

inductive StatusCode where
  | ok
  | created
  | found
  | badRequest
  | unauthorized
  | forbidden
  | notFound
  | methodNotAllowed
  | payloadTooLarge
  | tooManyRequests
  | internalServerError
  | badGateway
  | serviceUnavailable
  | other (code : Nat)
  deriving DecidableEq, Repr

def StatusCode.asU16 : StatusCode → Nat
  | .ok => 200
  | .created => 201
  | .found => 302
  | .badRequest => 400
  | .unauthorized => 401
  | .forbidden => 403
  | .notFound => 404
  | .methodNotAllowed => 405
  | .payloadTooLarge => 413
  | .tooManyRequests => 429
  | .internalServerError => 500
  | .badGateway => 502
  | .serviceUnavailable => 503
  | .other code => code

/-- A response carries its header fields in the order they were appended. -/
structure HttpResponse where
  status : StatusCode
  headers : HeaderMap
  body : Bytes
  deriving DecidableEq, Repr

def serverHeader : Str := "rust-highperf-server/0.1".toList

def isTokenChar (char : Char) : Bool :=
  char.isAlphanum || "!#$%&'*+-.^_`|~".toList.contains char

/-- `HeaderName` rejects the empty name, names past its length limit and other characters. -/
def validHeaderName (name : Str) : Bool :=
  name ≠ [] && name.length ≤ 65535 && name.all isTokenChar

def headerName (key : Str) : Str := key.map Char.toLower

def validHeaderValue (value : Str) : Bool :=
  value.all fun char => (32 ≤ char.toNat ∧ char.toNat ≠ 127) ∨ char = '\t'

def decimal (value : Nat) : Str := Nat.toDigits 10 value

structure ResponseBuilder where
  status : StatusCode
  extraHeaders : List (Str × Str)

namespace ResponseBuilder

def new (status : StatusCode) : ResponseBuilder := ⟨status, []⟩

def okStatus : ResponseBuilder := new .ok
def badRequest : ResponseBuilder := new .badRequest
def notFound : ResponseBuilder := new .notFound
def methodNotAllowed : ResponseBuilder := new .methodNotAllowed
def internalError : ResponseBuilder := new .internalServerError

def header (builder : ResponseBuilder) (key value : Str) : ResponseBuilder :=
  { builder with extraHeaders := builder.extraHeaders ++ [(key, value)] }

def fallback : HttpResponse where
  status := .internalServerError
  headers := [("server".toList, Utf8.encode serverHeader)]
  body := Utf8.encode "Internal Server Error\n".toList

/-- The default headers come first, and an invalid header turns the response into a 500. -/
def assemble (builder : ResponseBuilder) (contentType : Str) (body : Bytes) (contentLength : Nat) :
    HttpResponse :=
  let headers := [("content-type".toList, contentType),
    ("content-length".toList, decimal contentLength),
    ("server".toList, serverHeader)] ++ builder.extraHeaders
  if headers.all fun field => validHeaderName field.1 && validHeaderValue field.2 then
    ⟨builder.status, headers.map fun field => (headerName field.1, Utf8.encode field.2), body⟩
  else fallback

def build (builder : ResponseBuilder) (contentType : Str) (body : Bytes) : HttpResponse :=
  builder.assemble contentType body body.length

def text (builder : ResponseBuilder) (body : Str) : HttpResponse :=
  builder.build "text/plain; charset=utf-8".toList (Utf8.encode body)

def empty (builder : ResponseBuilder) : HttpResponse :=
  builder.build "text/plain; charset=utf-8".toList []

def json (builder : ResponseBuilder) (serialised : Option Bytes) : HttpResponse :=
  match serialised with
  | some body => builder.build "application/json".toList body
  | none => internalError.text "Internal Server Error\n".toList

def bytesBody (builder : ResponseBuilder) (contentType : Str) (body : Bytes) : HttpResponse :=
  builder.build contentType body

def streamBody (builder : ResponseBuilder) (contentType : Str) (body : Bytes)
    (contentLength : Nat) : HttpResponse :=
  builder.assemble contentType body contentLength

end ResponseBuilder

end HighperfServer
