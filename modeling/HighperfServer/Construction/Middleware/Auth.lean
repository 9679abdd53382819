import HighperfServer.Construction.Database

namespace HighperfServer
open Library

def tokenTtlSecs : Nat := 3600

structure Claims where
  sub : Str
  exp : Nat
  deriving DecidableEq, Repr

/-- The keys of a shared secret encode claims, and decode a token that is valid at a time. -/
structure JwtSecret where
  encode : Claims → Option Str
  decode : Str → Int → Option Claims

namespace JwtSecret

def createToken (jwt : JwtSecret) (username : Str) : DbAction (Option Str) := do
  let now ← nowSecs
  pure (jwt.encode ⟨username, now.toNat + tokenTtlSecs⟩)

def verifyToken (jwt : JwtSecret) (token : Str) : DbAction (Option Claims) := do
  let now ← nowSecs
  pure (jwt.decode token now)

end JwtSecret

def extractBearer (authHeader : Option Str) : Option Str :=
  authHeader.bind fun header => "Bearer ".toList.isPrefixOf? header

end HighperfServer
