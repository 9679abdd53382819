namespace HighperfServer

/-- Rust text is the sequence of its Unicode scalar values. -/
abbrev Str := List Char

inductive IpAddr where
  | v4 (address : BitVec 32)
  | v6 (address : BitVec 128)
  deriving DecidableEq, Repr

/-- The configuration keeps the fields that the modelled functions read. -/
structure ServerConfig where
  staticDir : Str
  rateLimitRps : Nat
  maxConnections : Nat
  tlsCertPath : Option Str
  tlsKeyPath : Option Str
  maxBodyBytes : Nat
  keepAliveTimeoutSecs : Nat
  maxConcurrentRequests : Nat
  authUsername : Str
  authPassword : Str
  blockedIps : List IpAddr
  allowedIps : List IpAddr
  proxyUpstream : Option Str
  proxyStripPrefix : Option Str
  deriving Repr

/-- `from_env` yields these values when the environment sets no variable. -/
def ServerConfig.defaults : ServerConfig where
  staticDir := "./static".toList
  rateLimitRps := 100
  maxConnections := 10000
  tlsCertPath := none
  tlsKeyPath := none
  maxBodyBytes := 4194304
  keepAliveTimeoutSecs := 75
  maxConcurrentRequests := 5000
  authUsername := "admin".toList
  authPassword := "secret".toList
  blockedIps := []
  allowedIps := []
  proxyUpstream := none
  proxyStripPrefix := none

def ServerConfig.isBlocked (config : ServerConfig) (ip : IpAddr) : Bool :=
  config.blockedIps.contains ip

def ServerConfig.isAllowed (config : ServerConfig) (ip : IpAddr) : Bool :=
  config.allowedIps.isEmpty || config.allowedIps.contains ip

end HighperfServer
