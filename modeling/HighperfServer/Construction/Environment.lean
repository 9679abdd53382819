import HighperfServer.Construction.Http.Response
import HighperfServer.Construction.IpList
import Mathlib.Algebra.Group.Nat.Defs

namespace HighperfServer
open Library

structure SocketAddr where
  ip : IpAddr
  port : Nat
  scopeId : Nat
  deriving DecidableEq, Repr

namespace SocketAddr

def readSuffix (mark : Char) (bound : Nat) (input : Str) : Option (Nat × Str) :=
  (IpAddr.readGivenChar mark input).bind fun rest =>
    IpAddr.readNumber 10 rest.length bound true rest

def readPort : Str → Option (Nat × Str) := readSuffix ':' (2 ^ 16)

def readScopeId : Str → Option (Nat × Str) := readSuffix '%' (2 ^ 32)

def readSocketAddrV4 (input : Str) : Option (SocketAddr × Str) := do
  let (ip, rest) ← IpAddr.readIpv4Addr input
  let (port, rest) ← readPort rest
  return (⟨.v4 ip, port, 0⟩, rest)

def readSocketAddrV6 (input : Str) : Option (SocketAddr × Str) := do
  let rest ← IpAddr.readGivenChar '[' input
  let (ip, rest) ← IpAddr.readIpv6Addr rest
  let (scopeId, rest) := (readScopeId rest).getD (0, rest)
  let rest ← IpAddr.readGivenChar ']' rest
  let (port, rest) ← readPort rest
  return (⟨.v6 ip, port, scopeId⟩, rest)

def parse (input : Str) : Option SocketAddr :=
  match (readSocketAddrV4 input).or (readSocketAddrV6 input) with
  | some (address, []) => some address
  | _ => none

end SocketAddr

/-- The configuration with the fields that only the start of the server reads. -/
structure Settings extends ServerConfig where
  addr : SocketAddr
  workers : Nat
  maxBlockingThreads : Nat
  logLevel : Str
  httpRedirectPort : Option Nat
  shutdownDrainSecs : Nat
  dbUrl : Str
  jwtSecret : Str
  requestTimeoutSecs : Nat
  dbPoolSize : Nat

/-- The settings of an environment that sets no variable, on a host that does not tell its cores. -/
def Settings.defaults : Settings where
  toServerConfig := ServerConfig.defaults
  addr := ⟨.v4 0, 8080, 0⟩
  workers := 4
  maxBlockingThreads := 512
  logLevel := "info".toList
  httpRedirectPort := none
  shutdownDrainSecs := 30
  dbUrl := "sqlite:./data.db".toList
  jwtSecret := "change-me-in-production".toList
  requestTimeoutSecs := 30
  dbPoolSize := 5

inductive ConfigError where
  | invalidAddr (address : Str)
  | invalidValue (name value : Str)
  deriving DecidableEq, Repr

/-- The variables of the process; one that is not Unicode counts as unset. -/
abbrev Environment := Str → Option Str

/-- The core count of the host, when the host tells it. -/
abbrev Parallelism := Option { count : Nat // 0 < count ∧ count < 2 ^ 64 }

namespace Environment

def varOr (env : Environment) (name default : String) : Str :=
  (env name.toList).getD default.toList

def number (bits : Nat) (name : String) (text : Str) : Except ConfigError Nat :=
  match parseUnsigned bits text with
  | some value => .ok value
  | none => .error (.invalidValue name.toList text)

def positive (bits : Nat) (name : String) (text : Str) : Except ConfigError Nat := do
  let value ← number bits name text
  if value = 0 then .error (.invalidValue name.toList "must be > 0".toList) else .ok value

def port (env : Environment) : Except ConfigError Nat := number 16 "PORT" (env.varOr "PORT" "8080")

def addr (env : Environment) (port : Nat) : Except ConfigError SocketAddr :=
  let text := env.varOr "HOST" "0.0.0.0" ++ ':' :: decimal port
  match SocketAddr.parse text with
  | some address => .ok address
  | none => .error (.invalidAddr text)

def workers (parallelism : Parallelism) (env : Environment) : Except ConfigError Nat :=
  match env "WORKERS".toList with
  | some text => positive 64 "WORKERS" text
  | none => .ok ((parallelism.map Subtype.val).getD 4)

def maxBlockingThreads (env : Environment) : Except ConfigError Nat :=
  positive 64 "BLOCKING_THREADS" (env.varOr "BLOCKING_THREADS" "512")

def rateLimitRps (env : Environment) : Except ConfigError Nat :=
  positive 32 "RATE_LIMIT_RPS" (env.varOr "RATE_LIMIT_RPS" "100")

def maxConnections (env : Environment) : Except ConfigError Nat :=
  positive 64 "MAX_CONNECTIONS" (env.varOr "MAX_CONNECTIONS" "10000")

def maxBodyBytes (env : Environment) : Except ConfigError Nat :=
  positive 64 "MAX_BODY_BYTES" (env.varOr "MAX_BODY_BYTES" "4194304")

def keepAliveTimeoutSecs (env : Environment) : Except ConfigError Nat :=
  positive 64 "KEEP_ALIVE_TIMEOUT" (env.varOr "KEEP_ALIVE_TIMEOUT" "75")

def maxConcurrentRequests (env : Environment) : Except ConfigError Nat :=
  positive 64 "MAX_CONCURRENT_REQUESTS" (env.varOr "MAX_CONCURRENT_REQUESTS" "5000")

def shutdownDrainSecs (env : Environment) : Except ConfigError Nat :=
  positive 64 "SHUTDOWN_DRAIN_SECS" (env.varOr "SHUTDOWN_DRAIN_SECS" "30")

/-- The redirect port is optional and may be zero. -/
def httpRedirectPort (env : Environment) : Except ConfigError (Option Nat) :=
  match env "HTTP_REDIRECT_PORT".toList with
  | some text => (number 16 "HTTP_REDIRECT_PORT" text).map some
  | none => .ok none

def requestTimeoutSecs (env : Environment) : Except ConfigError Nat :=
  positive 64 "REQUEST_TIMEOUT_SECS" (env.varOr "REQUEST_TIMEOUT_SECS" "30")

def dbPoolSize (env : Environment) : Except ConfigError Nat :=
  positive 32 "DB_POOL_SIZE" (env.varOr "DB_POOL_SIZE" "5")

end Environment

def Settings.fromEnv (parallelism : Parallelism) (env : Environment) :
    Except ConfigError Settings := do
  let port ← env.port
  let addr ← env.addr port
  let workers ← env.workers parallelism
  let maxBlockingThreads ← env.maxBlockingThreads
  let rateLimitRps ← env.rateLimitRps
  let maxConnections ← env.maxConnections
  let maxBodyBytes ← env.maxBodyBytes
  let keepAliveTimeoutSecs ← env.keepAliveTimeoutSecs
  let maxConcurrentRequests ← env.maxConcurrentRequests
  let shutdownDrainSecs ← env.shutdownDrainSecs
  let httpRedirectPort ← env.httpRedirectPort
  let requestTimeoutSecs ← env.requestTimeoutSecs
  let dbPoolSize ← env.dbPoolSize
  return {
    addr
    workers
    maxBlockingThreads
    logLevel := env.varOr "LOG_LEVEL" "info"
    staticDir := env.varOr "STATIC_DIR" "./static"
    rateLimitRps
    maxConnections
    tlsCertPath := env "TLS_CERT_PATH".toList
    tlsKeyPath := env "TLS_KEY_PATH".toList
    httpRedirectPort
    maxBodyBytes
    keepAliveTimeoutSecs
    maxConcurrentRequests
    shutdownDrainSecs
    dbUrl := env.varOr "DATABASE_URL" "sqlite:./data.db"
    jwtSecret := env.varOr "JWT_SECRET" "change-me-in-production"
    authUsername := env.varOr "AUTH_USERNAME" "admin"
    authPassword := env.varOr "AUTH_PASSWORD" "secret"
    requestTimeoutSecs
    dbPoolSize
    blockedIps := parseIpList (env.varOr "BLOCKED_IPS" "")
    allowedIps := parseIpList (env.varOr "ALLOWED_IPS" "")
    proxyUpstream := env "PROXY_UPSTREAM".toList
    proxyStripPrefix := env "PROXY_STRIP_PREFIX".toList }

end HighperfServer
