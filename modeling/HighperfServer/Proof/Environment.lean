import HighperfServer.Library.Validation
import HighperfServer.Proof.Address

namespace HighperfServer
open Library

namespace Environment

/-- A bound that the server can work with. -/
def Positive (bits value : Nat) : Prop := 0 < value ∧ value < 2 ^ bits

/-- A number loads exactly when its text parses at the given width. -/
theorem number_eq_ok_iff {bits value : Nat} {name : String} {text : Str} :
    number bits name text = .ok value ↔ parseUnsigned bits text = some value := by
  unfold number
  cases parseUnsigned bits text <;> simp

/-- A positive number loads exactly when its text parses to a value other than zero. -/
theorem positive_eq_ok_iff {bits value : Nat} {name : String} {text : Str} :
    positive bits name text = .ok value ↔ parseUnsigned bits text = some value ∧ value ≠ 0 := by
  unfold positive
  rw [bind_eq_ok_iff]
  simp only [number_eq_ok_iff]
  constructor
  · rintro ⟨read, parsed, checked⟩
    split at checked
    · exact absurd checked (by simp)
    · rename_i nonzero
      obtain rfl := Except.ok.inj checked
      exact ⟨parsed, nonzero⟩
  · rintro ⟨parsed, nonzero⟩
    exact ⟨value, parsed, by simp [nonzero]⟩

/-- A positive number that loads is positive and fits its width. -/
theorem positive_valid {bits value : Nat} {name : String} {text : Str}
    (passed : positive bits name text = .ok value) : Positive bits value := by
  obtain ⟨parsed, nonzero⟩ := positive_eq_ok_iff.mp passed
  exact ⟨Nat.pos_of_ne_zero nonzero, lt_of_parseUnsigned parsed⟩

/-- The address loads exactly when host and port together parse as a socket address. -/
theorem addr_eq_ok_iff {env : Environment} {port : Nat} {address : SocketAddr} :
    env.addr port = .ok address ↔
      SocketAddr.parse (env.varOr "HOST" "0.0.0.0" ++ ':' :: decimal port) = some address := by
  unfold addr
  dsimp only
  cases SocketAddr.parse (env.varOr "HOST" "0.0.0.0" ++ ':' :: decimal port) <;> simp

/-- The address fails only with the text that does not parse. -/
theorem addr_eq_error_iff {env : Environment} {port : Nat} {error : ConfigError} :
    env.addr port = .error error ↔
      error = .invalidAddr (env.varOr "HOST" "0.0.0.0" ++ ':' :: decimal port) ∧
        ∀ address, SocketAddr.parse (env.varOr "HOST" "0.0.0.0" ++ ':' :: decimal port) ≠
          some address := by
  unfold addr
  dsimp only
  cases SocketAddr.parse (env.varOr "HOST" "0.0.0.0" ++ ':' :: decimal port) with
  | none => simp [eq_comm]
  | some address => simp

/-- A valid number loads from its decimal text. -/
theorem positive_decimal {bits value : Nat} (name : String) (valid : Positive bits value) :
    positive bits name (decimal value) = .ok value :=
  positive_eq_ok_iff.mpr ⟨parseUnsigned_toDigits valid.2, Nat.pos_iff_ne_zero.mp valid.1⟩

/-- The error names a variable. -/
def NamesVariable (error : ConfigError) : Prop := ∃ name value, error = .invalidValue name value

theorem number_failsWith (bits : Nat) (name : String) (text : Str) :
    FailsWith NamesVariable (number bits name text) := by
  intro error failed
  unfold number at failed
  split at failed
  · exact absurd failed (by simp)
  · exact ⟨_, _, (Except.error.inj failed).symm⟩

/-- A positive number fails with the name of its variable. -/
theorem positive_failsWith (bits : Nat) (name : String) (text : Str) :
    FailsWith NamesVariable (positive bits name text) := by
  refine (number_failsWith bits name text).bind fun value error failed => ?_
  split at failed
  · exact ⟨_, _, (Except.error.inj failed).symm⟩
  · exact absurd failed (by simp)

/-- The worker count fails with the name of its variable. -/
theorem workers_failsWith (parallelism : Parallelism) (env : Environment) :
    FailsWith NamesVariable (env.workers parallelism) := by
  unfold workers
  split
  · exact positive_failsWith 64 "WORKERS" _
  · exact failsWith_ok _ _

/-- The redirect port fails with the name of its variable. -/
theorem redirectPort_failsWith (env : Environment) :
    FailsWith NamesVariable env.httpRedirectPort := by
  unfold httpRedirectPort
  split
  · rename_i text _
    intro error failed
    have named := number_failsWith 16 "HTTP_REDIRECT_PORT" text error
    cases parsed : number 16 "HTTP_REDIRECT_PORT" text with
    | error found =>
        rw [parsed] at failed named
        exact named (congrArg Except.error (Except.error.inj failed))
    | ok found =>
        rw [parsed] at failed
        exact absurd failed (by simp [Except.map])
  · exact failsWith_ok _ _

/-- The core count and the fallback are positive. -/
theorem workers_valid {parallelism : Parallelism} {env : Environment} {value : Nat}
    (read : env.workers parallelism = .ok value) : Positive 64 value := by
  unfold workers at read
  split at read
  · exact positive_valid read
  · obtain rfl := Except.ok.inj read
    cases parallelism with
    | none => exact ⟨by decide, by decide⟩
    | some count => exact count.property

/-- A redirect port that loads is a port number. -/
theorem redirectPort_lt {env : Environment} {value : Option Nat}
    (read : env.httpRedirectPort = .ok value) (port : Nat) (configured : value = some port) :
    port < 2 ^ 16 := by
  unfold httpRedirectPort at read
  split at read
  · rename_i text _
    subst configured
    cases parsed : number 16 "HTTP_REDIRECT_PORT" text with
    | error error =>
        rw [parsed] at read
        exact absurd read (by simp [Except.map])
    | ok found =>
        rw [parsed] at read
        obtain rfl := Option.some.inj (Except.ok.inj read)
        exact lt_of_parseUnsigned (number_eq_ok_iff.mp parsed)
  · subst configured
    exact absurd (Except.ok.inj read) (by simp)

end Environment

namespace Settings
open Environment

/-- The bounds are positive and fit their types, and only an IPv6 address has a scope. -/
structure Valid (settings : Settings) : Prop where
  port : settings.addr.port < 2 ^ 16
  scope : settings.addr.scopeId < 2 ^ 32
  unscoped : ∀ address, settings.addr.ip = .v4 address → settings.addr.scopeId = 0
  workers : Positive 64 settings.workers
  maxBlockingThreads : Positive 64 settings.maxBlockingThreads
  rateLimitRps : Positive 32 settings.rateLimitRps
  maxConnections : Positive 64 settings.maxConnections
  maxBodyBytes : Positive 64 settings.maxBodyBytes
  keepAliveTimeoutSecs : Positive 64 settings.keepAliveTimeoutSecs
  maxConcurrentRequests : Positive 64 settings.maxConcurrentRequests
  shutdownDrainSecs : Positive 64 settings.shutdownDrainSecs
  httpRedirectPort : ∀ port, settings.httpRedirectPort = some port → port < 2 ^ 16
  requestTimeoutSecs : Positive 64 settings.requestTimeoutSecs
  dbPoolSize : Positive 32 settings.dbPoolSize

/-- The host that stands for an address. -/
def host (addr : SocketAddr) : Str :=
  match addr.ip with
  | .v4 address => (IpAddr.v4 address).written
  | .v6 address => '[' :: ((IpAddr.v6 address).written ++
      if addr.scopeId = 0 then [] else '%' :: decimal addr.scopeId) ++ [']']

/-- A list of addresses with commas between them. -/
def writtenList (ips : List IpAddr) : Str := [','].intercalate (ips.map IpAddr.written)

/-- The variables that describe the settings. -/
def assignments (settings : Settings) : List (Str × Option Str) :=
  [("HOST".toList, some (host settings.addr)),
    ("PORT".toList, some (decimal settings.addr.port)),
    ("WORKERS".toList, some (decimal settings.workers)),
    ("BLOCKING_THREADS".toList, some (decimal settings.maxBlockingThreads)),
    ("LOG_LEVEL".toList, some settings.logLevel),
    ("STATIC_DIR".toList, some settings.staticDir),
    ("RATE_LIMIT_RPS".toList, some (decimal settings.rateLimitRps)),
    ("MAX_CONNECTIONS".toList, some (decimal settings.maxConnections)),
    ("TLS_CERT_PATH".toList, settings.tlsCertPath),
    ("TLS_KEY_PATH".toList, settings.tlsKeyPath),
    ("HTTP_REDIRECT_PORT".toList, settings.httpRedirectPort.map decimal),
    ("MAX_BODY_BYTES".toList, some (decimal settings.maxBodyBytes)),
    ("KEEP_ALIVE_TIMEOUT".toList, some (decimal settings.keepAliveTimeoutSecs)),
    ("MAX_CONCURRENT_REQUESTS".toList, some (decimal settings.maxConcurrentRequests)),
    ("SHUTDOWN_DRAIN_SECS".toList, some (decimal settings.shutdownDrainSecs)),
    ("DATABASE_URL".toList, some settings.dbUrl),
    ("JWT_SECRET".toList, some settings.jwtSecret),
    ("AUTH_USERNAME".toList, some settings.authUsername),
    ("AUTH_PASSWORD".toList, some settings.authPassword),
    ("REQUEST_TIMEOUT_SECS".toList, some (decimal settings.requestTimeoutSecs)),
    ("DB_POOL_SIZE".toList, some (decimal settings.dbPoolSize)),
    ("BLOCKED_IPS".toList, some (writtenList settings.blockedIps)),
    ("ALLOWED_IPS".toList, some (writtenList settings.allowedIps)),
    ("PROXY_UPSTREAM".toList, settings.proxyUpstream),
    ("PROXY_STRIP_PREFIX".toList, settings.proxyStripPrefix)]

/-- The environment with these variables and no others. -/
def toEnv (settings : Settings) : Environment := fun name => (settings.assignments.lookup name).join

/-- The host of valid settings is spelled as a socket address wants it. -/
theorem host_spells {settings : Settings} (valid : settings.Valid) :
    SocketAddr.Spells (host settings.addr) settings.addr.ip settings.addr.scopeId := by
  cases ip : settings.addr.ip with
  | v4 address =>
      have read := IpAddr.readIpv4Addr_written address [] (by simp)
      rw [List.append_nil] at read
      simp only [host, ip]
      exact .inl ⟨address, rfl, valid.unscoped address ip, read⟩
  | v6 address =>
      simp only [host, ip]
      refine .inr ⟨address, _, _, rfl, rfl, IpAddr.readIpv6Addr_written address _ ?_, ?_⟩
      · intro char member
        split at member
        · exact absurd member (by simp)
        · obtain rfl := Option.some.inj member
          decide
      · split
        · rename_i zero
          rw [zero]
          rfl
        · have read : SocketAddr.readScopeId ('%' :: decimal settings.addr.scopeId) =
              some (settings.addr.scopeId, []) := SocketAddr.readSuffix_decimal '%' valid.scope
          rw [read]
          rfl

/-- A text without white space is its own trimming. -/
theorem trim_of_solid {text : Str} (solid : ∀ char ∈ text, isWhitespace char = false) :
    trim text = text := by
  have front : text.dropWhile isWhitespace = text := by
    cases text with
    | nil => rfl
    | cons head tail => exact List.dropWhile_cons_of_neg (by simp [solid head List.mem_cons_self])
  rw [trim, front, List.rdropWhile_eq_self_iff]
  intro nonempty
  simp [solid _ (List.getLast_mem nonempty)]

/-- Every list of addresses is read back from its text. -/
theorem parseIpList_writtenList (ips : List IpAddr) : parseIpList (writtenList ips) = ips := by
  have solid (ip : IpAddr) (char : Char) (member : char ∈ ip.written) :
      isWhitespace char = false ∧ char ≠ ',' := by
    have accepted := List.all_eq_true.mp (IpAddr.written_solid ip) char member
    simpa using accepted
  have entry (ip : IpAddr) : IpAddr.parse (trim ip.written) = some ip := by
    rw [trim_of_solid fun char member => (solid ip char member).1]
    exact IpAddr.parse_written ip
  cases ips with
  | nil => rfl
  | cons first rest =>
      have clean : ∀ text ∈ (first :: rest).map IpAddr.written, ',' ∉ text := by
        intro text member comma
        obtain ⟨ip, _, rfl⟩ := List.mem_map.mp member
        exact (solid ip ',' comma).2 rfl
      rw [parseIpList, writtenList, List.splitOn_intercalate ',' clean (by simp), List.filterMap_map]
      simp only [Function.comp_def, entry, List.filterMap_some]

/-- Valid settings are read back from their variables. -/
theorem fromEnv_toEnv {settings : Settings} (parallelism : Parallelism) (valid : settings.Valid) :
    fromEnv parallelism settings.toEnv = .ok settings := by
  have port : settings.toEnv.port = .ok settings.addr.port :=
    number_eq_ok_iff.mpr (parseUnsigned_toDigits valid.port)
  have addr : settings.toEnv.addr settings.addr.port = .ok settings.addr := by
    have parsed := (SocketAddr.parse_host_iff valid.port settings.addr).mpr ⟨host_spells valid, rfl⟩
    exact addr_eq_ok_iff.mpr parsed
  have workers : settings.toEnv.workers parallelism = .ok settings.workers :=
    positive_decimal "WORKERS" valid.workers
  have threads : settings.toEnv.maxBlockingThreads = .ok settings.maxBlockingThreads :=
    positive_decimal "BLOCKING_THREADS" valid.maxBlockingThreads
  have rate : settings.toEnv.rateLimitRps = .ok settings.rateLimitRps :=
    positive_decimal "RATE_LIMIT_RPS" valid.rateLimitRps
  have connections : settings.toEnv.maxConnections = .ok settings.maxConnections :=
    positive_decimal "MAX_CONNECTIONS" valid.maxConnections
  have body : settings.toEnv.maxBodyBytes = .ok settings.maxBodyBytes :=
    positive_decimal "MAX_BODY_BYTES" valid.maxBodyBytes
  have keepAlive : settings.toEnv.keepAliveTimeoutSecs = .ok settings.keepAliveTimeoutSecs :=
    positive_decimal "KEEP_ALIVE_TIMEOUT" valid.keepAliveTimeoutSecs
  have concurrent : settings.toEnv.maxConcurrentRequests = .ok settings.maxConcurrentRequests :=
    positive_decimal "MAX_CONCURRENT_REQUESTS" valid.maxConcurrentRequests
  have drain : settings.toEnv.shutdownDrainSecs = .ok settings.shutdownDrainSecs :=
    positive_decimal "SHUTDOWN_DRAIN_SECS" valid.shutdownDrainSecs
  have redirect : settings.toEnv.httpRedirectPort = .ok settings.httpRedirectPort := by
    unfold Environment.httpRedirectPort
    rw [show settings.toEnv "HTTP_REDIRECT_PORT".toList = settings.httpRedirectPort.map decimal from rfl]
    cases configured : settings.httpRedirectPort with
    | none => rfl
    | some port =>
        have read : number 16 "HTTP_REDIRECT_PORT" (decimal port) = .ok port :=
          number_eq_ok_iff.mpr (parseUnsigned_toDigits (valid.httpRedirectPort port configured))
        rw [Option.map_some]
        dsimp only
        rw [read]
        rfl
  have timeout : settings.toEnv.requestTimeoutSecs = .ok settings.requestTimeoutSecs :=
    positive_decimal "REQUEST_TIMEOUT_SECS" valid.requestTimeoutSecs
  have pool : settings.toEnv.dbPoolSize = .ok settings.dbPoolSize :=
    positive_decimal "DB_POOL_SIZE" valid.dbPoolSize
  have blocked : parseIpList (settings.toEnv.varOr "BLOCKED_IPS" "") = settings.blockedIps :=
    parseIpList_writtenList settings.blockedIps
  have allowed : parseIpList (settings.toEnv.varOr "ALLOWED_IPS" "") = settings.allowedIps :=
    parseIpList_writtenList settings.allowedIps
  simp only [fromEnv, port, addr, workers, threads, rate, connections, body, keepAlive, concurrent,
    drain, redirect, timeout, pool, blocked, allowed, bind, Except.bind]
  rfl

/-- The numbers of loaded settings are those that the variables hold. -/
structure Reads (parallelism : Parallelism) (env : Environment) (number : Nat) (settings : Settings) :
    Prop where
  port : env.port = .ok number
  addr : env.addr number = .ok settings.addr
  workers : env.workers parallelism = .ok settings.workers
  maxBlockingThreads : env.maxBlockingThreads = .ok settings.maxBlockingThreads
  rateLimitRps : env.rateLimitRps = .ok settings.rateLimitRps
  maxConnections : env.maxConnections = .ok settings.maxConnections
  maxBodyBytes : env.maxBodyBytes = .ok settings.maxBodyBytes
  keepAliveTimeoutSecs : env.keepAliveTimeoutSecs = .ok settings.keepAliveTimeoutSecs
  maxConcurrentRequests : env.maxConcurrentRequests = .ok settings.maxConcurrentRequests
  shutdownDrainSecs : env.shutdownDrainSecs = .ok settings.shutdownDrainSecs
  httpRedirectPort : env.httpRedirectPort = .ok settings.httpRedirectPort
  requestTimeoutSecs : env.requestTimeoutSecs = .ok settings.requestTimeoutSecs
  dbPoolSize : env.dbPoolSize = .ok settings.dbPoolSize

/-- Loaded settings consist of what each variable reads. -/
theorem reads_of_fromEnv {settings : Settings} {parallelism : Parallelism} {env : Environment}
    (loaded : fromEnv parallelism env = .ok settings) :
    ∃ port, Reads parallelism env port settings := by
  obtain ⟨port, portRead, loaded⟩ := bind_eq_ok_iff.mp loaded
  obtain ⟨addr, addrRead, loaded⟩ := bind_eq_ok_iff.mp loaded
  obtain ⟨workers, workersRead, loaded⟩ := bind_eq_ok_iff.mp loaded
  obtain ⟨threads, threadsRead, loaded⟩ := bind_eq_ok_iff.mp loaded
  obtain ⟨rate, rateRead, loaded⟩ := bind_eq_ok_iff.mp loaded
  obtain ⟨connections, connectionsRead, loaded⟩ := bind_eq_ok_iff.mp loaded
  obtain ⟨body, bodyRead, loaded⟩ := bind_eq_ok_iff.mp loaded
  obtain ⟨keepAlive, keepAliveRead, loaded⟩ := bind_eq_ok_iff.mp loaded
  obtain ⟨concurrent, concurrentRead, loaded⟩ := bind_eq_ok_iff.mp loaded
  obtain ⟨drain, drainRead, loaded⟩ := bind_eq_ok_iff.mp loaded
  obtain ⟨redirect, redirectRead, loaded⟩ := bind_eq_ok_iff.mp loaded
  obtain ⟨timeout, timeoutRead, loaded⟩ := bind_eq_ok_iff.mp loaded
  obtain ⟨pool, poolRead, loaded⟩ := bind_eq_ok_iff.mp loaded
  obtain rfl := Except.ok.inj loaded
  exact ⟨port, portRead, addrRead, workersRead, threadsRead, rateRead, connectionsRead, bodyRead,
    keepAliveRead, concurrentRead, drainRead, redirectRead, timeoutRead, poolRead⟩

/-- The loaded bind address is the spelled host with its port. -/
theorem Reads.spelled {settings : Settings} {parallelism : Parallelism} {env : Environment} {port : Nat}
    (reads : Reads parallelism env port settings) :
    port < 2 ^ 16 ∧ SocketAddr.Spells (env.varOr "HOST" "0.0.0.0") settings.addr.ip
      settings.addr.scopeId ∧ settings.addr.port = port := by
  have fits : port < 2 ^ 16 := lt_of_parseUnsigned (number_eq_ok_iff.mp reads.port)
  exact ⟨fits, (SocketAddr.parse_host_iff fits settings.addr).mp (addr_eq_ok_iff.mp reads.addr)⟩

/-- What the environment yields is valid. -/
theorem valid_of_fromEnv {settings : Settings} {parallelism : Parallelism} {env : Environment}
    (loaded : fromEnv parallelism env = .ok settings) : settings.Valid := by
  obtain ⟨port, reads⟩ := reads_of_fromEnv loaded
  obtain ⟨fits, spelled, samePort⟩ := reads.spelled
  exact {
    port := by rwa [samePort]
    scope := spelled.scope_lt
    unscoped := spelled.unscoped
    workers := workers_valid reads.workers
    maxBlockingThreads := positive_valid reads.maxBlockingThreads
    rateLimitRps := positive_valid reads.rateLimitRps
    maxConnections := positive_valid reads.maxConnections
    maxBodyBytes := positive_valid reads.maxBodyBytes
    keepAliveTimeoutSecs := positive_valid reads.keepAliveTimeoutSecs
    maxConcurrentRequests := positive_valid reads.maxConcurrentRequests
    shutdownDrainSecs := positive_valid reads.shutdownDrainSecs
    httpRedirectPort := redirectPort_lt reads.httpRedirectPort
    requestTimeoutSecs := positive_valid reads.requestTimeoutSecs
    dbPoolSize := positive_valid reads.dbPoolSize }

/-- Exactly the valid settings can be loaded, and their variables load them unchanged. -/
theorem loads_exactly_valid (parallelism : Parallelism) (settings : Settings) :
    (∀ env, fromEnv parallelism env = .ok settings → settings.Valid) ∧
      (settings.Valid → fromEnv parallelism settings.toEnv = .ok settings) :=
  ⟨fun _ => valid_of_fromEnv, fromEnv_toEnv parallelism⟩

example : fromEnv none (fun _ => none) = .ok Settings.defaults := by rfl

/-- Behind the bind address only a variable can be at fault. -/
theorem fromEnv_of_addr {parallelism : Parallelism} {env : Environment} {port : Nat}
    {addr : SocketAddr} (portRead : env.port = .ok port) (addrRead : env.addr port = .ok addr) :
    FailsWith NamesVariable (fromEnv parallelism env) := by
  unfold fromEnv
  rw [portRead]
  change FailsWith NamesVariable (env.addr port >>= _)
  rw [addrRead]
  refine (workers_failsWith parallelism env).bind fun workers => ?_
  refine (positive_failsWith _ _ _).bind fun threads => ?_
  refine (positive_failsWith _ _ _).bind fun rate => ?_
  refine (positive_failsWith _ _ _).bind fun connections => ?_
  refine (positive_failsWith _ _ _).bind fun body => ?_
  refine (positive_failsWith _ _ _).bind fun keepAlive => ?_
  refine (positive_failsWith _ _ _).bind fun concurrent => ?_
  refine (positive_failsWith _ _ _).bind fun drain => ?_
  refine (redirectPort_failsWith env).bind fun redirect => ?_
  refine (positive_failsWith _ _ _).bind fun timeout => ?_
  exact (positive_failsWith _ _ _).bind fun pool => failsWith_ok _ _

/-- A host that is not spelled is refused. -/
theorem refused_of_unspelled (parallelism : Parallelism) {env : Environment} {port : Nat}
    (readable : env.port = .ok port)
    (unspelled : ¬ ∃ ip scopeId, SocketAddr.Spells (env.varOr "HOST" "0.0.0.0") ip scopeId) :
    fromEnv parallelism env =
      .error (.invalidAddr (env.varOr "HOST" "0.0.0.0" ++ ':' :: decimal port)) := by
  have fits : port < 2 ^ 16 := lt_of_parseUnsigned (number_eq_ok_iff.mp readable)
  have refused : env.addr port =
      .error (.invalidAddr (env.varOr "HOST" "0.0.0.0" ++ ':' :: decimal port)) := by
    refine addr_eq_error_iff.mpr ⟨rfl, fun address parsed => ?_⟩
    obtain ⟨spelled, _⟩ := (SocketAddr.parse_host_iff fits address).mp parsed
    exact unspelled ⟨_, _, spelled⟩
  simp only [fromEnv, readable, refused, bind, Except.bind]

/-- A host is accepted exactly when it is spelled as a dotted IPv4 or a bracketed IPv6 address, and an
IPv6 address without brackets is refused with every readable port. -/
theorem host_accepted_iff (parallelism : Parallelism) (env : Environment) (port : Nat)
    (readable : env.port = .ok port) :
    (fromEnv parallelism env =
        .error (.invalidAddr (env.varOr "HOST" "0.0.0.0" ++ ':' :: decimal port)) ↔
      ¬ ∃ ip scopeId, SocketAddr.Spells (env.varOr "HOST" "0.0.0.0") ip scopeId) ∧
    (∀ settings, fromEnv parallelism env = .ok settings →
      SocketAddr.Spells (env.varOr "HOST" "0.0.0.0") settings.addr.ip settings.addr.scopeId ∧
        settings.addr.port = port) ∧
    ∀ address, IpAddr.parse (env.varOr "HOST" "0.0.0.0") = some (.v6 address) →
      fromEnv parallelism env =
        .error (.invalidAddr (env.varOr "HOST" "0.0.0.0" ++ ':' :: decimal port)) := by
  refine ⟨⟨?_, refused_of_unspelled parallelism readable⟩, ?_, ?_⟩
  · rintro failed ⟨ip, scopeId, spelled⟩
    have fits : port < 2 ^ 16 := lt_of_parseUnsigned (number_eq_ok_iff.mp readable)
    have parsed := (SocketAddr.parse_host_iff fits ⟨ip, port, scopeId⟩).mpr ⟨spelled, rfl⟩
    obtain ⟨name, value, same⟩ := fromEnv_of_addr readable (addr_eq_ok_iff.mpr parsed) _ failed
    exact absurd same (by simp)
  · intro settings loaded
    obtain ⟨read, reads⟩ := reads_of_fromEnv loaded
    obtain rfl := Except.ok.inj (readable.symm.trans reads.port)
    exact reads.spelled.2
  · intro address plain
    apply refused_of_unspelled parallelism readable
    rintro ⟨ip, scopeId, spelled⟩
    exact SocketAddr.not_spells_of_unbracketed plain ip scopeId spelled

/-- An environment that sets the host alone. -/
def hostEnv (host : String) : Environment :=
  fun name => if name = "HOST".toList then some host.toList else none

/-- The IPv6 loopback is refused without brackets and accepted with them. -/
theorem host_accepted_iff_loopback :
    fromEnv none (hostEnv "::1") = .error (.invalidAddr "::1:8080".toList) ∧
    (¬ ∃ ip scopeId, SocketAddr.Spells "::1".toList ip scopeId) ∧
    ∃ settings, fromEnv none (hostEnv "[::1]") = .ok settings ∧
      SocketAddr.Spells "[::1]".toList settings.addr.ip settings.addr.scopeId ∧
      settings.addr.port = 8080 := by
  have port : (hostEnv "::1").port = .ok 8080 := by decide +kernel
  have plain : IpAddr.parse ((hostEnv "::1").varOr "HOST" "0.0.0.0") = some (.v6 1) := by decide +kernel
  obtain ⟨unspelled, _, unbracketed⟩ := host_accepted_iff none (hostEnv "::1") 8080 port
  have refused := unbracketed 1 plain
  refine ⟨refused, unspelled.mp refused, ?_⟩
  have port : (hostEnv "[::1]").port = .ok 8080 := by decide +kernel
  have loads : (fromEnv none (hostEnv "[::1]")).isOk = true := by decide +kernel
  obtain ⟨_, accepted, _⟩ := host_accepted_iff none (hostEnv "[::1]") 8080 port
  cases loaded : fromEnv none (hostEnv "[::1]") with
  | ok settings => exact ⟨settings, rfl, accepted settings loaded⟩
  | error error =>
      rw [loaded] at loads
      exact absurd loads (by simp [Except.isOk, Except.toBool])

end Settings

end HighperfServer
