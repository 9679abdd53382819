import HighperfServer.Construction.Middleware.RateLimiter
import HighperfServer.Construction.Server.AcceptLoop
import HighperfServer.Construction.Server.InnerService

namespace HighperfServer
open Library Middleware

inductive Layer where
  | rateLimiter
  | concurrencyLimiter
  deriving DecidableEq, Repr

/-- The future of a call is an answer, or holds a permit and the inner future until that ends. -/
inductive CallStage where
  | refused (layer : Layer) (response : HttpResponse)
  | forwarded (headers : HeaderMap)
  | entered (request : Nat)
  | dropped
  deriving DecidableEq, Repr

def tooManyRequests : HttpResponse :=
  ((ResponseBuilder.new .tooManyRequests).header "retry-after".toList "1".toList).text
    "429 Too Many Requests\n".toList

def serviceUnavailable : HttpResponse :=
  ((ResponseBuilder.new .serviceUnavailable).header "retry-after".toList "1".toList).text
    "503 Service Unavailable\n".toList

def ConcurrencyLimiterService.call (semaphore : Semaphore) (headers : HeaderMap) :
    CallStage × Semaphore :=
  match semaphore.tryAcquire with
  | some permit => (.forwarded headers, permit)
  | none => (.refused .concurrencyLimiter serviceUnavailable, semaphore)

def RateLimiterService.call (origin : ℚ) (limiter : RateLimiter) (ip : IpAddr) (now : ℚ)
    (semaphore : Semaphore) (headers : HeaderMap) : CallStage × RateLimiter × Semaphore :=
  let checked := limiter.check origin ip now
  if !checked.1 then (.refused .rateLimiter tooManyRequests, checked.2, semaphore)
  else
    let called := ConcurrencyLimiterService.call semaphore headers
    (called.1, checked.2, called.2)

structure Server where
  acceptLoop : AcceptLoop
  rateLimiter : RateLimiter
  concurrencyLimiter : Semaphore
  service : InnerService
  calls : List CallStage

namespace Server

inductive Event where
  | connection (event : AcceptLoop.Event)
  | sweep (now : ℚ)
  | call (connection : Nat) (headers : HeaderMap) (now : ℚ)
  | poll (call : Nat)
  | drop (call : Nat)
  | request (event : InnerService.Event)
  deriving DecidableEq, Repr

def start (config : ServerConfig) : Server where
  acceptLoop := AcceptLoop.start config
  rateLimiter := RateLimiter.new config.rateLimitRps
  concurrencyLimiter := ⟨config.maxConcurrentRequests⟩
  service := ⟨Metrics.new, []⟩
  calls := []

def call (origin : ℚ) (server : Server) (headers : HeaderMap) (now : ℚ) (task : ConnectionTask) :
    Option Server :=
  match task.stage with
  | .serving =>
      let called := RateLimiterService.call origin server.rateLimiter task.peer now
        server.concurrencyLimiter headers
      some { server with
        rateLimiter := called.2.1
        concurrencyLimiter := called.2.2
        calls := server.calls ++ [called.1] }
  | _ => none

/-- The poll or drop that ends the inner future also drops the permit captured beside it. -/
def settle (server : Server) (request : Nat) (service : InnerService) : Server :=
  { server with
    service
    concurrencyLimiter :=
      match service.requests[request]? with
      | some (.answered _) | some .cancelled => server.concurrencyLimiter.release
      | _ => server.concurrencyLimiter }

/-- The first poll of a forwarded call starts the inner service. -/
def poll (config : ServerConfig) (server : Server) (index : Nat) : CallStage → Option Server
  | .forwarded headers =>
      let request := server.service.requests.length
      some { server.settle request (server.service.enter config headers) with
        calls := server.calls.set index (.entered request) }
  | _ => none

def drop (server : Server) (index : Nat) : CallStage → Option Server
  | .forwarded _ =>
      some { server with
        concurrencyLimiter := server.concurrencyLimiter.release
        calls := server.calls.set index .dropped }
  | _ => none

def request (config : ServerConfig) (server : Server) (event : InnerService.Event) :
    Option Server :=
  event.request.bind fun request =>
    (server.service.step config event).map (server.settle request)

def step (origin : ℚ) (config : ServerConfig) (server : Server) : Event → Option Server
  | .connection event =>
      (server.acceptLoop.step config event).map fun acceptLoop => { server with acceptLoop }
  | .sweep now => some { server with rateLimiter := server.rateLimiter.evictStale origin now }
  | .call connection headers now =>
      (server.acceptLoop.tasks[connection]?).bind (server.call origin headers now)
  | .poll index => (server.calls[index]?).bind (server.poll config index)
  | .drop index => (server.calls[index]?).bind (server.drop index)
  | .request event => server.request config event

def machine (origin : ℚ) (config : ServerConfig) : Machine Server Event where
  initial := start config
  step := step origin config

end Server

end HighperfServer
