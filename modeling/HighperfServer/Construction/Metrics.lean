import HighperfServer.Construction.Http.Response

namespace HighperfServer
open Library

/-- The counters that every connection shares.  They are `AtomicU64`, and no run of fewer than 2^64
steps takes one of them there. -/
structure Metrics where
  requestsTotal : Nat
  requestsActive : Nat
  responses2xx : Nat
  responses4xx : Nat
  responses5xx : Nat
  rateLimited : Nat
  concurrencyLimited : Nat
  timedOut : Nat
  connectionsAccepted : Nat
  connectionsRejectedIp : Nat
  deriving DecidableEq, Repr

namespace Metrics

def new : Metrics := ⟨0, 0, 0, 0, 0, 0, 0, 0, 0, 0⟩

def gauge (name help : Str) (value : Nat) : Str :=
  "# HELP ".toList ++ name ++ " ".toList ++ help ++ "\n".toList ++
    "# TYPE ".toList ++ name ++ " gauge\n".toList ++
    name ++ " ".toList ++ decimal value ++ "\n".toList

/-- The lines of a counter, whose sample name ends in `_total`. -/
def counter (name help : Str) (value : Nat) : Str :=
  "# HELP ".toList ++ name ++ " ".toList ++ help ++ "\n".toList ++
    "# TYPE ".toList ++ name ++ " counter\n".toList ++
    name ++ "_total ".toList ++ decimal value ++ "\n".toList

def render (metrics : Metrics) : Str :=
  counter "requests".toList "Total HTTP requests received.".toList metrics.requestsTotal ++
  gauge "requests_active".toList "HTTP requests currently in-flight.".toList
    metrics.requestsActive ++
  counter "responses_2xx".toList "Responses with a 2xx status code.".toList metrics.responses2xx ++
  counter "responses_4xx".toList "Responses with a 4xx status code.".toList metrics.responses4xx ++
  counter "responses_5xx".toList "Responses with a 5xx status code.".toList metrics.responses5xx ++
  counter "rate_limited".toList "Requests rejected by the rate limiter (429).".toList
    metrics.rateLimited ++
  counter "concurrency_limited".toList
    "Requests rejected by the concurrency limiter (503).".toList metrics.concurrencyLimited ++
  counter "timed_out".toList
    "Requests that exceeded the per-request processing timeout.".toList metrics.timedOut ++
  counter "connections_accepted".toList "Total TCP connections accepted.".toList
    metrics.connectionsAccepted ++
  counter "connections_rejected_ip".toList "Connections dropped by the IP filter.".toList
    metrics.connectionsRejectedIp

end Metrics

end HighperfServer
