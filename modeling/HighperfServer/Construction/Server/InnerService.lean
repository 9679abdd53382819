import HighperfServer.Construction.Metrics
import HighperfServer.Library.Execution

namespace HighperfServer
open Library

/-- A request of the inner service collects its body, is dispatched, and is answered or dropped. -/
inductive RequestStage where
  | collecting (received : Bytes)
  | dispatching (body : Bytes)
  | answered (response : HttpResponse)
  | cancelled
  deriving DecidableEq, Repr

structure InnerService where
  metrics : Metrics
  requests : List RequestStage
  deriving DecidableEq, Repr

namespace InnerService

inductive Event where
  | enter (headers : HeaderMap)
  | frame (index : Nat) (data : Bytes)
  | bodyEnd (index : Nat)
  | bodyError (index : Nat)
  | respond (index : Nat) (response : HttpResponse)
  | timeout (index : Nat)
  | cancel (index : Nat)
  deriving DecidableEq, Repr

def Event.request : Event → Option Nat
  | .enter _ => none
  | .frame index _ | .bodyEnd index | .bodyError index | .respond index _ | .timeout index
  | .cancel index => some index

def contentLength (headers : HeaderMap) : Option Nat :=
  ((headers.get "content-length".toList).bind headerToStr).bind (parseUnsigned 64)

def declaresTooLarge (config : ServerConfig) (headers : HeaderMap) : Bool :=
  match contentLength headers with
  | some length => length > config.maxBodyBytes
  | none => false

def payloadTooLarge : HttpResponse :=
  (ResponseBuilder.new .payloadTooLarge).text "413 Payload Too Large\n".toList

def processingTimeout : HttpResponse :=
  (ResponseBuilder.new .serviceUnavailable).text
    "503 Service Unavailable: processing timeout\n".toList

def countResponse (metrics : Metrics) (response : HttpResponse) : Metrics :=
  let status := response.status.asU16
  let counted :=
    if status < 300 then { metrics with responses2xx := metrics.responses2xx + 1 }
    else if status < 500 then { metrics with responses4xx := metrics.responses4xx + 1 }
    else { metrics with responses5xx := metrics.responses5xx + 1 }
  { counted with requestsActive := counted.requestsActive - 1 }

def setStage (service : InnerService) (index : Nat) (stage : RequestStage) : InnerService :=
  { service with requests := service.requests.set index stage }

/-- The counters go up before the declared length is checked. -/
def enter (config : ServerConfig) (service : InnerService) (headers : HeaderMap) : InnerService where
  metrics :=
    { service.metrics with
      requestsTotal := service.metrics.requestsTotal + 1
      requestsActive := service.metrics.requestsActive + 1 }
  requests := service.requests ++
    [if declaresTooLarge config headers then .answered payloadTooLarge else .collecting []]

def frame (service : InnerService) (index : Nat) (data : Bytes) : RequestStage → Option InnerService
  | .collecting received => some (service.setStage index (.collecting (received ++ data)))
  | _ => none

def bodyEnd (config : ServerConfig) (service : InnerService) (index : Nat) :
    RequestStage → Option InnerService
  | .collecting received =>
      some (service.setStage index
        (if received.length > config.maxBodyBytes then .answered payloadTooLarge
          else .dispatching received))
  | _ => none

def bodyError (service : InnerService) (index : Nat) : RequestStage → Option InnerService
  | .collecting _ => some (service.setStage index (.answered ResponseBuilder.badRequest.empty))
  | _ => none

def respond (service : InnerService) (index : Nat) (response : HttpResponse) :
    RequestStage → Option InnerService
  | .dispatching _ =>
      some { service.setStage index (.answered response) with
        metrics := countResponse service.metrics response }
  | _ => none

def timeout (service : InnerService) (index : Nat) : RequestStage → Option InnerService
  | .dispatching _ =>
      some { service.setStage index (.answered processingTimeout) with
        metrics := countResponse
          { service.metrics with timedOut := service.metrics.timedOut + 1 } processingTimeout }
  | _ => none

/-- A dropped future runs no further statement. -/
def cancel (service : InnerService) (index : Nat) : RequestStage → Option InnerService
  | .collecting _ | .dispatching _ => some (service.setStage index .cancelled)
  | _ => none

def step (config : ServerConfig) (service : InnerService) : Event → Option InnerService
  | .enter headers => some (service.enter config headers)
  | .frame index data => (service.requests[index]?).bind (service.frame index data)
  | .bodyEnd index => (service.requests[index]?).bind (service.bodyEnd config index)
  | .bodyError index => (service.requests[index]?).bind (service.bodyError index)
  | .respond index response => (service.requests[index]?).bind (service.respond index response)
  | .timeout index => (service.requests[index]?).bind (service.timeout index)
  | .cancel index => (service.requests[index]?).bind (service.cancel index)

def machine (config : ServerConfig) : Machine InnerService Event where
  initial := ⟨Metrics.new, []⟩
  step := step config

end InnerService

end HighperfServer
