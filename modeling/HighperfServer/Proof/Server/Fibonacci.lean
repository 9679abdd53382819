import HighperfServer.Library.Numeral
import HighperfServer.Proof.Server.Handlers
import Mathlib.Data.Nat.Fib.Basic

namespace HighperfServer
open Library

namespace Routes

/-- The loop continues the Fibonacci sequence from any of its pairs, modulo the word size. -/
theorem fibLoop_eq (start n : Nat) :
    fibLoop n (UInt64.ofNat (Nat.fib start)) (UInt64.ofNat (Nat.fib (start + 1))) =
      UInt64.ofNat (Nat.fib (start + n)) := by
  induction n generalizing start with
  | zero => rfl
  | succ n ih =>
      rw [fibLoop, ← UInt64.ofNat_add, ← Nat.fib_add_two, ih (start + 1)]
      congr 2
      omega

/-- No index up to the cap overflows. -/
theorem fib_toNat {n : Nat} (capped : n ≤ 50) : (fib n).toNat = Nat.fib n := by
  have looped : fib n = UInt64.ofNat (Nat.fib n) := by
    have general : fib n = UInt64.ofNat (Nat.fib (0 + n)) := fibLoop_eq 0 n
    rwa [Nat.zero_add] at general
  have bound : Nat.fib n ≤ 12586269025 := by
    calc Nat.fib n ≤ Nat.fib 50 := Nat.fib_mono capped
      _ = 12586269025 := by decide +kernel
  rw [looped, UInt64.toNat_ofNat_of_lt']
  exact lt_of_le_of_lt bound (by decide)

/-- One segment after `/fib/` is captured as it stands. -/
theorem matchPath_fib {text : Str} (filled : text ≠ []) (single : '/' ∉ text) :
    matchPath (parsePattern "/fib/:n".toList) ("/fib/".toList ++ text) =
      some (PathParams.insert (fun _ => none) "n".toList text) := by
  have segments : pieces '/' ("/fib/".toList ++ text) = ["fib".toList, text] := by
    have split := pieces_append_cons '/' "/fib".toList text
    rw [pieces_of_not_mem single filled] at split
    exact split
  have pattern : parsePattern "/fib/:n".toList = [.literal "fib".toList, .param "n".toList] := by
    decide
  rw [matchPath, segments, pattern]
  rfl

/-- The route answers every segment with the exact Fibonacci number of its capped index, and a
segment that is no index counts as 10. -/
theorem fib_route (config : ServerConfig) (services : Services) (templates : Option TemplateEngine)
    (proxyClient : Option Proxy.Client) {request : HttpRequest} {text : Str}
    (asked : request.method = .get ∧ request.path = "/fib/".toList ++ text)
    (segment : text ≠ [] ∧ '/' ∉ text) (pool : services.joinError = none) :
    (buildRouter config services templates proxyClient).dispatch request =
      pure (ResponseBuilder.okStatus.text
        (decimal (Nat.fib (min ((parseUnsigned 64 text).getD 10) 50)) ++ "\n".toList)) := by
  have member : ⟨.get, parsePattern "/fib/:n".toList, fibonacci services⟩ ∈
      (buildRouter config services templates none).routes := by
    cases templates <;> simp [buildRouter, apiRoutes, uiRoutes, Router.get, Router.post, Router.delete,
      Router.add, Router.new]
  have requested : Requests request .get "/fib/:n" _ :=
    ⟨asked.1, by rw [asked.2]; exact matchPath_fib segment.1 segment.2⟩
  rw [dispatch_route config services templates proxyClient member requested]
  have captured : (({ request with
      pathParams := PathParams.insert (fun _ => none) "n".toList text } : HttpRequest).pathParam
        "n".toList) = some text := rfl
  unfold fibonacci runBlocking
  dsimp only
  rw [captured, Option.bind_some, pool]
  dsimp only
  rw [fib_toNat (Nat.min_le_right _ _)]

/-- The request for a far index. -/
def farIndex : HttpRequest :=
  HttpRequest.fromParts .get (.withoutQuery (.rooted "/fib/999".toList (.refl true))) [] []

example : (buildRouter .defaults Services.refusing none none).dispatch farIndex =
    pure (ResponseBuilder.okStatus.text "12586269025\n".toList) := by
  have capped : decimal (Nat.fib (min ((parseUnsigned 64 "999".toList).getD 10) 50)) ++ "\n".toList =
      "12586269025\n".toList := by decide +kernel
  rw [← capped]
  exact fib_route .defaults Services.refusing none none ⟨rfl, rfl⟩ ⟨by decide, by decide⟩ rfl

end Routes

end HighperfServer
