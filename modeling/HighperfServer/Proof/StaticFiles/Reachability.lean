import HighperfServer.Proof.Http.FormEncoding
import HighperfServer.Proof.Server.Authorisation
import HighperfServer.Proof.Server.RouteTable
import HighperfServer.Proof.StaticFiles

namespace HighperfServer
open Library UnixPath

/-- The characters that RFC 3986 lets stand for themselves in a path segment. -/
def isPathChar (char : Char) : Bool :=
  char.isAlphanum || char ∈ "-._~!$&'()*+,;=:@".toList

/-- A path segment is sent character by character.

A path character may stand for itself, and the UTF-8 bytes of any character may be escaped. -/
inductive PathEncoded : Str → Str → Prop where
  | nil : PathEncoded [] []
  | literal {char : Char} {text sent : Str} (allowed : isPathChar char = true)
      (rest : PathEncoded text sent) : PathEncoded (char :: text) (char :: sent)
  | escaped {char : Char} {escape text sent : Str}
      (bytes : Escaped (String.utf8EncodeChar char) escape) (rest : PathEncoded text sent) :
      PathEncoded (char :: text) (escape ++ sent)

/-- An escape has a percent sign and is longer than one character. -/
theorem Escaped.percent_mem {bytes : Bytes} {escape : Str} (filled : bytes ≠ [])
    (escaped : Escaped bytes escape) : '%' ∈ escape ∧ 1 < escape.length := by
  cases escaped with
  | nil => exact absurd rfl filled
  | cons first second rest => exact ⟨List.mem_cons_self, by simp⟩

namespace PathEncoded
variable {text sent : Str}

/-- The encoding of a text is no shorter. -/
theorem length_le (encoded : PathEncoded text sent) : text.length ≤ sent.length := by
  induction encoded with
  | nil => exact Nat.le_refl 0
  | literal allowed rest ih => simpa using ih
  | escaped bytes rest ih =>
      have longer := (bytes.percent_mem String.utf8EncodeChar_ne_nil).2
      rw [List.length_cons, List.length_append]
      omega

/-- A segment without an escape is sent as it is. -/
theorem eq_iff (encoded : PathEncoded text sent) : sent = text ↔ '%' ∉ sent := by
  induction encoded with
  | nil => exact iff_of_true rfl List.not_mem_nil
  | @literal char text sent allowed rest ih =>
      have plain : '%' ≠ char := by
        intro same
        rw [← same] at allowed
        exact absurd allowed (by decide)
      rw [List.cons_inj_right, ih, List.mem_cons, not_or]
      exact ⟨fun clean => ⟨plain, clean⟩, And.right⟩
  | @escaped char escape text sent bytes rest ih =>
      obtain ⟨percent, longer⟩ := bytes.percent_mem String.utf8EncodeChar_ne_nil
      apply iff_of_false
      · intro same
        have lengths := congrArg List.length same
        have shorter := rest.length_le
        rw [List.length_append, List.length_cons] at lengths
        omega
      · exact not_not_intro (List.mem_append_left _ percent)

/-- An encoded segment contains no slash. -/
theorem slash_not_mem (encoded : PathEncoded text sent) : '/' ∉ sent := by
  induction encoded with
  | nil => exact List.not_mem_nil
  | literal allowed rest ih =>
      intro member
      rcases List.mem_cons.mp member with same | later
      · rw [← same] at allowed
        exact absurd allowed (by decide)
      · exact ih later
  | escaped bytes rest ih =>
      intro member
      rcases List.mem_append.mp member with early | later
      · exact bytes.not_mem (by decide) early
      · exact ih later

/-- A clean name is sent as a clean name. -/
theorem isName (encoded : PathEncoded text sent) (clean : IsName text) : IsName sent := by
  have kept {plain : Str} (percentless : '%' ∉ plain) (different : text ≠ plain) : sent ≠ plain := by
    rintro rfl
    exact different (encoded.eq_iff.mpr percentless).symm
  obtain ⟨filled, notDot, notDots, _⟩ := clean
  exact ⟨kept List.not_mem_nil filled, kept (by decide) notDot, kept (by decide) notDots,
    encoded.slash_not_mem⟩

end PathEncoded

namespace StaticFiles

/-- The file below the base directory that the names lead to. -/
def fileAt (base : Str) (names : List Str) : Str := UnixPath.push base (['/'].intercalate names)

/-- A served path looks up the target first, and opens it and nothing else if it is a file. -/
def Reaches (fs : FileSystem) (base reqPath target : Str) : Prop :=
  (fs.run (serveFile base reqPath)).2.head? = some (.metadata target) ∧
    (fs.isDir target = .ok false →
      (fs.run (serveFile base reqPath)).2 = [.metadata target, .openFile target])

/-- The loop of `sanitize_path` keeps every name. -/
theorem sanitizeComponents_names (result : Str) (names : List Str) :
    sanitizeComponents result (names.map .normal) = some (names.foldl UnixPath.push result) := by
  induction names generalizing result with
  | nil => rfl
  | cons name names ih => exact ih _

/-- Joined clean names are accepted unchanged. -/
theorem sanitizePath_names {names : List Str} (clean : ∀ name ∈ names, IsName name) :
    sanitizePath (['/'].intercalate names) = some (['/'].intercalate names) := by
  rw [sanitizePath, components_names clean, sanitizeComponents_names]
  cases names with
  | nil => rfl
  | cons name names =>
      have nameClean := clean name List.mem_cons_self
      have start : UnixPath.push [] name = name := by
        simp [UnixPath.push, (components_of_isName nameClean).2.1]
      have opened : name.getLast? ≠ some '/' := fun ends =>
        nameClean.solid.2 (List.mem_of_getLast? ends)
      rw [List.foldl_cons, start, foldl_push nameClean.1 opened
        fun other member => clean other (List.mem_cons_of_mem _ member)]

/-- Clean names lead to one file. -/
theorem fileAt_injective {base : Str} {first second : List Str}
    (clean : ∀ name ∈ first, IsName name) (other : ∀ name ∈ second, IsName name)
    (same : fileAt base first = fileAt base second) : first = second := by
  have parts (name : Str) (member : name ∈ first) := (clean name member).solid
  have others (name : Str) (member : name ∈ second) := (other name member).solid
  have joined := push_injective (relative_intercalate parts) (relative_intercalate others) same
  rw [← pieces_intercalate parts, joined, pieces_intercalate others]

/-- Joined clean names look up their file first. -/
theorem head?_serveFile_names (fs : FileSystem) (base : Str) {names : List Str}
    (clean : ∀ name ∈ names, IsName name) :
    (fs.run (serveFile base (['/'].intercalate names))).2.head? =
      some (.metadata (fileAt base names)) := by
  rw [run_serveFile fs base (sanitizePath_names clean)]
  cases fs.isDir (UnixPath.push base (['/'].intercalate names)) <;> rfl

/-- Joined clean names reach their own file and no other. -/
theorem reaches_names_iff (fs : FileSystem) (base : Str) {names others : List Str}
    (clean : ∀ name ∈ names, IsName name) (other : ∀ name ∈ others, IsName name) :
    Reaches fs base (['/'].intercalate names) (fileAt base others) ↔ names = others := by
  rw [Reaches, head?_serveFile_names fs base clean]
  constructor
  · rintro ⟨looked, _⟩
    exact fileAt_injective clean other (FsCall.metadata.inj (Option.some.inj looked))
  · rintro rfl
    refine ⟨rfl, fun file => ?_⟩
    rw [fileAt] at file
    rw [run_serveFile fs base (sanitizePath_names clean), file]
    rfl

/-- The encoding of a name is a name. -/
theorem isName_of_sent {names sent : List Str} (encoded : List.Forall₂ PathEncoded names sent)
    (clean : ∀ name ∈ names, IsName name) : ∀ segment ∈ sent, IsName segment := by
  induction encoded with
  | nil => simp
  | cons first rest ih =>
      obtain ⟨firstClean, restClean⟩ := List.forall_mem_cons.mp clean
      exact List.forall_mem_cons.mpr ⟨first.isName firstClean, ih restClean⟩

/-- The sent segments are the names themselves when none has an escape. -/
theorem sent_eq_iff {names sent : List Str} (encoded : List.Forall₂ PathEncoded names sent) :
    sent = names ↔ ∀ segment ∈ sent, '%' ∉ segment := by
  induction encoded with
  | nil => simp
  | cons first rest ih => rw [List.cons_eq_cons, first.eq_iff, ih, List.forall_mem_cons]

end StaticFiles

/-- The route of the static files. -/
def Routes.staticRoute (config : ServerConfig) (services : Services) : RouteEntry DbAction :=
  ⟨.get, parsePattern "/static/*filepath".toList, staticFile services config.staticDir⟩

/-- The application has the static route. -/
theorem Routes.staticRoute_mem (config : ServerConfig) (services : Services)
    (templates : Option TemplateEngine) :
    staticRoute config services ∈ (buildRouter config services templates none).routes := by
  have later (first second third fourth : RouteEntry DbAction) (rest : List (RouteEntry DbAction)) :
      staticRoute config services ∈
        first :: second :: third :: fourth :: staticRoute config services :: rest := by simp
  cases templates <;>
    simp only [buildRouter, apiRoutes, uiRoutes, Router.get, Router.post, Router.delete, Router.add,
      Router.new, List.nil_append, List.cons_append] <;>
    exact later _ _ _ _ _

/-- The encoded path of a file reaches the file exactly when no character of it is escaped. -/
theorem static_reachable_iff (config : ServerConfig) (services : Services)
    (templates : Option TemplateEngine) (proxyClient : Option Proxy.Client) (request : HttpRequest)
    (names sent : List Str) (clean : ∀ name ∈ names, IsName name)
    (encoded : List.Forall₂ PathEncoded names sent) (method : request.method = .get)
    (path : request.path = "/static/".toList ++ ['/'].intercalate sent) :
    ∃ params,
      (Routes.buildRouter config services templates proxyClient).dispatch request =
        Routes.staticFile services config.staticDir { request with pathParams := params } ∧
      (StaticFiles.Reaches services.fileSystem config.staticDir
          ((params "filepath".toList).getD []) (StaticFiles.fileAt config.staticDir names) ↔
        ∀ segment ∈ sent, '%' ∉ segment) := by
  have sentClean := StaticFiles.isName_of_sent encoded clean
  have segments : pieces '/' request.path = "static".toList :: sent := by
    have joined : pieces '/' (['/'].intercalate sent) = sent :=
      pieces_intercalate fun segment member => (sentClean segment member).solid
    have start : "/static/".toList ++ ['/'].intercalate sent =
        '/' :: ("static".toList ++ '/' :: ['/'].intercalate sent) := rfl
    rw [path, start, pieces_cons_self, pieces_append_cons, joined,
      pieces_of_not_mem (by decide) (by decide), List.singleton_append]
  obtain ⟨params, matched, captured⟩ := StaticFiles.matchPath_static segments
  refine ⟨params, ?_, ?_⟩
  · have accepted : Router.Accepts request (Routes.staticRoute config services) :=
      (Router.methodOk_iff (show Method.asStr .get ≠ ['*'] by decide)).mpr method
    exact Routes.dispatch_of_local config services templates proxyClient request
      (Routes.staticRoute_mem config services templates) matched accepted
  · rw [captured, StaticFiles.reaches_names_iff _ _ sentClean clean, StaticFiles.sent_eq_iff encoded]

/-- A static directory with one file, whose name has a blank. -/
def blankFile : StaticFiles.FileSystem where
  isDir path := if path = "./static/a b".toList then .ok false else .error .notFound
  openFile path := if path = "./static/a b".toList then .ok ⟨.ok 0, []⟩ else .error .notFound

/-- The request of a path below the static directory. -/
def staticRequest (path : UriPath) : HttpRequest := HttpRequest.fromParts .get (.withoutQuery path) [] []

/-- Services over a disk where every path is an empty file. -/
def emptyFiles : Services :=
  { Routes.Services.refusing with fileSystem := ⟨fun _ => .ok false, fun _ => .ok ⟨.ok 0, []⟩⟩ }

/-- A nested file with a plain name is looked up and opened. -/
theorem static_reachable_iff_plain :
    let request := staticRequest (.rooted "/static/css/a".toList (.refl true))
    ∃ params, (Routes.buildRouter .defaults emptyFiles none none).dispatch request =
        Routes.staticFile emptyFiles "./static".toList { request with pathParams := params } ∧
      (emptyFiles.fileSystem.run (StaticFiles.serveFile "./static".toList
        ((params "filepath".toList).getD []))).2 =
        [.metadata "./static/css/a".toList, .openFile "./static/css/a".toList] := by
  intro request
  have clean : ∀ name ∈ ["css".toList, ['a']], IsName name := by decide
  have encoded : List.Forall₂ PathEncoded ["css".toList, ['a']] ["css".toList, ['a']] :=
    .cons (.literal rfl (.literal rfl (.literal rfl .nil))) (.cons (.literal rfl .nil) .nil)
  obtain ⟨params, dispatched, reached⟩ := static_reachable_iff .defaults emptyFiles none none
    request _ _ clean encoded rfl rfl
  exact ⟨params, dispatched, (reached.mpr (by decide)).2 rfl⟩

/-- A file whose name has a blank is not found under its encoded name. -/
theorem static_unreachable_blank :
    let served (reqPath : Str) := blankFile.run (StaticFiles.serveFile "./static".toList reqPath)
    PathEncoded "a b".toList "a%20b".toList ∧
    (∃ params, matchPath (parsePattern "/static/*filepath".toList) "/static/a%20b".toList =
        some params ∧ (params "filepath".toList).getD [] = "a%20b".toList) ∧
    (served "a%20b".toList).1.status = .notFound ∧
    (served "a%20b".toList).2 = [.metadata "./static/a%20b".toList] ∧
    ¬ StaticFiles.Reaches blankFile "./static".toList "a%20b".toList
      (StaticFiles.fileAt "./static".toList ["a b".toList]) := by
  refine ⟨?_, ⟨_, rfl, by decide⟩, by decide, by decide, ?_⟩
  · have blank : Escaped (String.utf8EncodeChar ' ') "%20".toList :=
      .cons (.inl (by decide)) (.inl (by decide)) .nil
    exact .literal rfl (.escaped blank (.literal rfl .nil))
  · rintro ⟨looked, _⟩
    exact absurd looked (by decide)

end HighperfServer
