import HighperfServer.Construction.StaticFiles
import HighperfServer.Proof.Http.Dispatch

namespace HighperfServer
open Library UnixPath

namespace StaticFiles

/-- The rejected components of a path. -/
def isRejected : Component → Bool
  | .rootDir | .parentDir => true
  | .curDir | .normal _ => false

/-- The names of a path, without its dots. -/
def normalNames (parts : List Component) : List Str :=
  parts.filterMap fun part => match part with
    | .normal name => some name
    | _ => none

/-- A path with a rejected component is refused. -/
theorem sanitizeComponents_eq_none_iff {result : Str} {parts : List Component} :
    sanitizeComponents result parts = none ↔ ∃ part ∈ parts, isRejected part = true := by
  induction parts generalizing result with
  | nil => simp [sanitizeComponents]
  | cons part rest ih =>
      cases part with
      | rootDir => simp [sanitizeComponents, isRejected]
      | parentDir => simp [sanitizeComponents, isRejected]
      | curDir => simp [sanitizeComponents, isRejected, ih]
      | normal name => simp [sanitizeComponents, isRejected, ih]

/-- The accepted path lists the names of the request path. -/
theorem components_of_sanitizeComponents {result safe : Str} {parts : List Component}
    (clean : ∀ name ∈ normalNames parts, IsName name)
    (accepted : sanitizeComponents result parts = some safe) :
    components safe = components result ++ (normalNames parts).map .normal := by
  induction parts generalizing result with
  | nil =>
      obtain rfl := Option.some.inj accepted
      simp [normalNames]
  | cons part rest ih =>
      cases part with
      | rootDir => exact absurd accepted (by simp [sanitizeComponents])
      | parentDir => exact absurd accepted (by simp [sanitizeComponents])
      | curDir => exact ih clean accepted
      | normal name =>
          have first : IsName name := clean name List.mem_cons_self
          obtain ⟨single, relative, noDot⟩ := components_of_isName first
          have later := ih (fun other member => clean other (List.mem_cons_of_mem _ member)) accepted
          rw [later, components_push relative noDot, single, List.append_assoc]
          rfl

/-- The accepted path stays relative and does not start with a dot. -/
theorem relative_of_components {safe : Str} {names : List Str}
    (parts : components safe = names.map .normal) :
    safe.head? ≠ some '/' ∧ (pieces '/' safe).head? ≠ some ['.'] := by
  have noOrigin : origin safe = [] := by
    unfold components origin at *
    split at parts
    · cases names <;> simp at parts
    · split at parts
      · cases names <;> simp at parts
      · rename_i relative noDot
        rw [if_neg relative, if_neg noDot]
  unfold origin at noOrigin
  split at noOrigin
  · exact absurd noOrigin (by simp)
  · rename_i relative
    split at noOrigin
    · exact absurd noOrigin (by simp)
    · rename_i noDot
      exact ⟨relative, noDot⟩

/-- The static route takes the paths below its first segment and captures the other segments. -/
theorem matchPath_static_iff {path : Str} {params : PathParams} :
    matchPath (parsePattern "/static/*filepath".toList) path = some params ↔
      ∃ sent, pieces '/' path = "static".toList :: sent ∧
        params = PathParams.ofCaptures
          (if sent = [] then [] else [("filepath".toList, ['/'].intercalate sent)]) := by
  have pattern : parsePattern "/static/*filepath".toList =
      [.literal "static".toList, .wildcard "filepath".toList] := by decide
  have last : WildcardLast [.literal "static".toList, .wildcard "filepath".toList] := by decide
  rw [pattern, matchPath_eq_some_iff last]
  simp only [matches_literal_iff, matches_wildcard_iff]
  constructor
  · rintro ⟨_, ⟨sent, segments, rfl⟩, filled⟩
    exact ⟨sent, segments, filled⟩
  · rintro ⟨sent, segments, filled⟩
    exact ⟨_, ⟨sent, segments, rfl⟩, filled⟩

/-- The captured segments are joined again. -/
theorem matchPath_static {path : Str} {sent : List Str}
    (segments : pieces '/' path = "static".toList :: sent) :
    ∃ params, matchPath (parsePattern "/static/*filepath".toList) path = some params ∧
      (params "filepath".toList).getD [] = ['/'].intercalate sent := by
  refine ⟨_, matchPath_static_iff.mpr ⟨sent, segments, rfl⟩, ?_⟩
  cases sent with
  | nil => rfl
  | cons first rest => rfl

/-- The capture of the static route is a joined list of segments. -/
theorem capture_static {path : Str} {params : PathParams}
    (matched : matchPath (parsePattern "/static/*filepath".toList) path = some params) :
    ∃ rest, (∀ part ∈ rest, part ≠ [] ∧ '/' ∉ part) ∧
      (params "filepath".toList).getD [] = ['/'].intercalate rest := by
  obtain ⟨sent, segments, _⟩ := matchPath_static_iff.mp matched
  obtain ⟨others, same, captured⟩ := matchPath_static segments
  obtain rfl := Option.some.inj (matched.symm.trans same)
  have clean (part : Str) (member : part ∈ pieces '/' path) : part ≠ [] ∧ '/' ∉ part :=
    mem_pieces member
  rw [segments] at clean
  exact ⟨sent, fun part member => clean part (List.mem_cons_of_mem _ member), captured⟩

/-- A segment is rejected only for its two dots. -/
theorem dots_of_rejected {segment : Str} {part : Component} (found : component segment = some part)
    (rejected : isRejected part = true) : segment = ['.', '.'] := by
  unfold component at found
  split at found
  · exact absurd found (by simp)
  · split at found
    · assumption
    · rw [← Option.some.inj found] at rejected
      exact absurd rejected (by simp [isRejected])

section Captured
variable {rest : List Str} (clean : ∀ part ∈ rest, part ≠ [] ∧ '/' ∉ part)
include clean

/-- The components of a captured path are its segments after an optional dot. -/
theorem components_captured :
    (origin (['/'].intercalate rest) = [] ∨ origin (['/'].intercalate rest) = [.curDir]) ∧
      components (['/'].intercalate rest) =
        origin (['/'].intercalate rest) ++ rest.filterMap component := by
  refine ⟨?_, ?_⟩
  · unfold origin
    rw [if_neg (relative_intercalate clean)]
    split
    · exact .inr rfl
    · exact .inl rfl
  · rw [components, pieces_intercalate clean]

/-- A component of a captured path is a leading dot or comes from a segment. -/
theorem segment_of_captured {part : Component}
    (member : part ∈ components (['/'].intercalate rest)) :
    part = .curDir ∨ ∃ segment ∈ rest, component segment = some part := by
  obtain ⟨plain, parts⟩ := components_captured clean
  rw [parts] at member
  rcases List.mem_append.mp member with leading | later
  · rcases plain with none | dot
    · rw [none] at leading
      exact absurd leading List.not_mem_nil
    · rw [dot, List.mem_singleton] at leading
      exact .inl leading
  · exact .inr (List.mem_filterMap.mp later)

/-- A captured path is refused exactly when one of its segments is two dots. -/
theorem sanitizePath_captured_eq_none_iff :
    sanitizePath (['/'].intercalate rest) = none ↔
      ['.', '.'] ∈ (['/'].intercalate rest).splitOn '/' := by
  have listed : ['.', '.'] ∈ (['/'].intercalate rest).splitOn '/' ↔ ['.', '.'] ∈ rest := by
    have same := pieces_intercalate clean
    constructor
    · intro member
      rw [← same]
      exact List.mem_filter.mpr ⟨member, by decide⟩
    · intro member
      rw [← same] at member
      exact (List.mem_filter.mp member).1
  rw [sanitizePath, sanitizeComponents_eq_none_iff, listed]
  constructor
  · rintro ⟨part, member, rejected⟩
    rcases segment_of_captured clean member with rfl | ⟨segment, present, found⟩
    · exact absurd rejected (by decide)
    · rwa [← dots_of_rejected found rejected]
  · intro present
    rw [(components_captured clean).2]
    exact ⟨.parentDir, List.mem_append_right _ (List.mem_filterMap.mpr
      ⟨['.', '.'], present, by decide⟩), rfl⟩

/-- The names of a captured path are clean. -/
theorem isName_of_captured {name : Str}
    (member : name ∈ normalNames (components (['/'].intercalate rest))) : IsName name := by
  obtain ⟨part, present, named⟩ := List.mem_filterMap.mp member
  rcases segment_of_captured clean present with rfl | ⟨segment, inside, found⟩
  · exact absurd named (by simp)
  · obtain ⟨filled, whole⟩ := clean segment inside
    cases part with
    | normal other =>
        obtain rfl := Option.some.inj named
        exact isName_of_component filled whole found
    | rootDir | curDir | parentDir => exact absurd named (by simp)

end Captured

/-- An assembled response has the builder's status or is the fallback. -/
theorem assemble_status_ne {builder : ResponseBuilder} (different : builder.status ≠ .forbidden)
    (contentType : Str) (body : Bytes) (contentLength : Nat) :
    (builder.assemble contentType body contentLength).status ≠ .forbidden := by
  unfold ResponseBuilder.assemble
  dsimp only
  split
  · exact different
  · simp [ResponseBuilder.fallback]

/-- No I/O error is answered with 403. -/
theorem ioErrorResponse_status (error : IoError) : (ioErrorResponse error).status ≠ .forbidden := by
  cases error <;> exact assemble_status_ne (by decide) _ _ _

/-- An opened path is the only call of its opening. -/
theorem run_openResolved (fs : FileSystem) (filePath : Str) (calls : List FsCall) :
    openResolved filePath fs calls =
      ((fs.run (openResolved filePath)).1, calls ++ [.openFile filePath]) := rfl

/-- The opening decides the response. -/
theorem openResolved_response (fs : FileSystem) (filePath : Str) :
    (fs.run (openResolved filePath)).1 =
      match fs.openFile filePath with
      | .error error => ioErrorResponse error
      | .ok file => streamFile filePath file := rfl

/-- No opened path is answered with 403. -/
theorem openResolved_status (fs : FileSystem) (filePath : Str) :
    (fs.run (openResolved filePath)).1.status ≠ .forbidden := by
  rw [openResolved_response]
  split
  · exact ioErrorResponse_status _
  · unfold streamFile
    split
    · exact assemble_status_ne (by decide) _ _ _
    · exact assemble_status_ne (by decide) _ _ _

/-- The file that the metadata of the target select. -/
def selected (target : Str) (isDir : Bool) : Str :=
  if isDir then UnixPath.push target "index.html".toList else target

/-- A refused path is answered without a call. -/
theorem run_serveFile_refused (fs : FileSystem) (baseDir : Str) {reqPath : Str}
    (refused : sanitizePath reqPath = none) :
    fs.run (serveFile baseDir reqPath) = (forbidden, []) := by
  rw [FileSystem.run, serveFile, refused]
  rfl

/-- An accepted path is looked up, and what its metadata select is opened. -/
theorem run_serveFile (fs : FileSystem) (baseDir : Str) {reqPath safePath : Str}
    (accepted : sanitizePath reqPath = some safePath) :
    fs.run (serveFile baseDir reqPath) =
      match fs.isDir (UnixPath.push baseDir safePath) with
      | .error error => (ioErrorResponse error, [.metadata (UnixPath.push baseDir safePath)])
      | .ok isDir =>
          ((fs.run (openResolved (selected (UnixPath.push baseDir safePath) isDir))).1,
            [.metadata (UnixPath.push baseDir safePath),
              .openFile (selected (UnixPath.push baseDir safePath) isDir)]) := by
  rw [FileSystem.run, serveFile, accepted]
  dsimp only [metadata, Action.bind_apply]
  cases fs.isDir (UnixPath.push baseDir safePath) with
  | error error => rfl
  | ok isDir => exact run_openResolved fs _ _

/-- A file that is not refused is looked up, and its answer is no 403. -/
theorem serveFile_of_accepted (fs : FileSystem) (baseDir : Str) {reqPath safePath : Str}
    (accepted : sanitizePath reqPath = some safePath) :
    (fs.run (serveFile baseDir reqPath)).1.status ≠ .forbidden ∧
      (fs.run (serveFile baseDir reqPath)).2 ≠ [] ∧
      ∀ call ∈ (fs.run (serveFile baseDir reqPath)).2,
        call.path = UnixPath.push baseDir safePath ∨
        call.path = UnixPath.push (UnixPath.push baseDir safePath) "index.html".toList := by
  rw [run_serveFile fs baseDir accepted]
  cases fs.isDir (UnixPath.push baseDir safePath) with
  | error error =>
      refine ⟨ioErrorResponse_status error, List.cons_ne_nil _ _, ?_⟩
      intro call member
      rw [List.mem_singleton.mp member]
      exact .inl rfl
  | ok isDir =>
      refine ⟨openResolved_status fs _, List.cons_ne_nil _ _, ?_⟩
      intro call member
      rcases List.mem_cons.mp member with first | second
      · rw [first]
        exact .inl rfl
      · rw [List.mem_singleton.mp second]
        cases isDir
        · exact .inl rfl
        · exact .inr rfl

/-- Two file systems answer a call alike. -/
def FileSystem.AgreeAt (fs other : FileSystem) : FsCall → Prop
  | .metadata path => fs.isDir path = other.isDir path
  | .openFile path => fs.openFile path = other.openFile path

/-- Nothing but the listed calls is read. -/
theorem run_serveFile_congr {fs other : FileSystem} {baseDir reqPath : Str}
    (agree : ∀ call ∈ (fs.run (serveFile baseDir reqPath)).2, fs.AgreeAt other call) :
    other.run (serveFile baseDir reqPath) = fs.run (serveFile baseDir reqPath) := by
  cases sanitized : sanitizePath reqPath with
  | none => rw [run_serveFile_refused _ _ sanitized, run_serveFile_refused _ _ sanitized]
  | some safePath =>
      rw [run_serveFile _ _ sanitized] at agree ⊢
      rw [run_serveFile _ _ sanitized]
      cases looked : fs.isDir (UnixPath.push baseDir safePath) with
      | error error =>
          rw [looked] at agree
          have same := agree _ List.mem_cons_self
          rw [FileSystem.AgreeAt, looked] at same
          rw [← same]
      | ok isDir =>
          rw [looked] at agree
          have same := agree _ List.mem_cons_self
          have opened := agree _ (List.mem_cons_of_mem _ List.mem_cons_self)
          rw [FileSystem.AgreeAt, looked] at same
          rw [FileSystem.AgreeAt] at opened
          rw [← same]
          dsimp only
          rw [openResolved_response, openResolved_response, opened]

/-- A relative path is pushed below the base. -/
theorem starts_push {base path : Str} (relative : path.head? ≠ some '/') :
    base <+: UnixPath.push base path := by
  rw [UnixPath.push, if_neg relative]
  split
  · exact List.prefix_append _ _
  · exact List.prefix_append _ _

/-- The paths of an accepted file extend the base directory by its names. -/
theorem contained_of_accepted (fs : FileSystem) (baseDir : Str) {reqPath safePath : Str}
    {names : List Str} (accepted : sanitizePath reqPath = some safePath)
    (parts : components safePath = names.map .normal) :
    ∀ call ∈ (fs.run (serveFile baseDir reqPath)).2, baseDir <+: call.path ∧
      (components call.path = components baseDir ++ names.map .normal ∨
        components call.path =
          components baseDir ++ (names ++ ["index.html".toList]).map .normal) := by
  obtain ⟨relative, noDot⟩ := relative_of_components parts
  have target : components (UnixPath.push baseDir safePath) =
      components baseDir ++ names.map .normal := by
    rw [components_push relative noDot, parts]
  have index : IsName "index.html".toList := by
    refine ⟨by decide, by decide, by decide, by decide⟩
  obtain ⟨single, indexRelative, indexNoDot⟩ := components_of_isName index
  intro call member
  rcases (serveFile_of_accepted fs baseDir accepted).2.2 call member with direct | below
  · rw [direct]
    exact ⟨starts_push relative, .inl target⟩
  · rw [below]
    refine ⟨(starts_push relative).trans (starts_push indexRelative), .inr ?_⟩
    rw [components_push indexRelative indexNoDot, target, single, List.map_append,
      List.append_assoc]
    rfl

/-- A captured path is refused for two dots, and otherwise reduced to its clean names. -/
theorem sanitizePath_static {path : Str} {params : PathParams}
    (matched : matchPath (parsePattern "/static/*filepath".toList) path = some params) :
    let captured := (params "filepath".toList).getD []
    let names := normalNames (components captured)
    (sanitizePath captured = none ↔ ['.', '.'] ∈ captured.splitOn '/') ∧
      (∀ name ∈ names, IsName name) ∧
      ∀ safePath, sanitizePath captured = some safePath →
        components safePath = names.map .normal := by
  obtain ⟨rest, clean, joined⟩ := capture_static matched
  rw [joined]
  intro captured names
  have namesClean (name : Str) (member : name ∈ names) : IsName name :=
    isName_of_captured clean member
  refine ⟨sanitizePath_captured_eq_none_iff clean, namesClean, ?_⟩
  intro safePath accepted
  have listed := components_of_sanitizeComponents namesClean accepted
  rwa [components_eq_nil_iff.mpr rfl, List.nil_append] at listed

/-- Every path that a static request touches lies below the base directory by clean names, nothing
else of the file system is read, and the request is refused untouched exactly when a captured
segment is two dots. -/
theorem static_contained (fs : FileSystem) (baseDir path : Str) (params : PathParams)
    (matched : matchPath (parsePattern "/static/*filepath".toList) path = some params) :
    let captured := (params "filepath".toList).getD []
    let served := fs.run (serveFile baseDir captured)
    (∃ names, (∀ name ∈ names, IsName name) ∧
      ∀ call ∈ served.2, baseDir <+: call.path ∧
        (components call.path = components baseDir ++ names.map .normal ∨
          components call.path =
            components baseDir ++ (names ++ ["index.html".toList]).map .normal)) ∧
    (∀ other : FileSystem, (∀ call ∈ served.2, fs.AgreeAt other call) →
      other.run (serveFile baseDir captured) = served) ∧
    (served.1.status = .forbidden ↔ ['.', '.'] ∈ captured.splitOn '/') ∧
    (served.2 = [] ↔ ['.', '.'] ∈ captured.splitOn '/') := by
  obtain ⟨refusedIff, namesClean, parts⟩ := sanitizePath_static matched
  intro captured served
  have readOnly (other : FileSystem) (agree : ∀ call ∈ served.2, fs.AgreeAt other call) :
      other.run (serveFile baseDir captured) = served := run_serveFile_congr agree
  cases sanitized : sanitizePath captured with
  | none =>
      have answer : served = (forbidden, []) := run_serveFile_refused fs baseDir sanitized
      have dots := refusedIff.mp sanitized
      refine ⟨⟨[], by simp, by simp [answer]⟩, readOnly, ?_, ?_⟩
      · rw [answer]
        exact iff_of_true (by decide) dots
      · rw [answer]
        exact iff_of_true rfl dots
  | some safePath =>
      have noDots : ¬ ['.', '.'] ∈ captured.splitOn '/' := by
        rw [← refusedIff, sanitized]
        simp
      obtain ⟨allowed, touched, _⟩ := serveFile_of_accepted fs baseDir sanitized
      refine ⟨⟨normalNames (components captured), namesClean, ?_⟩, readOnly, ?_, ?_⟩
      · exact contained_of_accepted fs baseDir sanitized (parts safePath sanitized)
      · exact iff_of_false allowed noDots
      · exact iff_of_false touched noDots

/-- A nested style sheet is looked up and opened below the base directory, and what the rest of the
disk holds does not matter. -/
theorem static_contained_style :
    let fs : FileSystem := ⟨fun _ => .ok false, fun _ => .error .notFound⟩
    let other : FileSystem := ⟨fun path => if path = "./static/css/style.css".toList then .ok false
      else .error .other, fun _ => .error .notFound⟩
    ∃ params, matchPath (parsePattern "/static/*filepath".toList)
        "/static/css/./style.css".toList = some params ∧
      let served := fs.run (serveFile "./static".toList ((params "filepath".toList).getD []))
      served.2 = [.metadata "./static/css/style.css".toList,
        .openFile "./static/css/style.css".toList] ∧
      served.1.status ≠ .forbidden ∧
      other.run (serveFile "./static".toList ((params "filepath".toList).getD [])) = served := by
  intro fs other
  have capture : ∃ params, matchPath (parsePattern "/static/*filepath".toList)
      "/static/css/./style.css".toList = some params ∧
      (params "filepath".toList).getD [] = "css/./style.css".toList := ⟨_, rfl, by decide⟩
  obtain ⟨params, matched, captured⟩ := capture
  obtain ⟨_, readOnly, refused, _⟩ := static_contained fs "./static".toList
    "/static/css/./style.css".toList params matched
  rw [captured] at readOnly refused
  refine ⟨params, matched, ?_⟩
  rw [captured]
  intro served
  have accepted : sanitizePath "css/./style.css".toList = some "css/style.css".toList := by decide
  have calls : served.2 = [.metadata "./static/css/style.css".toList,
      .openFile "./static/css/style.css".toList] := by
    have target : UnixPath.push "./static".toList "css/style.css".toList =
        "./static/css/style.css".toList := by decide
    simp only [served]
    rw [run_serveFile fs _ accepted, target]
    rfl
  refine ⟨calls, ?_, readOnly other ?_⟩
  · rw [Ne, refused]
    decide
  · intro call member
    have listed : call ∈ served.2 := member
    rw [calls] at listed
    rcases List.mem_cons.mp listed with rfl | opened
    · simp only [FileSystem.AgreeAt, fs, other, if_true]
    · rw [List.mem_singleton.mp opened]
      rfl

end StaticFiles

end HighperfServer
