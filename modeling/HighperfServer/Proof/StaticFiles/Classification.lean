import HighperfServer.Library.FileTree
import HighperfServer.Proof.Http.Response
import HighperfServer.Proof.StaticFiles

namespace HighperfServer
open Library UnixPath

namespace StaticFiles

/-- The server tells a missing entry from every other error. -/
def walkError : FileTree.WalkError → IoError
  | .notFound => .notFound
  | .notADirectory => .other

/-- The names of a path below the base directory. -/
def namesBelow (baseDir path : Str) : Option (List Str) :=
  ((components baseDir).isPrefixOf? (components path)).bind fun parts =>
    parts.mapM fun part => match part with
      | .normal name => some name
      | _ => none

/-- The operating system walks the tree that is mounted at the base directory. The empty path names
nothing. -/
def walkPath (tree : FileTree) (baseDir path : Str) : Except IoError FileTree :=
  if path = [] then .error .notFound
  else
    match namesBelow baseDir path with
    | none => .error .notFound
    | some names => (tree.walk names).mapError walkError

/-- A regular file opens with its content. A directory cannot be read, and the system either opens
it with a size of its own or refuses to. -/
def openNode (directorySize : Option Nat) : FileTree → Except IoError OpenFile
  | .file content => .ok ⟨.ok content.length, content⟩
  | .directory _ =>
      match directorySize with
      | some size => .ok ⟨.ok size, []⟩
      | none => .error .other

/-- The file system of a tree of readable files and directories without links. -/
def FileSystem.ofTree (directorySize : Option Nat) (tree : FileTree) (baseDir : Str) : FileSystem where
  isDir path :=
    match walkPath tree baseDir path with
    | .error error => .error error
    | .ok (.file _) => .ok false
    | .ok (.directory _) => .ok true
  openFile path :=
    match walkPath tree baseDir path with
    | .error error => .error error
    | .ok node => openNode directorySize node

/-- The content of the regular file at the end of a walk. -/
def fileContent : Except FileTree.WalkError FileTree → Option Bytes
  | .ok (.file content) => some content
  | _ => none

/-- The content that a path stands for: its file, or the index of its directory. -/
def resolved (tree : FileTree) (names : List Str) : Option Bytes :=
  match tree.walk names with
  | .ok (.directory _) => fileContent (tree.walk (names ++ ["index.html".toList]))
  | outcome => fileContent outcome

/-- The response is a 200 with the content and its length, or a 404 when there is none. -/
def Classifies (content : Option Bytes) (response : HttpResponse) : Prop :=
  match content with
  | some content => response.status = .ok ∧ response.body = content ∧
      response.headers.getAll "content-length".toList = [Utf8.encode (decimal content.length)]
  | none => response.status = .notFound

/-- The path runs through no regular file, and the index of its directory is no directory. The empty
path of an empty base directory stands for nothing. -/
def Ordinary (tree : FileTree) (baseDir : Str) (names : List Str) : Prop :=
  if baseDir = [] ∧ names = [] then resolved tree names = none
  else ¬ tree.ThroughFile names ∧
    ∀ entries inner, tree.walk names = .ok (.directory entries) →
      tree.walk (names ++ ["index.html".toList]) ≠ .ok (.directory inner)

section Paths
variable {tree : FileTree} {baseDir path : Str} {names : List Str}

/-- The names below the base are the components past it. -/
theorem namesBelow_of_components (parts : components path = components baseDir ++ names.map .normal) :
    namesBelow baseDir path = some names := by
  have below : (components baseDir).isPrefixOf? (components path) = some (names.map .normal) :=
    List.isPrefixOf?_eq_some_iff_append_eq.mpr parts.symm
  rw [namesBelow, below, Option.bind_some]
  clear parts below
  induction names with
  | nil => rfl
  | cons name rest ih => simp [ih]

/-- A path below the base walks the tree by its names. -/
theorem walkPath_of_components (filled : path ≠ [])
    (parts : components path = components baseDir ++ names.map .normal) :
    walkPath tree baseDir path = (tree.walk names).mapError walkError := by
  rw [walkPath, if_neg filled, namesBelow_of_components parts]

end Paths

/-- Every media type is a valid header value. -/
theorem validHeaderValue_fromPath (path : Str) : validHeaderValue (fromPath path) = true := by
  have table : (mimeTypes.all fun entry => validHeaderValue entry.2) = true := by
    decide +kernel
  rw [fromPath]
  cases found : (extension path).bind fun name => mimeTypes.lookup name with
  | none => decide
  | some value =>
      obtain ⟨name, _, listed⟩ := Option.bind_eq_some_iff.mp found
      obtain ⟨before, after, split, _⟩ := List.lookup_eq_some_iff.mp listed
      exact List.all_eq_true.mp table (name, value) (by simp [split])

/-- An opened file is a 200 with the declared size and the content. -/
theorem streamFile_eq (filePath : Str) (size : Nat) (content : Bytes) :
    streamFile filePath ⟨.ok size, content⟩ =
      ⟨.ok, defaultFields (fromPath filePath) size, content⟩ := by
  have assembled := assemble_of_valid .ok [] content size (validHeaderValue_fromPath filePath)
  rwa [List.map_nil, List.append_nil] at assembled

theorem ioErrorResponse_notFound : (ioErrorResponse .notFound).status = .notFound := by
  decide +kernel

theorem ioErrorResponse_other : (ioErrorResponse .other).status ≠ .notFound := by
  decide +kernel

/-- A failed walk is classified unless it runs through a regular file. -/
theorem classifies_walkError_iff (error : FileTree.WalkError) :
    Classifies none (ioErrorResponse (walkError error)) ↔ error ≠ .notADirectory := by
  cases error with
  | notFound => exact iff_of_true ioErrorResponse_notFound (by simp)
  | notADirectory => exact iff_of_false ioErrorResponse_other (by simp)

/-- An opened path is classified unless the walk runs through a regular file or ends at a directory. -/
theorem classifies_openResolved_iff (directorySize : Option Nat) {tree : FileTree}
    {baseDir filePath : Str} {outcome : Except FileTree.WalkError FileTree}
    (walked : walkPath tree baseDir filePath = outcome.mapError walkError) :
    Classifies (fileContent outcome)
        ((FileSystem.ofTree directorySize tree baseDir).run (openResolved filePath)).1 ↔
      outcome ≠ .error .notADirectory ∧ ∀ entries, outcome ≠ .ok (.directory entries) := by
  cases outcome with
  | error error =>
      have response : ((FileSystem.ofTree directorySize tree baseDir).run (openResolved filePath)).1 =
          ioErrorResponse (walkError error) := by
        simp only [openResolved_response, FileSystem.ofTree, walked, Except.mapError]
      rw [response]
      dsimp only [fileContent]
      rw [classifies_walkError_iff]
      simp
  | ok node =>
      cases node with
      | file content =>
          have response : ((FileSystem.ofTree directorySize tree baseDir).run (openResolved filePath)).1 =
              streamFile filePath ⟨.ok content.length, content⟩ := by
            simp only [openResolved_response, FileSystem.ofTree, walked, Except.mapError, openNode]
          rw [response, streamFile_eq]
          exact iff_of_true ⟨rfl, rfl, rfl⟩ (by simp)
      | directory entries =>
          apply iff_of_false _ (by simp)
          show ((FileSystem.ofTree directorySize tree baseDir).run (openResolved filePath)).1.status ≠ .notFound
          cases directorySize with
          | none =>
              have response : ((FileSystem.ofTree none tree baseDir).run (openResolved filePath)).1 =
                  ioErrorResponse .other := by
                simp only [openResolved_response, FileSystem.ofTree, walked, Except.mapError, openNode]
              rw [response]
              exact ioErrorResponse_other
          | some size =>
              have response : ((FileSystem.ofTree (some size) tree baseDir).run (openResolved filePath)).1 =
                  streamFile filePath ⟨.ok size, []⟩ := by
                simp only [openResolved_response, FileSystem.ofTree, walked, Except.mapError, openNode]
              rw [response, streamFile_eq]
              simp

section Serve
variable {baseDir reqPath safePath : Str} {names : List Str}

/-- The served path and its index walk to the names and to the index below them. -/
theorem walkPath_served (tree : FileTree) (parts : components safePath = names.map .normal)
    (named : ¬ (baseDir = [] ∧ names = [])) :
    walkPath tree baseDir (push baseDir safePath) = (tree.walk names).mapError walkError ∧
      walkPath tree baseDir (push (push baseDir safePath) "index.html".toList) =
        (tree.walk (names ++ ["index.html".toList])).mapError walkError := by
  obtain ⟨relative, noDot⟩ := relative_of_components parts
  have clean : IsName "index.html".toList := by
    refine ⟨by decide, by decide, by decide, by decide⟩
  obtain ⟨single, indexRelative, indexNoDot⟩ := components_of_isName clean
  have target : components (push baseDir safePath) = components baseDir ++ names.map .normal := by
    rw [components_push relative noDot, parts]
  have index : components (push (push baseDir safePath) "index.html".toList) =
      components baseDir ++ (names ++ ["index.html".toList]).map .normal := by
    rw [components_push indexRelative indexNoDot, target, single]
    simp
  have safeEmpty : safePath = [] ↔ names = [] := by
    rw [← components_eq_nil_iff, parts, List.map_eq_nil_iff]
  constructor
  · apply walkPath_of_components _ target
    rw [ne_eq, push_eq_nil_iff, safeEmpty]
    exact named
  · apply walkPath_of_components _ index
    rw [ne_eq, push_eq_nil_iff]
    simp

/-- The walk to the served path decides which file is opened. -/
theorem serveFile_walked (directorySize : Option Nat) {tree : FileTree}
    (accepted : sanitizePath reqPath = some safePath)
    (reached : walkPath tree baseDir (push baseDir safePath) =
      (tree.walk names).mapError walkError) :
    ((FileSystem.ofTree directorySize tree baseDir).run (serveFile baseDir reqPath)).1 =
      match tree.walk names with
      | .error error => ioErrorResponse (walkError error)
      | .ok (.file _) =>
          ((FileSystem.ofTree directorySize tree baseDir).run
            (openResolved (push baseDir safePath))).1
      | .ok (.directory _) =>
          ((FileSystem.ofTree directorySize tree baseDir).run
            (openResolved (push (push baseDir safePath) "index.html".toList))).1 := by
  have looked : (FileSystem.ofTree directorySize tree baseDir).isDir (push baseDir safePath) =
      match (tree.walk names).mapError walkError with
      | .error error => .error error
      | .ok (.file _) => .ok false
      | .ok (.directory _) => .ok true := by
    rw [← reached]
    rfl
  rw [run_serveFile _ _ accepted, looked]
  cases tree.walk names with
  | error error => rfl
  | ok node => cases node <;> rfl

/-- A path that names something is classified unless it runs through a regular file or its index is
a directory. -/
theorem classifies_serveFile_iff (directorySize : Option Nat) (tree : FileTree)
    (accepted : sanitizePath reqPath = some safePath)
    (parts : components safePath = names.map .normal) (named : ¬ (baseDir = [] ∧ names = [])) :
    Classifies (resolved tree names)
        ((FileSystem.ofTree directorySize tree baseDir).run (serveFile baseDir reqPath)).1 ↔
      ¬ tree.ThroughFile names ∧
        ∀ entries inner, tree.walk names = .ok (.directory entries) →
          tree.walk (names ++ ["index.html".toList]) ≠ .ok (.directory inner) := by
  obtain ⟨target, index⟩ := walkPath_served tree parts named
  rw [serveFile_walked directorySize accepted target, ← FileTree.walk_eq_notADirectory_iff, resolved]
  cases walked : tree.walk names with
  | error error =>
      dsimp only [fileContent]
      rw [classifies_walkError_iff]
      simp
  | ok node =>
      cases node with
      | file content =>
          rw [walked] at target
          have opened := classifies_openResolved_iff directorySize target
          exact iff_of_true (opened.mpr (by simp)) (by simp)
      | directory entries =>
          have entered : tree.walk (names ++ ["index.html".toList]) ≠ .error .notADirectory := by
            rw [FileTree.walk_append, walked]
            simp only [FileTree.walk, FileTree.entry]
            cases entries.lookup "index.html".toList <;> simp
          have opened := classifies_openResolved_iff directorySize index
          constructor
          · intro classified
            exact ⟨by simp, fun _ inner _ => (opened.mp classified).2 inner⟩
          · rintro ⟨_, regular⟩
            exact opened.mpr ⟨entered, fun inner => regular entries inner rfl⟩

/-- The empty path of an empty base directory is a 404. -/
theorem serveFile_unnamed (directorySize : Option Nat) (tree : FileTree)
    (accepted : sanitizePath reqPath = some []) :
    ((FileSystem.ofTree directorySize tree []).run (serveFile [] reqPath)).1 =
      ioErrorResponse .notFound := by
  rw [run_serveFile _ _ accepted]
  rfl

end Serve

/-- A static path without two dots is answered by the file it stands for, or by a 404 when there is
none, exactly when it is ordinary. -/
theorem classifies_iff_ordinary (directorySize : Option Nat) (entries : List (Str × FileTree))
    (baseDir path : Str) (params : PathParams)
    (matched : matchPath (parsePattern "/static/*filepath".toList) path = some params)
    (noParent : ['.', '.'] ∉ ((params "filepath".toList).getD []).splitOn '/') :
    let captured := (params "filepath".toList).getD []
    let names := normalNames (components captured)
    let tree := FileTree.directory entries
    Classifies (resolved tree names)
        ((FileSystem.ofTree directorySize tree baseDir).run (serveFile baseDir captured)).1 ↔
      Ordinary tree baseDir names := by
  obtain ⟨refusedIff, _, listed⟩ := sanitizePath_static matched
  intro captured names tree
  obtain ⟨safePath, accepted⟩ := Option.ne_none_iff_exists'.mp (mt refusedIff.mp noParent)
  have parts : components safePath = names.map .normal := listed safePath accepted
  by_cases unnamed : baseDir = [] ∧ names = []
  · rw [Ordinary, if_pos unnamed]
    obtain ⟨rfl, nameless⟩ := unnamed
    rw [nameless, List.map_nil, components_eq_nil_iff] at parts
    subst parts
    rw [serveFile_unnamed directorySize tree accepted]
    cases found : resolved tree names with
    | none => exact iff_of_true ioErrorResponse_notFound rfl
    | some content =>
        apply iff_of_false _ (by simp)
        rintro ⟨success, _⟩
        rw [ioErrorResponse_notFound] at success
        exact absurd success (by decide)
  · rw [Ordinary, if_neg unnamed]
    exact classifies_serveFile_iff directorySize tree accepted parts unnamed

/-- A directory with an index page is classified as that page. -/
theorem classifies_iff_ordinary_index :
    ∃ params, matchPath (parsePattern "/static/*filepath".toList) "/static/docs".toList = some params ∧
      ['.', '.'] ∉ ((params "filepath".toList).getD []).splitOn '/' ∧
      let tree := FileTree.directory [("docs".toList, .directory
        [("index.html".toList, .file [104, 105])])]
      Classifies (some [104, 105]) ((FileSystem.ofTree (some 4096) tree "./static".toList).run
        (serveFile "./static".toList ((params "filepath".toList).getD []))).1 := by
  have capture : ∃ params, matchPath (parsePattern "/static/*filepath".toList)
      "/static/docs".toList = some params ∧ (params "filepath".toList).getD [] = "docs".toList :=
    ⟨_, rfl, by decide⟩
  obtain ⟨params, matched, captured⟩ := capture
  have noParent : ['.', '.'] ∉ ((params "filepath".toList).getD []).splitOn '/' := by
    rw [captured]
    decide
  refine ⟨params, matched, noParent, ?_⟩
  intro tree
  have classified := classifies_iff_ordinary (some 4096) [("docs".toList, .directory
    [("index.html".toList, .file [104, 105])])] "./static".toList "/static/docs".toList params
    matched noParent
  have names : normalNames (components "docs".toList) = ["docs".toList] := by decide
  have content : resolved tree ["docs".toList] = some [104, 105] := by decide
  have found : tree.walk ["docs".toList] =
      .ok (.directory [("index.html".toList, .file [104, 105])]) := rfl
  have index : tree.walk (["docs".toList] ++ ["index.html".toList]) = .ok (.file [104, 105]) := rfl
  have ordinary : Ordinary tree "./static".toList ["docs".toList] := by
    rw [Ordinary, if_neg (by decide), ← FileTree.walk_eq_notADirectory_iff, found, index]
    simp
  rw [captured] at classified ⊢
  dsimp only at classified
  rw [names] at classified
  rw [← content]
  exact classified.mpr ordinary

/-- A path below a regular file is a server error, though the tree has no such file. -/
theorem below_file_fails :
    ∃ params, matchPath (parsePattern "/static/*filepath".toList) "/static/a/b".toList = some params ∧
      let captured := (params "filepath".toList).getD []
      let tree := FileTree.directory [("a".toList, .file [104, 105])]
      let response := ((FileSystem.ofTree (some 4096) tree "./static".toList).run
        (serveFile "./static".toList captured)).1
      ['.', '.'] ∉ captured.splitOn '/' ∧
        response.status = .internalServerError ∧
        ¬ Classifies (resolved tree (normalNames (components captured))) response := by
  have capture : ∃ params, matchPath (parsePattern "/static/*filepath".toList)
      "/static/a/b".toList = some params ∧ (params "filepath".toList).getD [] = "a/b".toList :=
    ⟨_, rfl, by decide⟩
  obtain ⟨params, matched, captured⟩ := capture
  refine ⟨params, matched, ?_⟩
  rw [captured]
  intro _ tree response
  have status : response.status = .internalServerError := by decide +kernel
  have none : resolved tree (normalNames (components "a/b".toList)) = none := by decide
  refine ⟨by decide, status, ?_⟩
  rw [none]
  show response.status ≠ .notFound
  rw [status]
  decide

end StaticFiles

end HighperfServer
