import HighperfServer.Construction.Http.Response
import HighperfServer.Library.Action
import HighperfServer.Library.UnixPath

namespace HighperfServer
open Library

namespace StaticFiles

inductive IoError where
  | notFound
  | other
  deriving DecidableEq, Repr

structure OpenFile where
  size : Except IoError Nat
  content : Bytes

structure FileSystem where
  isDir : Str → Except IoError Bool
  openFile : Str → Except IoError OpenFile

inductive FsCall where
  | metadata (path : Str)
  | openFile (path : Str)
  deriving DecidableEq, Repr

def FsCall.path : FsCall → Str
  | .metadata path => path
  | .openFile path => path

/-- A computation asks the file system and keeps the list of its calls. -/
abbrev FsAction := Action FileSystem (List FsCall)

def metadata (path : Str) : FsAction (Except IoError Bool) := fun fs calls =>
  (fs.isDir path, calls ++ [.metadata path])

def openFile (path : Str) : FsAction (Except IoError OpenFile) := fun fs calls =>
  (fs.openFile path, calls ++ [.openFile path])

def FileSystem.run {A : Type} (fs : FileSystem) (action : FsAction A) : A × List FsCall :=
  action fs []

def mimeTypes : List (Str × Str) :=
  [("html".toList, "text/html; charset=utf-8".toList),
    ("htm".toList, "text/html; charset=utf-8".toList),
    ("css".toList, "text/css; charset=utf-8".toList),
    ("js".toList, "application/javascript; charset=utf-8".toList),
    ("mjs".toList, "application/javascript; charset=utf-8".toList),
    ("json".toList, "application/json".toList),
    ("png".toList, "image/png".toList),
    ("jpg".toList, "image/jpeg".toList),
    ("jpeg".toList, "image/jpeg".toList),
    ("gif".toList, "image/gif".toList),
    ("svg".toList, "image/svg+xml".toList),
    ("ico".toList, "image/x-icon".toList),
    ("txt".toList, "text/plain; charset=utf-8".toList),
    ("md".toList, "text/plain; charset=utf-8".toList),
    ("pdf".toList, "application/pdf".toList),
    ("wasm".toList, "application/wasm".toList),
    ("xml".toList, "application/xml; charset=utf-8".toList),
    ("webp".toList, "image/webp".toList),
    ("mp4".toList, "video/mp4".toList),
    ("mp3".toList, "audio/mpeg".toList),
    ("ogg".toList, "audio/ogg".toList),
    ("webm".toList, "video/webm".toList),
    ("ttf".toList, "font/ttf".toList),
    ("otf".toList, "font/ttf".toList),
    ("woff".toList, "font/woff".toList),
    ("woff2".toList, "font/woff2".toList),
    ("zip".toList, "application/zip".toList)]

def fromPath (path : Str) : Str :=
  ((UnixPath.extension path).bind fun name => mimeTypes.lookup name).getD "application/octet-stream".toList

/-- The loop of `sanitize_path` keeps names, skips dots and rejects everything else. -/
def sanitizeComponents (result : Str) : List UnixPath.Component → Option Str
  | [] => some result
  | .normal name :: rest => sanitizeComponents (UnixPath.push result name) rest
  | .curDir :: rest => sanitizeComponents result rest
  | _ :: _ => none

def sanitizePath (path : Str) : Option Str := sanitizeComponents [] (UnixPath.components path)

def forbidden : HttpResponse := (ResponseBuilder.new .forbidden).text "403 Forbidden\n".toList

def ioErrorResponse : IoError → HttpResponse
  | .notFound => ResponseBuilder.notFound.text "404 Not Found\n".toList
  | .other => ResponseBuilder.internalError.text "500 Internal Server Error\n".toList

def streamFile (filePath : Str) (file : OpenFile) : HttpResponse :=
  match file.size with
  | .error _ => ResponseBuilder.internalError.text "500 Internal Server Error\n".toList
  | .ok size => ResponseBuilder.okStatus.streamBody (fromPath filePath) file.content size

def openResolved (filePath : Str) : FsAction HttpResponse := do
  let opened ← openFile filePath
  return match opened with
    | .error error => ioErrorResponse error
    | .ok file => streamFile filePath file

def serveFile (baseDir reqPath : Str) : FsAction HttpResponse :=
  match sanitizePath reqPath with
  | none => pure forbidden
  | some safePath => do
      let target := UnixPath.push baseDir safePath
      let looked ← metadata target
      match looked with
      | .error error => return ioErrorResponse error
      | .ok isDir =>
          let filePath := if isDir then UnixPath.push target "index.html".toList else target
          openResolved filePath

end StaticFiles

end HighperfServer
