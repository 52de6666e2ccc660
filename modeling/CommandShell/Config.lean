import CommandShell.Config.Json
import CommandShell.Config.Toml
import CommandShell.Path
import CommandShell.Run

/-!
# Configurations

A configuration is a base file and, over it, the overlay for the environment.
-/

namespace CommandShell

inductive ConfigFormat where
  | toml
  | json
  deriving DecidableEq, Repr

inductive ConfigError where
  | unsupported (path : String)
  /-- The path that was asked for is no regular file. -/
  | notFound (path : String)
  | unreadable (path : String)
  | invalid (format : ConfigFormat)
  /-- As `invalid`, of the file at a path. -/
  | invalidFile (path : String) (format : ConfigFormat)
  deriving DecidableEq, Repr

namespace ConfigFormat

def extension : ConfigFormat → String
  | toml => "toml"
  | json => "json"

def shown : ConfigFormat → String
  | toml => "TOML"
  | json => "JSON"

def all : List ConfigFormat := [toml, json]

def ofExtension? (extension : String) : Option ConfigFormat :=
  all.find? fun format => extension.toLower = format.extension

def ofPath (path : String) : Except ConfigError ConfigFormat :=
  match (Path.extension? path).bind ofExtension? with
  | some format => .ok format
  | none => .error (.unsupported path)

end ConfigFormat

namespace ConfigError

def chain : ConfigError → List String
  | unsupported path =>
    ["unsupported configuration file '" ++ path ++ "' (expected .toml or .json)"]
  | notFound path => ["configuration file '" ++ path ++ "' not found"]
  | unreadable path => ["failed to read configuration file '" ++ path ++ "'"]
  | invalid format => ["invalid " ++ format.shown ++ " configuration"]
  | invalidFile path format =>
    ["failed to parse configuration file '" ++ path ++ "'",
      "invalid " ++ format.shown ++ " configuration"]

def message (error : ConfigError) : String :=
  String.intercalate ": " error.chain

end ConfigError

/-! ## Loading configurations -/

namespace Config

def parse (format : ConfigFormat) (content : String) : Except ConfigError Section :=
  let section? := match format with
    | .toml => (Toml.parse? content).bind Toml.configuration?
    | .json => (Json.parse? content).bind Json.configuration?
  match section? with
  | some found => .ok found
  | none => .error (.invalid format)

def content? (files : Files) (path : String) : Option String :=
  match files path with
  | .file bytes => String.fromUTF8? ⟨bytes.toArray⟩
  | _ => none

def ofFile (files : Files) (path : String) : Except ConfigError Section :=
  match ConfigFormat.ofPath path with
  | .error error => .error error
  | .ok format =>
    match content? files path with
    | none => .error (.unreadable path)
    | some content =>
      match parse format content with
      | .ok found => .ok found
      | .error _ => .error (.invalidFile path format)

def defaultStem : String := "appsettings"

/-- The default base files of a directory in the order in which they are
tried. -/
def defaultPaths (directory : String) : List String :=
  ConfigFormat.all.map fun format =>
    Path.join directory (defaultStem ++ "." ++ format.extension)

/-- The base file: the one that is asked for, or the first default that is a
file; none when there is no default. -/
def basePath (files : Files) (directory : String) :
    Option String → Except ConfigError (Option String)
  | some explicit =>
    let path := Path.join directory explicit
    if (files path).isFile then .ok (some path) else .error (.notFound path)
  | none => .ok ((defaultPaths directory).find? fun path => (files path).isFile)

/-- The overlay of a base file for an environment: `name.ext` becomes
`name.environment.ext`. -/
def overlayPath? (base environment : String) : Option String :=
  if environment.isEmpty then none
  else do
    let stem ← Path.stem? base
    let extension ← Path.extension? base
    return Path.withFileName base (stem ++ "." ++ environment ++ "." ++ extension)

def overlayFile? (files : Files) (base environment : String) : Option String :=
  (overlayPath? base environment).filter fun path => (files path).isFile

def candidates (directory : String) (explicit : Option String) (environment : String) :
    List String :=
  let bases := match explicit with
    | some path => [Path.join directory path]
    | none => defaultPaths directory
  bases ++ bases.filterMap fun base => overlayPath? base environment

/-- The configuration of a directory: the base file with its overlay over it. -/
def load (files : Files) (directory : String) (explicit : Option String)
    (environment : String) : Except ConfigError Section := do
  match ← basePath files directory explicit with
  | none => return Section.empty
  | some base =>
    let found ← ofFile files base
    match overlayFile? files base environment with
    | none => return found
    | some overlay => return found.overlay (← ofFile files overlay)

end Config

end CommandShell
