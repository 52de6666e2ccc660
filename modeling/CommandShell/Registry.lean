import CommandShell.Command
import CommandShell.Table
import CommandShell.Text

/-!
# Sources and registries

A registry adds the handlers of one source after another.  A source that cannot be had is
logged and passed over.
-/

namespace CommandShell

inductive Source where
  | inProcess
  | external (module : String)
  deriving DecidableEq, Repr

def Source.shown : Source → String
  | .inProcess => "<in-process>"
  | .external module => module

def Source.ofSettings (settings : Settings) : List Source :=
  .inProcess :: settings.commandSources.map .external

abbrev Factory := Settings → Except Failure (List Handler)

inductive SourceError where
  | notFound (module : String)
  | load (module : String) (cause : Failure)
  | emptyName
  deriving DecidableEq, Repr

namespace SourceError

def message : SourceError → String
  | notFound module =>
    "Command source '" ++ module ++
      "' not found (is the crate linked into this executable?)"
  | load module cause =>
    "Command source '" ++ module ++ "' failed to load: " ++ cause.message
  | emptyName => "Command source name must not be empty"

def module? : SourceError → Option String
  | notFound module => some module
  | load module _ => some module
  | emptyName => none

def cause? : SourceError → Option Failure
  | load _ cause => some cause
  | _ => none

end SourceError

/-- The external sources that can be found, by module.  Of two entries for one
module the later counts. -/
structure Catalog where
  entries : List (String × Factory)

namespace Catalog

def find? (catalog : Catalog) (module : String) : Option Factory :=
  (catalog.entries.reverse.find? fun entry => entry.1 = module).map Prod.snd

/-- The factory of a module.  A module needs a name, even if there is an entry
without one. -/
def resolve (catalog : Catalog) (module : String) : Except SourceError Factory :=
  if module.isEmpty then .error .emptyName
  else match catalog.find? module with
    | some factory => .ok factory
    | none => .error (.notFound module)

def promptModule : String := "repl-custom-commands"

def linked : Catalog :=
  ⟨[(promptModule, fun _ => .ok [Prompt.handler])]⟩

def modules (catalog : Catalog) : List String :=
  catalog.entries.map Prod.fst

def describe (module : String) : String :=
  "CommandSource \x7b module: " ++ Text.quoted module ++ " \x7d"

end Catalog

def Source.handlers (settings : Settings) (catalog : Catalog) :
    Source → Except SourceError (List Handler)
  | .inProcess => .ok (Builtin.handlers settings)
  | .external module =>
    match catalog.resolve module with
    | .error error => .error error
    | .ok factory =>
      match factory settings with
      | .error failure => .error (.load module failure)
      | .ok handlers => .ok handlers

/-! ## Registries -/

structure Registry where
  settings : Settings
  catalog : Catalog
  table : Table := .empty
  log : List LogRecord := []

namespace Registry

def note (registry : Registry) (record : LogRecord) : Registry :=
  { registry with log := registry.log ++ [record] }

def add (registry : Registry) (handler : Handler) : Registry :=
  let (replaced, table) := registry.table.insert handler
  { registry with
    table := table
    log := registry.log ++
      [.addingCommand handler.name, Table.insertionRecord handler replaced] }

def addAll (registry : Registry) (handlers : List Handler) : Registry :=
  handlers.foldl add registry

/-- Adds the handlers of a source.  The answer is their number, or why the source
cannot be had. -/
def tryLoad (registry : Registry) (source : Source) : Except SourceError Nat × Registry :=
  match source.handlers registry.settings registry.catalog with
  | .error error => (.error error, registry)
  | .ok handlers => (.ok handlers.length, registry.addAll handlers)

def load (registry : Registry) (source : Source) : Registry :=
  match registry.tryLoad source with
  | (.ok count, loaded) => loaded.note (.sourceLoaded source.shown count)
  | (.error error, same) => same.note (.sourceFailed source.shown error.message)

/-- Adds the handlers of every source of the settings. -/
def loadAll (registry : Registry) : Registry :=
  (Source.ofSettings registry.settings).foldl load registry

end Registry

end CommandShell
