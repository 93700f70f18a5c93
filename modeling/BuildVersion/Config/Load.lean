import BuildVersion.Config.Table
import BuildVersion.Files.Tree
import BuildVersion.Toml.Document

namespace BuildVersion.Config

/-- A file that gives no configuration, with a hint where one helps. -/
structure LoadError where
  message : String
  path : Files.Path
  hint : Option String := none
  deriving DecidableEq, Repr

/-- Where the structure of a file is described. -/
def structureHint : String := "see the [tool] and [endpoints] tables in the README"

def readBytes (files : Files.Tree) (path : Files.Path) : Outcome LoadError (List UInt8) :=
  match files.read path with
  | .ok bytes => .ok bytes
  | .error .notFound => .err { message := s!"Config file not found: {path.toString}", path }
  | .error .denied => .err { message := s!"Permission denied reading: {path.toString}", path }
  | .error cause => .aborted (.file cause)

def decode (path : Files.Path) (bytes : List UInt8) : Outcome LoadError String :=
  match Text.Utf8.decode bytes with
  | .ok text => .ok text
  | .error e => .err { message := s!"Error reading config: {e.message}", path }

def readTable (words : Words) (path : Files.Path) (text : String) :
    Outcome LoadError Settings.Table :=
  match Toml.parse text with
  | .ok entries =>
    match (Settings.Value.table entries).table? with
    | some table => .ok table
    | none => .err { message := "Config root must be a TOML table", path }
  | .err _ => .err { message := s!"Invalid TOML syntax: {words.document text}", path }
  | .aborted fault => .aborted fault

def structureError {α : Type} (path : Files.Path) (detail : String) : Outcome LoadError α :=
  .err { message := s!"Invalid config structure: {detail}", path, hint := some structureHint }

def readConfig (words : Words) (path : Files.Path) (table : Settings.Table) :
    Outcome LoadError Config :=
  let broken (cause : TemplateFault) := structureError path (words.template (templateOf table) cause)
  match ofTable table with
  | .ok config => .ok config
  | .err rejection => structureError path (rejection.message words)
  | .aborted (.template .malformed) => broken .malformed
  | .aborted (.template .notIndexable) => broken .notIndexable
  | .aborted (.template .unsupported) => broken .unsupported
  | .aborted fault => .aborted fault

/-- Loads the configuration in a file and applies the environment to it. -/
def load (files : Files.Tree) (path : Files.Path) (env : Environment) (words : Words := {}) :
    Outcome LoadError Config :=
  (readBytes files path).bind fun bytes =>
  (decode path bytes).bind fun text =>
  (readTable words path text).bind fun table =>
  (readConfig words path table).map fun config => config.withEnvironment env

/-- Loads a configuration, or takes the default one where there is no file or the file gives
none. -/
def loadOrDefault {ε : Type} (files : Files.Tree) (path : Option Files.Path) (env : Environment) :
    Outcome ε Config :=
  let standard := ({} : Config).withEnvironment env
  match path with
  | none => .ok standard
  | some path =>
    match load files path env with
    | .ok config => .ok config
    | .err _ => .ok standard
    | .aborted fault => .aborted fault

end BuildVersion.Config
