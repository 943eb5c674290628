import StoredRoutines.Catalog
import StoredRoutines.Path
import StoredRoutines.SortedMap

/-!
# Configurations

The settings of a run.

## Main definitions

- `LoaderConfig` — where the sources and the records are and how routines are created
- `Config` — all settings
- `Config.check` — the settings that are refused
-/

namespace StoredRoutines

/-- Where the sources and the records are, and how routines are created. -/
structure LoaderConfig where
  /-- The directory of the sources. -/
  sourceDirectory : Path
  /-- Patterns of the sources that are loaded. -/
  includePatterns : List String
  /-- Patterns of the sources that are left out. -/
  excludePatterns : List String
  /-- The file of the records. -/
  recordsPath : Path
  /-- The settings under which routines are created. -/
  session : SessionSettings
  /-- Whether the types of all columns are available as placeholders. -/
  columnTypePlaceholders : Bool
  deriving DecidableEq, Repr

/-- The settings of a run. -/
structure Config where
  /-- Where the database is. -/
  databaseUrl : String
  /-- The settings of the loader. -/
  loader : LoaderConfig
  /-- The constants that are available as placeholders. -/
  constants : SortedMap String
  /-- The least severity that is reported. -/
  logLevel : String
  deriving DecidableEq

/-- Why settings cannot be used. -/
inductive ConfigError where
  /-- The file cannot be read. -/
  | unreadable (path : Path)
  /-- The file does not hold settings. -/
  | malformed
  /-- The database is no MySQL database. -/
  | foreignDatabase
  /-- A setting of the session is blank. -/
  | blankSetting (name : String)
  /-- A constant has a name that no placeholder can have. -/
  | invalidConstant (name : String)
  deriving DecidableEq, Repr

/-- The wording of a cause. -/
def ConfigError.message : ConfigError → String
  | unreadable path => "Failed to read config file: " ++ path.text
  | malformed => "Failed to parse config file"
  | foreignDatabase => "database.url must start with 'mysql://'"
  | blankSetting name => "loader." ++ name ++ " must not be empty"
  | invalidConstant name =>
    "Invalid placeholder name: '" ++ name ++ "'. Names may contain letters, digits, '_' and '.'"

namespace Config

/-- The patterns of sources where none are given. -/
def defaultIncludePatterns : List String := ["**/*.psql"]

/-- The least severity that is reported where none is given. -/
def defaultLogLevel : String := "info"

/-- The beginning of the address of a MySQL database. -/
def urlStart : List Char := "mysql://".toList

/-- The characters of the name of a constant. -/
def isConstantChar (c : Char) : Bool :=
  c.isAlphanum || c == '_' || c == '.'

/-- Whether a placeholder can have a name. -/
def isConstantName (name : String) : Bool :=
  !name.isEmpty && name.toList.all isConstantChar

/-- Whether a setting is nothing but white space. -/
def isBlank (setting : String) : Bool :=
  setting.toList.all Text.isBlank

/-- The first thing that is wrong with the settings. -/
def check (c : Config) : Except ConfigError Unit :=
  if !urlStart.isPrefixOf c.databaseUrl.toList then .error .foreignDatabase
  else if isBlank c.loader.session.sqlMode then .error (.blankSetting "sql_mode")
  else if isBlank c.loader.session.characterSet then .error (.blankSetting "character_set")
  else if isBlank c.loader.session.collation then .error (.blankSetting "collation")
  else
    match c.constants.keys.find? fun name => !isConstantName name with
    | some name => .error (.invalidConstant name)
    | none => .ok ()

end Config

end StoredRoutines
