import StoredRoutines.Path

/-!
# The command line

What is asked for on the command line: `load`, with or without sources, and the file of the
settings.

## Main definitions

- `Command` — the sources to load and the file of the settings
- `Command.parse` — reads the arguments
- `CommandError.message` — what is wrong with them
-/

namespace StoredRoutines

/-- What is asked for. -/
structure Command where
  /-- The file of the settings. -/
  configPath : Path
  /-- The sources to load; none stand for all of them. -/
  sources : List Path
  deriving DecidableEq, Repr

/-- Why arguments ask for nothing. -/
inductive CommandError where
  /-- The word `load` is missing. -/
  | missingCommand
  /-- Another word stands in its place. -/
  | unknownCommand (word : String)
  /-- An option has no value. -/
  | missingValue (option : String)
  /-- There is no such option. -/
  | unknownOption (option : String)
  deriving DecidableEq, Repr

/-- The wording of a cause. -/
def CommandError.message : CommandError → String
  | missingCommand => "a command is required: load"
  | unknownCommand word => "unrecognized command '" ++ word ++ "'"
  | missingValue option => "a value is required for '" ++ option ++ "'"
  | unknownOption option => "unexpected argument '" ++ option ++ "'"

namespace Command

/-- The file of the settings where none is named. -/
def defaultConfigPath : Path := ⟨"./config/rload.toml"⟩

/-- The option that names the file of the settings. -/
def configOption : String := "--config"

/-- The value of the option that names the file of the settings, if it is written in one word
    with it. -/
def configValue? (word : String) : Option Path :=
  ((configOption ++ "=").toList.isPrefixOf? word.toList).map fun value => ⟨String.ofList value⟩

/-- Whether a word looks like an option. -/
def isOption (word : String) : Bool :=
  "-".toList.isPrefixOf word.toList && word != "-"

/-- Reads the arguments behind `load`, given what has been read before. -/
def parseSources (c : Command) : List String → Except CommandError Command
  | [] => .ok c
  | word :: rest =>
    if word = configOption then
      match rest with
      | [] => .error (.missingValue configOption)
      | value :: rest => parseSources { c with configPath := ⟨value⟩ } rest
    else
      match configValue? word with
      | some path => parseSources { c with configPath := path } rest
      | none =>
        if isOption word then .error (.unknownOption word)
        else parseSources { c with sources := c.sources ++ [⟨word⟩] } rest

/-- Reads the arguments up to `load`, given what has been read before. -/
def parseFrom (c : Command) : List String → Except CommandError Command
  | [] => .error .missingCommand
  | word :: rest =>
    if word = "load" then parseSources c rest
    else if word = configOption then
      match rest with
      | [] => .error (.missingValue configOption)
      | value :: rest => parseFrom { c with configPath := ⟨value⟩ } rest
    else
      match configValue? word with
      | some path => parseFrom { c with configPath := path } rest
      | none =>
        if isOption word then .error (.unknownOption word) else .error (.unknownCommand word)

/-- Reads the arguments. -/
def parse (arguments : List String) : Except CommandError Command :=
  parseFrom ⟨defaultConfigPath, []⟩ arguments

end Command

end StoredRoutines
