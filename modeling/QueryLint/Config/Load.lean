import QueryLint.Config.OfJson
import QueryLint.Config.OfToml
import QueryLint.Toml.Writer

/-!
# Loading a configuration

The kind of a configuration text is told by the extension of its file.
-/

namespace QueryLint

/-- Why a text is no configuration. -/
inductive ConfigError
  | toml (message : String)
  | json (message : String)
  | format (extension : String)
  deriving DecidableEq, Repr

namespace ConfigError

/-- What is said of an error. -/
def message : ConfigError → String
  | toml text => "invalid TOML configuration: " ++ text
  | json text => "invalid JSON configuration: " ++ text
  | format extension => "unsupported config file format: '" ++ extension ++ "'"

/-- What the reader of the text said, if it was read at all. -/
def cause? : ConfigError → Option String
  | toml text => some text
  | json text => some text
  | format _ => none

/-- The code of a kind of error. -/
def code : ConfigError → String
  | toml _ => "sqlint::config::toml"
  | json _ => "sqlint::config::json"
  | format _ => "sqlint::config::format"

/-- What can be done about an error. -/
def help : ConfigError → String
  | toml _ => "the configuration needs a [rules] table"
  | json _ => "the configuration needs a \"rules\" object"
  | format _ => "use a .toml or .json configuration file"

end ConfigError

namespace Config

/-- Reads a configuration in JSON. -/
def parseJson (text : String) : Except ConfigError Config :=
  match ofJsonText text with
  | .ok config => .ok config
  | .error fault => .error (.json (fault.message text.toList))

/-- Reads a configuration in TOML. -/
def parseToml (text : String) : Except ConfigError Config :=
  match ofTomlText text with
  | .ok config => .ok config
  | .error fault => .error (.toml (fault.message text.toList))

/-- Writes a configuration in TOML. -/
def writeToml (config : Config) : Except Toml.Unwritable String :=
  Toml.write config.toMembers

/-- Reads a configuration of the kind that an extension names. -/
def parse (text extension : String) : Except ConfigError Config :=
  if extension = "toml" then parseToml text
  else if extension = "json" then parseJson text
  else .error (.format extension)

end Config

end QueryLint
