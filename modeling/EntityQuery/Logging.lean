import EntityQuery.Text.Lowercase

namespace EntityQuery

inductive LogFormat where
  | json
  | pretty
  | compact
deriving DecidableEq, Repr

namespace LogFormat

def name : LogFormat → String
  | json => "json"
  | pretty => "pretty"
  | compact => "compact"

/-- The format of a name in any letter case. Other names stand for JSON. -/
def ofName (name : String) : LogFormat :=
  match String.ofList (Text.lowercase name.toList) with
  | "pretty" => pretty
  | "compact" => compact
  | _ => json

end LogFormat

/-- What is logged, as far as the environment says so. -/
structure LogSettings where
  debug : Bool
  level : Option String
  format : LogFormat
deriving DecidableEq

namespace LogSettings

def levels : List String := ["trace", "debug", "info", "warn", "error"]

/-- The level of a name in any letter case. -/
def readLevel? (name : String) : Option String :=
  levels.find? fun level => level.toList == Text.lowercase name.toList

def isOn (text : String) : Bool :=
  ["true", "1", "yes"].contains (String.ofList (Text.lowercase text.toList))

/-- The settings in the variables of an environment. -/
def ofEnvironment (environment : List (String × String)) : LogSettings where
  debug := ((environment.lookup "SIFT_DEBUG").map isOn).getD false
  level := (environment.lookup "SIFT_LOG_LEVEL").bind readLevel?
  format := ((environment.lookup "SIFT_LOG_FORMAT").map LogFormat.ofName).getD .json

/-- The level that holds: the given one, or else that of debugging or of warnings. -/
def effectiveLevel (settings : LogSettings) : String :=
  settings.level.getD (if settings.debug then "debug" else "warn")

def isRequested (settings : LogSettings) : Bool := settings.debug || settings.level.isSome

end LogSettings

end EntityQuery
