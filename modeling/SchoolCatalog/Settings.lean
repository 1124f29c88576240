import SchoolCatalog.Failure
import SchoolCatalog.Paths
import SchoolCatalog.Text.Case

/-!
# Settings

What a deployment may choose, read from its environment; a variable that is not set leaves the
default.
-/

namespace SchoolCatalog

/-- How long to wait: a whole number of seconds, or a real one. -/
inductive Seconds where
  | whole (count : Int)
  | real (count : Binary64)
  deriving DecidableEq, Inhabited

structure Settings where
  projectName : String := "School Directory API"
  apiVersion : String := "1.0.0"
  debug : Bool := false
  logLevel : String := "INFO"
  logFile : String := ""
  secretKey : String := "change_me"
  accessTokenExpireMinutes : Int := 60 * 24 * 30
  algorithm : String := "HS256"
  databaseUrl : String := "school_directory.db"
  defaultPageLimit : Int := 25
  maxFileUpload : Int := 1000000
  fileUploadPath : String := "public/uploads"
  geocoderProvider : String := "nominatim"
  geocoderUrl : String := "https://nominatim.openstreetmap.org"
  geocoderApiKey : String := ""
  geocoderTimeout : Seconds := .real (.ofInt 10)
  geocoderUserAgent : String := "school-directory-api"
  deriving DecidableEq, Inhabited

/-- Names and values of variables; of equal names the last counts. -/
abbrev Environment := List (String × String)

namespace Environment

def get? (env : Environment) (name : String) : Option String := env.reverse.lookup name

/-- Refuses a variable that cannot be set: NUL stands in no name or value, and an equals sign in no
name, which is not empty. -/
def requireSettable : Environment → Except Failure Unit
  | [] => .ok ()
  | (name, value) :: rest =>
    if Paths.holdsNul name || Paths.holdsNul value then .error (.refused .embeddedNul)
    else if name.toList.contains '=' then .error (.refused .variableName)
    else if name.isEmpty then .error .unwritable
    else requireSettable rest

def text (env : Environment) (name default : String) : String := (get? env name).getD default

def integer (env : Environment) (name : String) (default : Int) : Except Failure Int :=
  match get? env name with
  | none => .ok default
  | some s => (Wording.proper s).toWhole

def seconds (env : Environment) (name : String) (default : Seconds) : Except Failure Seconds :=
  match get? env name with
  | none => .ok default
  | some s => .real <$> (Datum.text s).toNumber

end Environment

namespace Settings

/-- The variables that settings are read from. -/
def variableNames : List String :=
  ["PROJECT_NAME", "API_VERSION", "DEBUG", "LOG_LEVEL", "LOG_FILE", "SECRET_KEY",
    "ACCESS_TOKEN_EXPIRE_MINUTES", "ALGORITHM", "DATABASE_URL", "DEFAULT_PAGE_LIMIT",
    "MAX_FILE_UPLOAD", "FILE_UPLOAD_PATH", "GEOCODER_PROVIDER", "GEOCODER_URL",
    "GEOCODER_API_KEY", "GEOCODER_TIMEOUT", "GEOCODER_USER_AGENT"]

/-- Reads the settings; the first number that cannot be read is the failure. -/
def ofEnvironment (env : Environment) : Except Failure Settings := do
  env.requireSettable
  let base : Settings := {}
  let minutes ← env.integer "ACCESS_TOKEN_EXPIRE_MINUTES" base.accessTokenExpireMinutes
  let pageLimit ← env.integer "DEFAULT_PAGE_LIMIT" base.defaultPageLimit
  let maxUpload ← env.integer "MAX_FILE_UPLOAD" base.maxFileUpload
  let timeout ← env.seconds "GEOCODER_TIMEOUT" base.geocoderTimeout
  return {
    projectName := env.text "PROJECT_NAME" base.projectName
    apiVersion := env.text "API_VERSION" base.apiVersion
    debug := ["1", "true", "yes"].contains (Text.lower (env.text "DEBUG" "false"))
    logLevel := env.text "LOG_LEVEL" base.logLevel
    logFile := env.text "LOG_FILE" base.logFile
    secretKey := env.text "SECRET_KEY" base.secretKey
    accessTokenExpireMinutes := minutes
    algorithm := env.text "ALGORITHM" base.algorithm
    databaseUrl := env.text "DATABASE_URL" base.databaseUrl
    defaultPageLimit := pageLimit
    maxFileUpload := maxUpload
    fileUploadPath := env.text "FILE_UPLOAD_PATH" base.fileUploadPath
    geocoderProvider := env.text "GEOCODER_PROVIDER" base.geocoderProvider
    geocoderUrl := env.text "GEOCODER_URL" base.geocoderUrl
    geocoderApiKey := env.text "GEOCODER_API_KEY" base.geocoderApiKey
    geocoderTimeout := timeout
    geocoderUserAgent := env.text "GEOCODER_USER_AGENT" base.geocoderUserAgent }

end Settings

/-- Where and how the catalog is served. -/
structure Launch where
  host : String
  port : Int
  reload : Bool
  logLevel : String
  title : String
  deriving DecidableEq

/-- The variables that host and port are read from. -/
def Launch.variableNames : List String := ["API_HOST", "API_PORT"]

/-- Host and port from the environment, the title from the settings. -/
def Launch.ofEnvironment (env : Environment) : Except Failure Launch := do
  let settings ← Settings.ofEnvironment env
  let port ← env.integer "API_PORT" 8000
  return {
    host := env.text "API_HOST" "0.0.0.0"
    port := port
    reload := false
    logLevel := "info"
    title := settings.projectName }

/-- Where the database lies: an absolute path as it stands, or a path relative to the package. -/
inductive DatabasePath where
  | absolute (path : String)
  | relative (path : String)
  deriving DecidableEq

namespace DatabasePath

/-- The name of the folder from which a relative path is followed. -/
def packageFolder : String := "school_directory_api"

/-- The path of a database address; a relative one is written without detours, also if it leads out of
the package and back. -/
def ofUrl (url : String) : Except Failure DatabasePath :=
  if Paths.isAbsolute url then .ok (absolute url)
  else if Paths.holdsNul url then .error (.refused .embeddedNul)
  else
    let steps := match Paths.steps url with
      | ".." :: step :: rest => if step = packageFolder then rest else ".." :: step :: rest
      | steps => steps
    .ok (relative (if steps.isEmpty then "." else "/".intercalate steps))

end DatabasePath
end SchoolCatalog
