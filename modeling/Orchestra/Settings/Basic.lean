import Orchestra.Retry
import Orchestra.Settings.Dotenv

/-!
The settings of an engine, read from the environment and an environment file.

Every setting has a default. Where both define a name the environment wins over the file.
-/

namespace Orchestra

structure Settings where
  appName : String := "Workflow Orchestrator"
  appVersion : String := "0.1.0"
  environment : String := "development"
  logLevel : String := "INFO"
  logFormat : String := "json"
  maxConcurrent : Int := 10
  maxRetries : Int := 3
  retryDelay : Float := 1.0
  maxRetryDelay : Float := 60.0
  backoff : String := "exponential"
  maxCascadeDepth : Int := 5
  httpTimeout : Float := 30.0
  httpMaxPayload : Int := 10485760
  httpRetries : Int := 3
  httpRetryDelay : Float := 1.0
  httpMaxRetryDelay : Float := 10.0
  httpThreshold : Int := 5
  httpResetTimeout : Float := 60.0
  httpUserAgent : String := ""

namespace Settings

/-- A setting with its default. -/
def setting {α : Type} (values : Fields) (name : String) (default : α) (reader : Read.Reader α) :
    Checked α :=
  Read.fieldD values name [] default reader

/-- Reads named values; names that are no settings are ignored. -/
def ofFields (values : Fields) : Except Failure Settings :=
  let settings : Checked Settings :=
    Settings.mk
      <$> setting values "APP_NAME" "Workflow Orchestrator" Read.string
      <*> setting values "APP_VERSION" "0.1.0" Read.string
      <*> setting values "ENVIRONMENT" "development" Read.string
      <*> setting values "LOG_LEVEL" "INFO" Read.string
      <*> setting values "LOG_FORMAT" "json" Read.string
      <*> setting values "WORKFLOW_MAX_CONCURRENT" 10 Read.integer
      <*> setting values "WORKFLOW_MAX_RETRIES" 3 Read.integer
      <*> setting values "WORKFLOW_RETRY_DELAY" 1.0 Read.float
      <*> setting values "WORKFLOW_MAX_RETRY_DELAY" 60.0 Read.float
      <*> setting values "WORKFLOW_BACKOFF" "exponential" Read.string
      <*> setting values "WORKFLOW_MAX_CASCADE_DEPTH" 5 Read.integer
      <*> setting values "HTTP_TIMEOUT" 30.0 Read.float
      <*> setting values "HTTP_MAX_PAYLOAD_SIZE" 10485760 Read.integer
      <*> setting values "HTTP_RETRIES" 3 Read.integer
      <*> setting values "HTTP_RETRY_DELAY" 1.0 Read.float
      <*> setting values "HTTP_MAX_RETRY_DELAY" 10.0 Read.float
      <*> setting values "HTTP_CIRCUIT_BREAKER_THRESHOLD" 5 Read.integer
      <*> setting values "HTTP_CIRCUIT_BREAKER_RESET_TIMEOUT" 60.0 Read.float
      <*> setting values "HTTP_USER_AGENT" "" Read.string
  match settings with
  | .valid settings => .ok settings
  | .invalid first rest => .error (.invalidData first rest)

/-- Reads the environment and the text of an environment file. -/
def load (environment : List (String × String)) (file : String) : Except Failure Settings :=
  let named (entries : List (String × String)) : Fields :=
    entries.map fun (name, value) => (name, .str value)
  ofFields (Fields.overlay (named (Dotenv.read environment file)) (named environment))

def isDevelopment (settings : Settings) : Bool :=
  settings.environment == "development"

def isProduction (settings : Settings) : Bool :=
  settings.environment == "production"

/-- How the engine names itself to the hosts it calls. -/
def userAgent (settings : Settings) : String :=
  if settings.httpUserAgent == "" then "workflow-orchestrator/" ++ settings.appVersion
  else settings.httpUserAgent

/-- The settings by name. -/
def toFields (settings : Settings) : Fields :=
  [("APP_NAME", .str settings.appName), ("APP_VERSION", .str settings.appVersion),
    ("ENVIRONMENT", .str settings.environment), ("LOG_LEVEL", .str settings.logLevel),
    ("LOG_FORMAT", .str settings.logFormat),
    ("WORKFLOW_MAX_CONCURRENT", .int settings.maxConcurrent),
    ("WORKFLOW_MAX_RETRIES", .int settings.maxRetries),
    ("WORKFLOW_RETRY_DELAY", .float settings.retryDelay),
    ("WORKFLOW_MAX_RETRY_DELAY", .float settings.maxRetryDelay),
    ("WORKFLOW_BACKOFF", .str settings.backoff),
    ("WORKFLOW_MAX_CASCADE_DEPTH", .int settings.maxCascadeDepth),
    ("HTTP_TIMEOUT", .float settings.httpTimeout),
    ("HTTP_MAX_PAYLOAD_SIZE", .int settings.httpMaxPayload),
    ("HTTP_RETRIES", .int settings.httpRetries),
    ("HTTP_RETRY_DELAY", .float settings.httpRetryDelay),
    ("HTTP_MAX_RETRY_DELAY", .float settings.httpMaxRetryDelay),
    ("HTTP_CIRCUIT_BREAKER_THRESHOLD", .int settings.httpThreshold),
    ("HTTP_CIRCUIT_BREAKER_RESET_TIMEOUT", .float settings.httpResetTimeout),
    ("HTTP_USER_AGENT", .str settings.httpUserAgent)]

end Settings

end Orchestra
