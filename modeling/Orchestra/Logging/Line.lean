import Orchestra.Logging.Message
import Orchestra.Settings.Basic
import Orchestra.Text.Case

/-!
Log lines: the level from which lines are written, and the fields of a line.

Every line names the service, its version and its environment, unless its event already does.
-/

namespace Orchestra.Logging

/-- The weights of the named levels. -/
def levels : List (String × Int) :=
  [("CRITICAL", 50), ("FATAL", 50), ("ERROR", 40), ("WARNING", 30), ("WARN", 30), ("INFO", 20),
    ("DEBUG", 10), ("NOTSET", 0)]

/-- The layout of a plain line, which is named like a level but is none. -/
def plainLayout : String := "%(levelname)s:%(name)s:%(message)s"

/-- The known layouts as they are told where one level is asked for. -/
def layouts : String :=
  "\x7b'%': (<class 'logging.PercentStyle'>, '" ++ plainLayout
    ++ "'), '\x7b': (<class 'logging.StrFormatStyle'>, '\x7blevelname\x7d:\x7bname\x7d:"
    ++ "\x7bmessage\x7d'), '$': (<class 'logging.StringTemplateStyle'>, "
    ++ "'$\x7blevelname\x7d:$\x7bname\x7d:$\x7bmessage\x7d')\x7d"

/-- The weight of a named level, in any case of letters; an unknown name means `INFO`. Two names belong
to something else. -/
def levelOf (name : String) : Except Failure Int :=
  match Text.upper name with
  | "BASIC_FORMAT" => .error (.value ("Unknown level: '" ++ plainLayout ++ "'"))
  | "_STYLES" => .error (.type ("Level not an integer or a valid string: " ++ layouts))
  | name => .ok ((levels.lookup name).getD 20)

/-- The names of the weights. -/
def levelNames : List (Int × String) :=
  [(50, "critical"), (40, "error"), (30, "warning"), (20, "info"), (10, "debug"), (0, "notset")]

/-- The name of a weight; one that has none is told as it is, but for the name of a level. -/
def levelName (level : Value) : Except Failure String := do
  Failure.requireKey level
  match levelNames.find? fun entry => level.same (.int entry.1) with
  | some entry => return entry.2
  | none =>
    if level.str?.any fun name => levels.any (·.1 == name) then
      throw (.noAttribute (.int 0) "lower")
    else return Text.lower ("level " ++ level.text)

/-- The loggers that only report from warnings upwards. -/
def quietLoggers : List String :=
  ["httpx", "httpcore", "asyncio"]

/-- The level of the quiet loggers. -/
def quietLevel : Int := 30

/-- Lines are written as JSON, not laid out for a terminal. -/
def isJson (settings : Settings) : Bool :=
  !(settings.isDevelopment || settings.logFormat == "text")

/-- Stamps the service, its version and its environment on an event that does not name them. -/
def withService (settings : Settings) (event : Fields) : Fields :=
  let stamp (event : Fields) (entry : String × Value) : Fields :=
    if event.has entry.1 then event else event.set entry.1 entry.2
  [("service", .str settings.appName), ("version", .str settings.appVersion),
    ("environment", .str settings.environment)].foldl stamp event

/-- One report of a logger. -/
structure Report where
  logger : Value
  level : Value
  message : String
  arguments : List Value

/-- The report that data describes. -/
def Report.ofFields (record : Fields) : Report :=
  { logger := record.valueD "logger" .null
    level := record.valueD "level" (.int 20)
    message := (record.valueD "message" (.str "")).text
    arguments :=
      match record.get? "args" with
      | some (.list arguments) => arguments
      | _ => [] }

/-- The fields of a report's line, its time aside. -/
def Report.line (report : Report) (settings : Settings) : Except Failure Fields := do
  let level ← levelName report.level
  let event ← fill report.message report.arguments
  return withService settings [("event", .str event), ("logger", report.logger),
    ("level", .str level)]

end Orchestra.Logging
