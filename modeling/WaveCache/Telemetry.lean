import WaveCache.Text.Alphanumeric
import WaveCache.Text.Digits
import WaveCache.Text.Split
import WaveCache.Text.Utf8

/-!
# Telemetry

What is logged, and how, follows from environment variables.  A filter is a list of directives with
commas between them.  A directive is a level, a target, a span between brackets, or a target and a
span together, and all but the first may have a level behind them.  Logging can be set up once only.

`ofEnvironment` and `forService` are `from_lookup` and `for_service` of `TelemetryConfig`.
`filterFault?` is `build_filter`, with the directives of `EnvFilter`, and `install` is
`init_telemetry`; what is logged then is left out.
-/

namespace WaveCache

/-! ## Environment variables -/

/-- The value of each variable that is set. -/
abbrev Environment := String → Option String

namespace Environment

/-- The variables of a list, the first of each name. -/
def ofList (pairs : List (String × String)) : Environment :=
  fun name => pairs.lookup name

end Environment

/-! ## Filters -/

/-- Whether a text is the given word, in capital or small letters. -/
def isWord (word text : String) : Bool :=
  text.toList.map Char.toLower = word.toList

namespace LogFilter

/-- The names of the levels, from the least talkative on. -/
def levels : List String := ["off", "error", "warn", "info", "debug", "trace"]

/-- Whether a text is the number of a level, perhaps with a plus sign in front. -/
def isLevelNumber (text : String) : Bool :=
  let bs := Text.bytesOf text
  let digits := if bs.head? = some 0x2B then bs.tail else bs
  digits ≠ [] && digits.all Text.isDigit && Text.digitsValue digits < levels.length

/-- Whether a text is a level, which may be given by its name or its number.  No text at all counts
as a level too. -/
def isLevel (text : String) : Bool :=
  text.isEmpty || levels.any (isWord · text) || isLevelNumber text

/-- Whether a character may begin a level or a target. -/
def beginsTarget (c : Char) : Bool :=
  c = '-' || c = ':' || c = '_' || Text.isAlphanumeric c

/-- Whether a directive may end so: with an equals sign and a level, if it may have one, or with
nothing but blanks. -/
def isEnding (mayHaveLevel : Bool) : List Char → Bool
  | '=' :: level => mayHaveLevel && isLevel (String.ofList level)
  | cs => cs.all Text.isBlank

/-- Whether a directive may go on so behind the opening bracket of a span.  At the end of a span
there may be a field between braces. -/
def isSpan (mayHaveLevel : Bool) (cs : List Char) : Bool :=
  match cs.dropWhile fun c => c ≠ ']' && c ≠ '{' with
  | ']' :: cs => isEnding mayHaveLevel cs
  | '{' :: cs =>
    cs.head? ≠ some '}' &&
      match cs.dropWhile (· ≠ '}') with
      | '}' :: ']' :: cs => isEnding mayHaveLevel cs
      | _ => false
  | _ => false

/-- Whether a piece of a filter is a directive.  One with blanks in front has no level behind it. -/
def isDirective (piece : List Char) : Bool :=
  let mayHaveLevel := !piece.head?.any Text.isBlank
  match piece.dropWhile Text.isBlank with
  | [] => false
  | '[' :: cs => isSpan mayHaveLevel cs
  | c :: cs =>
    beginsTarget c &&
      match cs.dropWhile fun c => c ≠ '=' && c ≠ '[' with
      | '[' :: cs => isSpan mayHaveLevel cs
      | cs => isEnding mayHaveLevel cs

/-- Whether a text is a filter.  Empty pieces say nothing. -/
def isValid (text : String) : Bool :=
  (Text.split ',' text.toList).all fun piece => piece.isEmpty || isDirective piece

end LogFilter

/-! ## Configuration -/

/-- Why logging is not set up. -/
inductive TelemetryError where
  | filter (directive : String)
  | alreadyInstalled
  | noServiceName
deriving DecidableEq

namespace TelemetryError

/-- The text of an error. -/
def message : TelemetryError → String
  | filter directive => "Invalid log filter '" ++ directive ++ "'"
  | alreadyInstalled =>
    "A global subscriber is already installed: " ++
      "a global default trace dispatcher has already been set"
  | noServiceName => "Invalid configuration: service name is empty"

end TelemetryError

/-- What is logged and how. -/
structure TelemetryConfig where
  /-- The name that every line carries. -/
  serviceName : String
  /-- Which events are logged. -/
  filter : String
  /-- Whether anything is written at all. -/
  console : Bool
  /-- Whether lines are JSON objects. -/
  json : Bool
deriving DecidableEq

namespace TelemetryConfig

/-- The name of a service that is given no other. -/
def standardName : String := "umps-packet-cache"

/-- The configuration that the variables ask for.  In a container lines are JSON objects if nothing
else is said. -/
def ofEnvironment (environment : Environment) : TelemetryConfig where
  serviceName := (environment "UMPS_SERVICE_NAME").getD standardName
  filter := ((environment "UMPS_LOG_LEVEL").or (environment "RUST_LOG")).getD "info"
  console := (environment "UMPS_CONSOLE_OUTPUT").all fun v => !isWord "false" v && v ≠ "0"
  json :=
    match environment "UMPS_JSON_LOGS" with
    | some v => isWord "true" v || v = "1"
    | none =>
      (environment "KUBERNETES_SERVICE_HOST").isSome || (environment "DOCKER_CONTAINER").isSome

/-- The configuration for one of several services. -/
def forService (environment : Environment) (name : String) : TelemetryConfig :=
  { ofEnvironment environment with serviceName := standardName ++ "-" ++ name }

/-- What is wrong with the filter. -/
def filterFault? (config : TelemetryConfig) : Option TelemetryError :=
  if LogFilter.isValid config.filter then none else some (.filter config.filter)

/-- Sets up logging, if it has not been set up yet. -/
def install (config : TelemetryConfig) (isInstalled : Bool) : Except TelemetryError Unit :=
  if (Text.trim config.serviceName).isEmpty then .error .noServiceName
  else
    match config.filterFault? with
    | some fault => .error fault
    | none => if isInstalled then .error .alreadyInstalled else .ok ()

end TelemetryConfig

end WaveCache
