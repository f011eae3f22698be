import WaveCache.Node.Basic
import WaveCache.Telemetry

/-!
# The cache as a program

The program sets up a node from the environment, starts it, keeps it until standard input ends, and
shuts it down.  If something is wrong with the environment or the node it says so and ends with the
exit code 1.

This is `main`, with the end of standard input in place of a signal.
-/

namespace WaveCache

/-- The variables that the program looks at. -/
def variableNames : List String :=
  ["UMPS_SERVICE_NAME", "UMPS_LOG_LEVEL", "RUST_LOG", "UMPS_CONSOLE_OUTPUT", "UMPS_JSON_LOGS",
    "KUBERNETES_SERVICE_HOST", "DOCKER_CONTAINER", NodeConfig.channelsVariable,
    NodeConfig.packetsVariable, NodeConfig.pathVariable]

/-- The values of the variables that are set. -/
def readEnvironment : IO Environment := do
  let mut found : List (String × String) := []
  for name in variableNames do
    if let some value ← IO.getEnv name then
      found := (name, value) :: found
  return .ofList found

/-- The text of a file, or why it cannot be read. -/
def readFile (path : String) : IO (Except String String) := do
  try
    return .ok (← IO.FS.readFile path)
  catch error =>
    return .error (toString error)

/-- The configuration of the node and the node itself, or what went wrong. -/
def setUp (environment : Environment) (file : Except String String) : Except String Node := do
  let inside {ε α : Type} (message : ε → String) (doing : String) : Except ε α → Except String α :=
    Except.mapError fun error => doing ++ ": " ++ message error
  inside TelemetryError.message "Failed to initialize telemetry"
    ((TelemetryConfig.ofEnvironment environment).install false)
  let config ← inside NodeConfigError.message "Failed to load configuration"
    (NodeConfig.ofEnvironment environment fun _ => file)
  let node ← inside CacheError.message "Failed to create packet cache node" (Node.create config)
  let (result, node) := node.start
  inside NodeError.message "Failed to start packet cache node" (result.map fun _ => node)

/-- Waits until standard input ends. -/
partial def waitForEnd (input : IO.FS.Stream) : IO Unit := do
  unless (← input.getLine).isEmpty do
    waitForEnd input

/-- Runs a node until standard input ends, and gives the exit code. -/
def run : IO UInt32 := do
  let environment ← readEnvironment
  let file ← match environment NodeConfig.pathVariable with
    | some path => readFile path
    | none => pure (.error "no path is given")
  match setUp environment file with
  | .error message =>
    (← IO.getStderr).putStrLn ("Error: " ++ message)
    return 1
  | .ok node =>
    waitForEnd (← IO.getStdin)
    match node.shutdown.1 with
    | .ok _ => return 0
    | .error error =>
      (← IO.getStderr).putStrLn ("Error: Shutdown did not complete cleanly: " ++ error.message)
      return 1

end WaveCache

/-- The program. -/
def main : IO UInt32 :=
  WaveCache.run
