import DashboardClient.Watcher

/-!
# Command line

Runs the watcher in the environment of the process and of the file `.env`, prints its
lines and ends with its exit code. This build has no transport of its own: requests
find no route to the server.
-/

namespace DashboardClient

/-- The variables that a run reads by fixed names. -/
def settingNames : List String :=
  ["RUST_LOG", "DASHSYNC_BASE_URL", "DASHSYNC_REQUEST_TIMEOUT_SECS",
   "DASHSYNC_CONNECT_TIMEOUT_SECS", "DASHSYNC_POLL_INTERVAL_MS", "DASHSYNC_LOGIN_PATH",
   "DASHSYNC_HOME_PATH", "DASHSYNC_WATCH_PATH", "DASHSYNC_IDENTITY", "DASHSYNC_SECRET_ENV"]

/-- Those of the named variables that the process has. -/
def processEnvironment (names : List String) : IO Environment := do
  let vars ← names.filterMapM fun name => do
    return (← IO.getEnv name).map fun value => (name, value.toUTF8.toList)
  return Environment.ofList vars

/-- The text of the file `.env`, empty if it cannot be read. -/
def envFileText : IO String := do
  try IO.FS.readFile ".env" catch _ => return ""

/-- Everything that a run reads from the process. The variable that holds the secret is
read by its name, which may come from the file. -/
def runEnvironment (file : String) : IO Environment := do
  let names := settingNames ++ (EnvFile.Line.ofText file).flatMap (·.names)
  let loaded := EnvFile.load (← processEnvironment names) file
  let secret := (loaded.bind (·.text? "DASHSYNC_SECRET_ENV")).toList
  processEnvironment (names ++ secret)

/-- Run the watcher and print its lines. -/
def runWatcher : IO UInt32 := do
  let file ← envFileText
  let (run, lines) := Watcher.runWith (← runEnvironment file) file { isReachable := false }
  for line in lines do
    IO.println line.renderConsole
  return run.exit.code.toUInt32

end DashboardClient

def main : IO UInt32 :=
  DashboardClient.runWatcher
