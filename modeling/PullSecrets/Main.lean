import PullSecrets.Startup

/-!
# Trying a start

Starts the service with the variables and files around the process, up to the point where requests
would be accepted. What would be logged is printed; if the start fails, so does the process.
-/

namespace PullSecrets.Main

def relevantVars : IO (List (String × Bytes)) :=
  Service.variableNames.filterMapM fun name => do
    let value ← IO.getEnv name
    pure (value.map fun v => (name, Text.encode v))

/-- The files of an environment, with one more if it can be read. -/
def withFile (files : Files) (path : Bytes) : IO Files :=
  match Text.decode? path with
  | none => pure files
  | some name => do
    try
      let content ← IO.FS.readBinFile name
      pure (files.add path (.file content.data.toList))
    catch _ => pure files

/-- An environment with the files in it that a start looks at. Which kubeconfig is read depends on
the settings, and what else is read depends on the kubeconfig. -/
def withFiles : Nat → Environment → IO Environment
  | 0, env => pure env
  | n + 1, env => do
    let files ← (Service.paths env).foldlM withFile env.files
    withFiles n { env with files }

def environment : IO Environment := do withFiles 3 { vars := ← relevantVars }

end PullSecrets.Main

def main : IO UInt32 := do
  let env ← PullSecrets.Main.environment
  let (events, outcome) := PullSecrets.Service.start env
  events.forM fun e => IO.println e.line
  match outcome with
  | .ok s =>
    IO.println ("ready for " ++ s.settings.address)
    pure 0
  | .error e =>
    IO.eprintln ("Error: " ++ e.message)
    pure 1
