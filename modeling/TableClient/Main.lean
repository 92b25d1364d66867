import TableClient.Cli.Session
/-! The program. Formulas are compiled offline. No exchange of messages is linked here, so
that the commands on a table end with the failure to reach its server. Its log on the error
output and the exporter of its counters are left out, with the two variables that set them. -/
namespace TableClient

/-- The settings that the environment holds. -/
def readSettings : IO (String → Option String) := do
  let names := [Config.apiRootVariable, Config.baseIdVariable, Config.tableVariable,
    Config.apiKeyVariable, Config.timeoutVariable]
  let values ← names.mapM fun name => return (name, ← IO.getEnv name)
  return fun name => ((values.find? fun entry => entry.1 = name).map Prod.snd).join

def runCommand (invocation : Cli.Invocation) : IO UInt32 := do
  let input ←
    if Cli.readsInput invocation.command then (← IO.getStdin).readToEnd else pure ""
  match (Cli.run Http.unreachable invocation input ()).1 with
  | .ok text => IO.print text; return 0
  | .error error => IO.eprintln ("Error: " ++ error.message); return Cli.failureStatus

end TableClient

open TableClient in
def main (arguments : List String) : IO UInt32 := do
  match Cli.parse arguments (← readSettings) with
  | .ok invocation => runCommand invocation
  | .error .version => IO.print Cli.versionText; return 0
  | .error .help => IO.print Cli.helpText; return 0
  | .error .usage => IO.eprint Cli.helpText; return Cli.usageStatus
