import GatewayAcl.CommandLine.Report
import GatewayAcl.Json.Printer

/-!
# Command line

Reads the command line and the environment and prints the settings that the
service would run with.
-/

open GatewayAcl CommandLine in
def main (arguments : List String) : IO UInt32 := do
  let environment ← IO.getEnv environmentVariable
  match parse arguments environment with
  | .ok settings =>
      IO.println settings.encode.print
      return 0
  | .error error =>
      IO.eprintln ("error: " ++ error.message)
      return 2
