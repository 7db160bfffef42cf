import ClusterWatch.Options.Text

/-!
# Command line

Reads the options from the arguments and the environment and shows those that are in force, or why
they cannot be used.
-/

namespace ClusterWatch

/-- The environment variables of the options that are set. -/
def readVariables : IO (List (String × String)) :=
  Flag.all.filterMapM fun flag => do
    let value ← IO.getEnv flag.environmentVariable
    return value.map fun value => (flag.environmentVariable, value)

/-- Show the options that the arguments and the environment set. -/
def showOptions (arguments : List String) : IO UInt32 := do
  let values ← readVariables
  match Arguments.parse arguments (List.lookup · values) with
  | .ok options =>
    options.lines.forM fun line => IO.println line
    return 0
  | .error error =>
    if error.isRequest then
      IO.println error.message
      return 0
    else
      IO.eprintln ("error: " ++ error.message)
      return 2

end ClusterWatch

/-- The command line. -/
def main (arguments : List String) : IO UInt32 :=
  ClusterWatch.showOptions arguments
