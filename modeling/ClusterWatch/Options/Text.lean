import ClusterWatch.Options.Basic

/-!
# Options in text

How the options in force are shown, one line for each, and how it is reported that
they cannot be used.
-/

namespace ClusterWatch

namespace Options

/-- The value of an option as text. It is one that sets the option to what it is. -/
def valueText (options : Options) : Flag → String
  | .cacheTime => toString options.cacheTime
  | .checkInterval => toString options.checkInterval
  | .nodeAgentPort => toString options.nodeAgentPort
  | .nodeAgentConcurrency => toString options.nodeAgentConcurrency
  | .listen => options.listen.text
  | .meshApi => options.meshApi
  | .meshTimeWindow => options.meshTimeWindow
  | .podName => options.podName
  | .podNs => options.podNs

/-- One line for each option: its flag and its value. -/
def lines (options : Options) : List String :=
  Flag.all.map fun flag => flag.long ++ " = " ++ options.valueText flag

end Options

/-- The lines of the help: every flag with its environment variable and its default. -/
def helpLines : List String :=
  Flag.all.map fun flag =>
    "--" ++ flag.long ++ " <value>, " ++ flag.environmentVariable ++ ", default " ++
      Options.default.valueText flag

/-- The text that reports why the options cannot be used. -/
def OptionsError.message : OptionsError → String
  | .valueValidation => "an option has a value that it does not take"
  | .unknownArgument => "unknown argument"
  | .missingValue => "an option lacks its value"
  | .conflict => "an option is given twice"
  | .unneededValue => "a value is given where none is taken"
  | .helpRequested => String.intercalate "\n" helpLines
  | .versionRequested => "cluster-agent"

/-- Whether an error is only a request to show something. -/
def OptionsError.isRequest : OptionsError → Bool
  | .helpRequested | .versionRequested => true
  | _ => false

end ClusterWatch
