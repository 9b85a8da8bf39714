import ExprGateway.Command.Arguments

/-!
# Help

What the program says about itself.
-/

namespace ExprGateway.Command

/-- The name under which the program runs. -/
def programName : String := "calc-gateway-server"

def programVersion : String := "0.1.0"

/-- The answer to the question for the version. -/
def versionText : String := s!"{programName} {programVersion}\n"

/-- What a verb does. -/
def Verb.about : Verb → String
  | .run => "Start the server"
  | .check => "Validate configuration and exit"

def Verb.name : Verb → String
  | .run => "run"
  | .check => "check"

/-- What is said about a topic. -/
def Topic.text : Topic → String
  | .program => "\n".intercalate [
      "Calc Gateway Server - evaluates arithmetic expressions through remote operation services",
      "",
      s!"Usage: {programName} [OPTIONS] [COMMAND]",
      "",
      "Commands:",
      "  run    Start the server",
      "  check  Validate configuration and exit",
      "  help   Print this message or the help of the given subcommand(s)",
      "",
      "Options:",
      "  -c, --config <CONFIG>  Path to configuration file",
      "  -p, --port <PORT>      Port override for HTTP server (overrides config)",
      "      --print-config     Print effective configuration (JSON) and exit",
      "  -v, --verbose...       Log verbosity level (-v info, -vv debug, -vvv trace)",
      "  -h, --help             Print help",
      "  -V, --version          Print version",
      ""]
  | .verb v => "\n".intercalate [
      v.about,
      "",
      s!"Usage: {programName} {v.name}",
      "",
      "Options:",
      "  -h, --help  Print help",
      ""]
  | .help => "\n".intercalate [
      "Print this message or the help of the given subcommand(s)",
      "",
      s!"Usage: {programName} help [COMMAND]...",
      "",
      "Arguments:",
      "  [COMMAND]...  Print help for the subcommand(s)",
      ""]

end ExprGateway.Command
