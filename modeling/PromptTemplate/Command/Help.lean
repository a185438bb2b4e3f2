import PromptTemplate.Command

/-!
What is told about the command line itself: how it is written, and why one could not be
carried out.
-/

set_option autoImplicit false
set_option relaxedAutoImplicit false

namespace PromptTemplate

namespace Invocation

/-- How command lines are written. -/
def help : Text :=
  ("Render prompt templates with interactive control syntax\n\n" ++
    "Usage: promptctl [OPTIONS] COMMAND\n\n" ++
    "Commands:\n" ++
    "  parse FILE             List the controls of a template\n" ++
    "  render FILE            Render a template with chosen values\n" ++
    "  controls FILE...       List the controls of several templates\n" ++
    "  check FILE...          Report directives that do not work as written\n" ++
    "  config [ACTION]        Show or change the global values: init, show, path,\n" ++
    "                         set NAME VALUE, unset NAME\n" ++
    "  help [COMMAND]         Show this text\n\n" ++
    "Options:\n" ++
    "  -v, --verbose          Log more\n" ++
    "  -q, --quiet            Log errors only\n" ++
    "  -c, --config PATH      Use another configuration file\n" ++
    "  -h, --help             Show this text\n" ++
    "  -V, --version          Show the version\n\n" ++
    "Options of parse, controls and check: --format text|json; of check: --strict\n" ++
    "Options of render: -s, --set NAME=VALUE; --enable NAME; --disable NAME;\n" ++
    "  --values FILE; --no-global; -o, --output FILE\n" ++
    "Options of config init: --force; of config set: --bool, --number\n").toList

def version : Text := "promptctl 0.3.2\n".toList

end Invocation

namespace CommandLine.Stop

/-- Why a command line is not carried out, or what it asks for. -/
def message : Stop → Text
  | .help => Invocation.help
  | .version => Invocation.version
  | .noArguments => Invocation.help
  | .missingCommand => "error: a command is missing\n".toList
  | .invalidCommand name => "error: there is no command '".toList ++ name ++ "'\n".toList
  | .unknownArgument argument => "error: unexpected argument '".toList ++ argument ++ "'\n".toList
  | .missingArgument => "error: an argument is missing\n".toList
  | .invalidValue option => "error: invalid value for '--".toList ++ option ++ "'\n".toList
  | .conflict option other =>
    if option = other then "error: '--".toList ++ option ++ "' is given more than once\n".toList
    else
      "error: '--".toList ++ option ++ "' cannot stand with '--".toList ++ other ++ "'\n".toList
  | .tooManyValues option => "error: '--".toList ++ option ++ "' takes no value\n".toList

end CommandLine.Stop

end PromptTemplate
