import Colloquy.Command.Execute

/-!
# Use of the command line

Arguments that ask for help or for the version are answered, and arguments that cannot be
acted upon are explained.
-/

namespace Colloquy
namespace Command

def usage : String :=
  "Usage: statechat [OPTIONS] <COMMAND>\n\n" ++
    "Commands:\n" ++
    "  run       Run every agent of a workflow until it ends\n" ++
    "  validate  Load and validate a workflow without running it\n" ++
    "  index     Chunk, embed and store documents in the snippet index\n" ++
    "  help      Print this message or the help of the given subcommand(s)\n\n" ++
    "Options:\n" ++
    "  -c, --config <CONFIG>  Path to the configuration file [default: statechat.toml]\n" ++
    "  -v, --verbose          Enable verbose output\n" ++
    "      --no-color         Disable colored output\n" ++
    "  -h, --help             Print help\n" ++
    "  -V, --version          Print version\n"

namespace UsageError

def explanation : UsageError -> String
  | missingCommand => "a command is required"
  | unknownCommand => "unrecognized command"
  | unknownArgument => "unexpected argument"
  | missingPlace => "a workflow or a directory is required"
  | repeated => "an argument cannot be used multiple times"
  | badValue => "a value is required"
  | surplusValue => "unexpected value"
  | _ => ""

/-- The status, the output and the error output. -/
def answer : UsageError -> Nat × String × String
  | help => (0, usage, "")
  | version => (0, "statechat " ++ Terminal.version ++ "\n", "")
  | nothingGiven => (2, "", usage)
  | e => (2, "", "error: " ++ e.explanation ++ "\n\n" ++ usage)

end UsageError

/-- The status, the output and the error output of the program. -/
def answer (c : Context τ) (t : τ) (args : List String) : Nat × String × String :=
  match Line.ofArguments args with
  | .error e => e.answer
  | .ok l =>
      let r := execute c t l
      (r.status, r.out, r.errors)

end Command
end Colloquy
