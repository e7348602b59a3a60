import ImpLexer.Command.Arguments

/-!
# What the command says about itself

The version, and the two texts on its use: one line for each argument when help
is asked for briefly, and a paragraph when it is asked for in full.
-/

namespace ImpLexer.Usage

def version : Text := "plc 0.0.0".toList

/-- What the command is, and the form of its arguments. -/
def synopsis : List String :=
  ["A lexer for a small imperative language",
   "",
   "Usage: plc [OPTIONS] <FILES>...",
   ""]

/-- The arguments, with a line for each. -/
def brief : List String :=
  ["Arguments:",
   "  <FILES>...  Source files to lex",
   "",
   "Options:",
   "      --leading-zeros <LEADING_ZEROS>  " ++
     "Whether integers may carry redundant leading zeros " ++
     "[default: reject] [possible values: reject, allow]",
   "  -v, --verbose                        Log debug output to stderr",
   "  -h, --help                           Print help (see more with '--help')",
   "  -V, --version                        Print version"]

/-- The arguments, with a paragraph for each. -/
def full : List String :=
  ["Arguments:",
   "  <FILES>...",
   "          Source files to lex",
   "",
   "Options:",
   "      --leading-zeros <LEADING_ZEROS>",
   "          Whether integers may carry redundant leading zeros",
   "",
   "          Possible values:",
   "          - reject: `0` may only stand alone, so `007` is an error",
   "          - allow:  Any run of digits is an integer, so `007` is one token",
   "          ",
   "          [default: reject]",
   "",
   "  -v, --verbose",
   "          Log debug output to stderr",
   "",
   "  -h, --help",
   "          Print help (see a summary with '-h')",
   "",
   "  -V, --version",
   "          Print version"]

/-- The text on the use of the command, line by line. -/
def help (detail : Detail) : List Text :=
  let arguments := match detail with
    | .brief => brief
    | .full => full
  (synopsis ++ arguments).map String.toList

end ImpLexer.Usage
