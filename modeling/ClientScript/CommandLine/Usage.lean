import ClientScript.CommandLine.Arguments

namespace ClientScript.CommandLine

def version : String :=
  "cs2 0.1.0"

def commands : List String := [
  "Commands:",
  "  emit    Emit pseudo-source for every script in an IR module",
  "  passes  List the transform passes accepted by `--skip-pass`",
  "  help    Print this message or the help of the given subcommand(s)"]

def usage : Topic → List String
  | .program => [
      "Render decompiled ClientScript IR as strict pseudo-source",
      "",
      "Usage: cs2 <COMMAND>",
      ""] ++ commands ++ [
      "",
      "Options:",
      "  -h, --help     Print help",
      "  -V, --version  Print version"]
  | .emit    => [
      "Emit pseudo-source for every script in an IR module",
      "",
      "Usage: cs2 emit [OPTIONS] <INPUT>",
      "",
      "Arguments:",
      "  <INPUT>  Path to a JSON-serialized IR module",
      "",
      "Options:",
      "      --names <DIR>       " ++
        "Directory of `<kind>.tsv` name tables (default: <config dir>/cs2/names)",
      "  -o, --output <DIR>      " ++
        "Write one `.cs2` file per script into this directory instead of stdout",
      "      --skip-pass <NAME>  Skip a transform pass by name (repeatable)",
      "      --dump-ir           Dump post-transform IR to stderr",
      "      --filter <NAME>     Only dump scripts whose name contains this string",
      "      --tabs              Indent nested blocks with tabs instead of four spaces",
      "  -h, --help              Print help"]
  | .passes  => [
      "List the transform passes accepted by `--skip-pass`",
      "",
      "Usage: cs2 passes",
      "",
      "Options:",
      "  -h, --help  Print help"]
  | .help    => [
      "Print this message or the help of the given subcommand(s)",
      "",
      "Usage: cs2 help [COMMAND]",
      ""] ++ commands

end ClientScript.CommandLine
