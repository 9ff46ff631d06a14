import Crosslink.CommandLine.Arguments

/-!
# Usage

How the program is called.
-/

namespace Crosslink.CommandLine

/-- How the program is called, as lines. -/
def usage : List String := [
  "Usage: docref [OPTIONS] COMMAND [ARGS]...",
  "",
  "Resolve ref: and repo: link tokens across a documentation tree.",
  "",
  "Options:",
  "  -V, --version       Show version and exit.",
  "  -v, --verbose       Show every message.",
  "  -c, --config PATH   Path to docref.yaml.",
  "  --log               Also write a log file.",
  "  -h, --help          Show this message and exit.",
  "",
  "Commands:",
  "  build   Resolve every link token and write the rewritten content tree.",
  "  check   Resolve every link token without writing anything.",
  "  refs    List the global identifiers declared in the content tree."]

/-- How a command is called, as lines. -/
def Command.usage : Command → List String
  | .build => [
    "Usage: docref build [OPTIONS] [CONTENT_ROOT]",
    "",
    "Options:",
    "  -o, --out PATH           Output directory for rewritten files.",
    "  --strict / --no-strict   Fail on the first issue.",
    "  --report PATH            Write a JSON report of all issues.",
    "  -h, --help               Show this message and exit."]
  | .check => [
    "Usage: docref check [OPTIONS] [CONTENT_ROOT]",
    "",
    "Options:",
    "  --strict / --no-strict   Fail on the first issue.",
    "  --report PATH            Write a JSON report of all issues.",
    "  -h, --help               Show this message and exit."]
  | .refs => [
    "Usage: docref refs [OPTIONS] [CONTENT_ROOT]",
    "",
    "Options:",
    "  --json       Print the registry as JSON.",
    "  -h, --help   Show this message and exit."]

end Crosslink.CommandLine
