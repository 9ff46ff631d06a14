import Crosslink.CommandLine.Switch
import Crosslink.Path

/-!
# Arguments

The program has switches of its own, then a command with switches and at most one
positional argument, the content root. Help and version are answered before anything else
is looked at, provided that all switches are known.
-/

namespace Crosslink.CommandLine

/-- The commands. -/
inductive Command where
  | build
  | check
  | refs
  deriving DecidableEq, Repr

/-- The command with a given name. -/
def Command.ofText? : String → Option Command
  | "build" => some .build
  | "check" => some .check
  | "refs" => some .refs
  | _ => none

/-- The switches before the command. -/
inductive ProgramKey where
  | version
  | verbose
  | config
  | log
  | help
  deriving DecidableEq, Repr

/-- The names of the switches before the command. -/
def programSwitches : List (Switch ProgramKey) := [
  ⟨.version, ["--version", "-V"], false⟩, ⟨.verbose, ["--verbose", "-v"], false⟩,
  ⟨.config, ["--config", "-c"], true⟩, ⟨.log, ["--log"], false⟩,
  ⟨.help, ["--help", "-h"], false⟩]

/-- The choices that the switches before the command make. -/
structure ProgramOptions where
  verbose : Bool
  config : Option Path
  log : Bool
  deriving DecidableEq, Repr

/-- What a command line asks for. -/
inductive Request where
  /-- The command line cannot be understood. -/
  | refused
  | help
  | version
  | command (options : ProgramOptions) (command : Command) (arguments : List String)
  deriving DecidableEq, Repr

/-- What the switches before the command ask for. -/
def ProgramOptions.ofGiven (given : List (Given ProgramKey)) : ProgramOptions where
  verbose := given.any fun g => g.1 == .verbose
  config := (lastValue? .config given).map Path.ofString
  log := given.any fun g => g.1 == .log

/-- The first switch that is answered before anything else is looked at. -/
def eager? (given : List (Given ProgramKey)) : Option ProgramKey :=
  (given.map (·.1)).find? fun k => k == .version || k == .help

/-- Read a command line as far as its command. -/
def Request.ofArguments (args : List String) : Request :=
  match split? programSwitches false args with
  | none => .refused
  | some (given, rest) =>
    match eager? given with
    | some ProgramKey.version => .version
    | some _ => .help
    | none =>
      match rest with
      | [] => .refused
      | name :: arguments =>
        match Command.ofText? name with
        | none => .refused
        | some c => .command (ProgramOptions.ofGiven given) c arguments

/-- The switches of commands. -/
inductive CommandKey where
  | out
  | strict
  | noStrict
  | report
  | json
  | help
  deriving DecidableEq, Repr

/-- The names of the switches of a command. -/
def commandSwitches (c : Command) : List (Switch CommandKey) :=
  let strict : List (Switch CommandKey) :=
    [⟨.strict, ["--strict"], false⟩, ⟨.noStrict, ["--no-strict"], false⟩]
  let report : List (Switch CommandKey) := [⟨.report, ["--report"], true⟩]
  let help : List (Switch CommandKey) := [⟨.help, ["--help", "-h"], false⟩]
  match c with
  | .build => ⟨.out, ["--out", "-o"], true⟩ :: strict ++ report ++ help
  | .check => strict ++ report ++ help
  | .refs => ⟨.json, ["--json"], false⟩ :: help

/-- What the arguments of a command ask for. -/
structure CommandOptions where
  contentRoot : Option Path
  out : Option Path
  strict : Option Bool
  report : Option Path
  json : Bool
  deriving DecidableEq, Repr

/-- What becomes of the arguments of a command. -/
inductive CommandRequest where
  | refused
  | help
  | run (options : CommandOptions)
  deriving DecidableEq, Repr

/-- What the last of the two switches for strictness says. -/
def strictness (given : List (Given CommandKey)) : Option Bool :=
  given.foldl (fun found g =>
    match g.1 with
    | .strict => some true
    | .noStrict => some false
    | _ => found) none

/-- Read the arguments of a command. -/
def CommandRequest.ofArguments (c : Command) (args : List String) : CommandRequest :=
  match split? (commandSwitches c) true args with
  | none => .refused
  | some (given, rest) =>
    if given.any fun g => g.1 == .help then .help
    else if 1 < rest.length then .refused
    else .run {
      contentRoot := rest.head?.map Path.ofString
      out := (lastValue? .out given).map Path.ofString
      strict := strictness given
      report := (lastValue? .report given).map Path.ofString
      json := given.any fun g => g.1 == .json }

end Crosslink.CommandLine
