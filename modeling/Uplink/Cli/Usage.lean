import Uplink.Cli.Flag

/-!
# Faults of a command line

## Main definitions

- `UsageError`: what can be wrong with the arguments.
- `UsageError.message`: what is said about it.
- `Usage.help`: how the program is used.
-/

namespace Uplink.Cli

/-- What can be wrong with the arguments, or keep them from being a command. -/
inductive UsageError where
  /-- The user wants to know how the program is used. -/
  | helpWanted
  /-- There are no arguments at all. -/
  | noArguments
  | missingSubcommand
  | unknownSubcommand
  | unknownArgument
  /-- An option lacks its value. -/
  | missingValue
  /-- An option that takes no value was given one. -/
  | unexpectedValue
  /-- An option was given twice. -/
  | repeatedOption
  /-- An operand is missing, or the option that another one needs. -/
  | missingArgument
  | invalidValue (label value reason : String)
  /-- A value brings the program down. -/
  | breakdown (reason : String)
  deriving DecidableEq, Repr

/-- What is said about a fault. -/
def UsageError.message : UsageError → String
  | helpWanted => "help"
  | noArguments => "a subcommand is needed"
  | missingSubcommand => "a subcommand is needed"
  | unknownSubcommand => "there is no such subcommand"
  | unknownArgument => "there is no such argument"
  | missingValue => "an option lacks its value"
  | unexpectedValue => "an option takes no value"
  | repeatedOption => "an option was given twice"
  | missingArgument => "an argument is missing"
  | invalidValue label value reason => s!"invalid value '{value}' for '{label}': {reason}"
  | breakdown reason => reason

namespace Usage

/-- How a subcommand is called. -/
def line (c : Subcommand) : String :=
  let words := c.names.take 1 ++ c.operand?.toList ++
    c.flags.map fun f => "[" ++ f.label ++ "]"
  "  " ++ String.intercalate " " words

/-- How the program is used. -/
def help : String :=
  "Waits until the network is usable.\n\nUsage:\n" ++
    String.intercalate "\n" (Subcommand.all.map line) ++ "\n"

end Usage

end Uplink.Cli
