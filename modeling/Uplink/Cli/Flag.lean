/-!
# Options and subcommands

The options of the command line and the subcommands, with their names.

## Main definitions

- `Flag`: an option, with or without a value.
- `Subcommand`: a subcommand, its names, its options and its operand.
-/

namespace Uplink.Cli

/-- An option. -/
inductive Flag where
  | help
  | verbose
  | staticAddress
  | gateway
  | server
  | requireClock
  | minYear
  | timeout
  | events
  | interfaceKind
  | apply
  deriving DecidableEq, Repr

namespace Flag

/-- The name of an option behind two dashes. -/
def name : Flag → String
  | help => "help"
  | verbose => "verbose"
  | staticAddress => "static"
  | gateway => "gateway"
  | server => "dns"
  | requireClock => "require-clock"
  | minYear => "min-year"
  | timeout => "timeout"
  | events => "events"
  | interfaceKind => "interface-type"
  | apply => "apply"

/-- The letter of an option behind one dash. -/
def letter? : Flag → Option Char
  | help => some 'h'
  | verbose => some 'v'
  | _ => none

/-- How the value of an option is called, if it takes one. -/
def valueName? : Flag → Option String
  | staticAddress => some "ADDR/PREFIX"
  | gateway => some "GATEWAY"
  | server => some "DNS"
  | minYear => some "MIN_YEAR"
  | timeout => some "TIMEOUT"
  | interfaceKind => some "INTERFACE_TYPE"
  | _ => none

/-- Whether an option takes a value. -/
def takesValue (f : Flag) : Bool := f.valueName?.isSome

/-- How an option with its value is called in a message. -/
def label (f : Flag) : String :=
  match f.valueName? with
  | some value => s!"--{f.name} <{value}>"
  | none => s!"--{f.name}"

/-- The options of every command. -/
def common : List Flag := [help, verbose]

/-- The options of the wait command alone. -/
def ofWait : List Flag :=
  [staticAddress, gateway, server, requireClock, minYear, timeout, events, interfaceKind, apply]

end Flag

/-- A subcommand. -/
inductive Subcommand where
  | interfaces
  | wait
  | encode
  | decode
  deriving DecidableEq, Repr

namespace Subcommand

/-- All subcommands. -/
def all : List Subcommand := [interfaces, wait, encode, decode]

/-- The name of a subcommand, and its short form. -/
def names : Subcommand → List String
  | interfaces => ["interfaces", "i"]
  | wait => ["wait", "w"]
  | encode => ["encode", "e"]
  | decode => ["decode", "d"]

/-- The subcommand of a name. -/
def ofName? (name : String) : Option Subcommand := all.find? fun c => c.names.contains name

/-- The options of a subcommand. -/
def flags : Subcommand → List Flag
  | wait => Flag.common ++ Flag.ofWait
  | _ => Flag.common

/-- How the operand of a subcommand is called in a message, if there is one. -/
def operand? : Subcommand → Option String
  | encode => some "<ENDPOINT>"
  | decode => some "<HEX>"
  | _ => none

end Subcommand

end Uplink.Cli
