import Uplink.Cli.Command
import Uplink.Cli.Mark
import Uplink.Number.Seconds

/-!
# Reading a command line

The marks of a subcommand are taken one after the other; the first fault counts. What is missing is
noticed at the end.

## Main definitions

- `Draft`: what has been taken of a subcommand so far.
- `Draft.take`, `Draft.halt`: takes a mark; stops at an argument that can be nothing.
- `CommandLine.parse`: a command line from its arguments.
-/

namespace Uplink.Cli

/-- The most that the count of an option can be. -/
def maxCount : Nat := 255

/-- What has been taken of a subcommand so far. -/
structure Draft where
  /-- How often the verbose option was given. -/
  verbosity : Nat := 0
  options : WaitOptions := {}
  /-- The options that were given and cannot be given again. -/
  given : List Flag := []
  endpoint : Option Endpoint := none
  hex : Option String := none
  deriving DecidableEq, Repr

namespace Draft

/-- A year, which has 32 bits; it is read in 64. -/
def readYear (s : String) : Except String Int :=
  match Text.readSigned (Nat.pow 2 63 - 1) s.toList with
  | .error e => .error e.message
  | .ok year =>
    if -2147483648 ≤ year ∧ year ≤ 2147483647 then .ok year
    else .error s!"{year} is not in -2147483648..=2147483647"

/-- An address as a value. -/
def readAddress (s : String) : Except String Address := (Address.parse s).mapError (·.message)

/-- A kind of interface as a value. -/
def readKind (s : String) : Except String InterfaceKind :=
  (InterfaceKind.parse s).mapError (·.message)

/-- An endpoint as a value. -/
def readEndpoint (s : String) : Except String Endpoint := (Endpoint.parse s).mapError (·.message)

/-- A value that is taken, or a fault under a label. -/
def labelled {α : Type} (label value : String) : Except String α → Except UsageError α
  | .ok a => .ok a
  | .error reason => .error (.invalidValue label value reason)

/-- A timeout. -/
def readTimeout (s : String) : Except UsageError Duration :=
  match Seconds.read s with
  | .ok d => .ok d
  | .error (.invalid text) =>
    .error (.invalidValue Flag.timeout.label s (Seconds.ReadError.invalid text).message)
  | .error .tooLong => .error (.breakdown Seconds.ReadError.tooLong.message)

/-- Notes that an option was given that cannot be given twice. -/
def once (d : Draft) (f : Flag) : Except UsageError Draft :=
  if d.given.contains f then .error .repeatedOption else .ok { d with given := f :: d.given }

/-- Changes the options of a draft. -/
def set (d : Draft) (f : WaitOptions → WaitOptions) : Draft := { d with options := f d.options }

/-- Takes an option with a value. -/
def takeValue (d : Draft) (f : Flag) (v : String) : Except UsageError Draft := do
  match f with
  | .staticAddress =>
    return (← d.once f).set fun o => { o with staticAddress := some v }
  | .gateway =>
    let d ← d.once f
    let a ← labelled f.label v (readAddress v)
    return d.set fun o => { o with gateway := some a }
  | .server =>
    let a ← labelled f.label v (readAddress v)
    return { d with given := f :: d.given }.set fun o => { o with servers := o.servers ++ [a] }
  | .minYear =>
    let d ← d.once f
    let year ← labelled f.label v (readYear v)
    return d.set fun o => { o with minYear := year }
  | .timeout =>
    let d ← d.once f
    let limit ← readTimeout v
    return d.set fun o => { o with timeout := some limit }
  | .interfaceKind =>
    let d ← d.once f
    let kind ← labelled f.label v (readKind v)
    return d.set fun o => { o with target := kind }
  | _ => return d

/-- Takes an option that has no value. -/
def takeFlag (d : Draft) (f : Flag) : Except UsageError Draft := do
  match f with
  | .help => throw .helpWanted
  | .verbose => return { d with verbosity := min maxCount (d.verbosity + 1) }
  | .requireClock => return (← d.once f).set fun o => { o with requiresClock := true }
  | .events => return (← d.once f).set fun o => { o with events := true }
  | .apply => return (← d.once f).set fun o => { o with apply := true }
  | _ => throw .missingValue

/-- Takes a mark of a subcommand. -/
def take (c : Subcommand) (d : Draft) : Mark → Except UsageError Draft
  | .option f (some v) => d.takeValue f v
  | .option f none => d.takeFlag f
  | .operand v =>
    match c with
    | .encode => do
      let e ← labelled (c.operand?.getD "") v (readEndpoint v)
      return { d with endpoint := some e }
    | _ => .ok { d with hex := some v }

/-- The fault of arguments that end early. The mark that was held is still taken: its own faults do
not count any more, but it may bring the program down. -/
def halt (c : Subcommand) (d : Draft) (s : Stop) : UsageError :=
  match s.held with
  | some mark =>
    match d.take c mark with
    | .error (.breakdown reason) => .breakdown reason
    | _ => s.error
  | none => s.error

/-- The command of a complete draft. Gateway and name servers need a static address. -/
def finish (c : Subcommand) (d : Draft) : Except UsageError Command :=
  match c with
  | .interfaces => .ok .interfaces
  | .wait =>
    if (d.given.contains .gateway || d.given.contains .server) && d.options.staticAddress.isNone
    then .error .missingArgument
    else .ok (.wait d.options)
  | .encode =>
    match d.endpoint with
    | some e => .ok (.encode e)
    | none => .error .missingArgument
  | .decode =>
    match d.hex with
    | some hex => .ok (.decode hex)
    | none => .error .missingArgument

end Draft

namespace CommandLine

/-- Reads a subcommand from its arguments; `outer` is the verbosity given before it, which one given
behind it replaces. -/
def readSubcommand (outer : Nat) (c : Subcommand) (arguments : List String) :
    Except UsageError CommandLine := do
  let marks := Marks.read c arguments
  let d ← marks.marks.foldlM (Draft.take c) ({} : Draft)
  if let some stop := marks.stop then throw (d.halt c stop)
  let command ← d.finish c
  return ⟨if d.verbosity = 0 then outer else d.verbosity, command⟩

/-- The name under which help about subcommands is asked for. -/
def helpName : String := "help"

/-- Asking for help about a subcommand. Subcommands have none of their own. -/
def readHelp : List String → UsageError
  | [] => .helpWanted
  | [name] =>
    if name = helpName ∨ (Subcommand.ofName? name).isSome then .helpWanted else .unknownSubcommand
  | _ => .unknownSubcommand

/-- Whether a subcommand has a name. -/
def isSubcommand (name : String) : Bool := name == helpName || (Subcommand.ofName? name).isSome

/-- Reads the arguments up to the subcommand; `verbosity` is what was given so far. -/
def readFrom (verbosity : Nat) (divided : Bool) : List String → Except UsageError CommandLine
  | [] => .error (if verbosity = 0 then .noArguments else .missingSubcommand)
  | s :: rest =>
    if divided then
      .error (if isSubcommand s then .unknownArgument else .unknownSubcommand)
    else if s = helpName then .error (readHelp rest)
    else
      match Subcommand.ofName? s, Argument.ofText s with
      | some c, _ => readSubcommand verbosity c rest
      | none, .divider => readFrom verbosity true rest
      | none, .long name value =>
        match Marks.named? Flag.common name, value with
        | none, _ => .error .unknownArgument
        | some _, some _ => .error .unexpectedValue
        | some f, none => do
          let d ← ({ verbosity } : Draft).takeFlag f
          readFrom d.verbosity false rest
      | none, .letters cs => do
        let (marks, complete) := Marks.ofLetters Flag.common cs
        let d ← marks.foldlM (Draft.take .interfaces) ({ verbosity } : Draft)
        if complete then readFrom d.verbosity false rest else throw .unknownArgument
      | none, .word => .error .unknownSubcommand

/-- A command line from its arguments. -/
def parse (arguments : List String) : Except UsageError CommandLine := readFrom 0 false arguments

end CommandLine

end Uplink.Cli
