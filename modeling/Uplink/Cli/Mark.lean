import Uplink.Cli.Usage

/-!
# Marks: the arguments of a subcommand, told apart

The arguments of a subcommand are a sequence of marks: options, each with its value if it has one,
and operands. An option that lacks its value is a mark without one. The sequence ends early at an
argument that can be nothing.

An option may be written with its value behind an equals sign, or with its value as the next
argument, unless that starts like an option. Letters may stand together behind one dash. Behind two
dashes alone, there are only operands.

## Main definitions

- `Mark`: an option or an operand.
- `Argument.ofText`: what an argument looks like on its own.
- `Marks.read`: the marks of a list of arguments.
-/

namespace Uplink.Cli

/-- An option or an operand. -/
inductive Mark where
  | option (f : Flag) (value : Option String)
  | operand (value : String)
  deriving DecidableEq, Repr

/-- What an argument looks like on its own. -/
inductive Argument where
  /-- Two dashes alone. -/
  | divider
  /-- Two dashes and a name, with a value behind an equals sign if there is one. -/
  | long (name : String) (value : Option String)
  /-- A dash and letters. -/
  | letters (cs : List Char)
  | word
  deriving DecidableEq, Repr

/-- What an argument looks like on its own. A single dash is a word. -/
def Argument.ofText (s : String) : Argument :=
  match s.toList with
  | ['-', '-'] => divider
  | '-' :: '-' :: cs =>
    let name := String.ofList (cs.takeWhile (· != '='))
    match cs.dropWhile (· != '=') with
    | _ :: value => long name (some (String.ofList value))
    | [] => long name none
  | '-' :: c :: cs => letters (c :: cs)
  | _ => word

/-- Why a sequence of marks ends early, with the mark that was not complete then. -/
structure Stop where
  error : UsageError
  held : Option Mark
  deriving DecidableEq, Repr

/-- A sequence of marks, and why it ends early if it does. -/
structure Marks where
  marks : List Mark
  stop : Option Stop := none
  deriving DecidableEq, Repr

namespace Marks

/-- The same marks behind other ones. -/
def after (first : List Mark) (m : Marks) : Marks := { m with marks := first ++ m.marks }

/-- The option of a name among some. -/
def named? (flags : List Flag) (name : String) : Option Flag := flags.find? fun f => f.name == name

/-- The option of a letter among some. -/
def lettered? (flags : List Flag) (c : Char) : Option Flag :=
  flags.find? fun f => f.letter? == some c

/-- Letters behind one dash: the options up to the first letter of none, and whether there is such
a letter. No option with a letter takes a value. -/
def ofLetters (flags : List Flag) : List Char → List Mark × Bool
  | [] => ([], true)
  | c :: cs =>
    match lettered? flags c with
    | none => ([], false)
    | some f =>
      let (marks, complete) := ofLetters flags cs
      (.option f none :: marks, complete)

/-- Reads the arguments of a subcommand. `held` is a mark that is not complete until the next one
begins. `awaits` is the option that the next word is the value of. -/
def readFrom (c : Subcommand) (held : Option Mark) (awaits : Option Flag) (operands : Nat)
    (divided : Bool) : List String → Marks
  | [] => ⟨held.toList, none⟩
  | s :: rest =>
    let word : Marks :=
      if operands = 0 ∧ c.operand?.isSome then
        (readFrom c (some (.operand s)) none 1 divided rest).after held.toList
      else ⟨[], some ⟨.unknownArgument, held⟩⟩
    if divided then word
    else
      match Argument.ofText s with
      | .divider => readFrom c held none operands true rest
      | .long name value =>
        match named? c.flags name, value with
        | none, _ => ⟨[], some ⟨.unknownArgument, held⟩⟩
        | some f, some v =>
          if f.takesValue then
            (readFrom c none none operands false rest).after (held.toList ++ [.option f (some v)])
          else ⟨[], some ⟨.unexpectedValue, held⟩⟩
        | some f, none =>
          if f.takesValue then
            (readFrom c (some (.option f none)) (some f) operands false rest).after held.toList
          else
            (readFrom c none none operands false rest).after (held.toList ++ [.option f none])
      | .letters cs =>
        match ofLetters c.flags cs with
        | ([], _) => ⟨[], some ⟨.unknownArgument, held⟩⟩
        | (marks, false) => ⟨held.toList ++ marks, some ⟨.unknownArgument, none⟩⟩
        | (marks, true) =>
          (readFrom c none none operands false rest).after (held.toList ++ marks)
      | .word =>
        match awaits with
        | some f => readFrom c (some (.option f (some s))) none operands false rest
        | none => word

/-- The marks of the arguments of a subcommand. -/
def read (c : Subcommand) (arguments : List String) : Marks :=
  readFrom c none none 0 false arguments

end Marks

end Uplink.Cli
