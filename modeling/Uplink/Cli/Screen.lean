import Uplink.Log.Filter

/-!
# The screen

Everything that the program shows goes through the log: what is printed are lines of the level
`info` under a target of their own, which are shown without a symbol. A filter says what is shown.

## Main definitions

- `Entry`: a line with the target it is logged under.
- `Screen.filter`: the filter in force.
- `Screen.render`: what entries look like.
-/

namespace Uplink.Cli

/-- A line with the target it is logged under. -/
structure Entry where
  target : String
  line : Log.Line
  deriving DecidableEq, Repr

namespace Screen

/-- The target of printed lines. -/
def printTarget : String := "netready::print"

/-- The target under which the coding of endpoints is logged. -/
def codecTarget : String := "netready_common::network::codec"

/-- A printed line. -/
def print (text : String) : Entry := ⟨printTarget, ⟨.info, text⟩⟩

/-- The threshold for a verbosity. -/
def threshold : (verbosity : Nat) → Log.Threshold
  | 0 => ⟨Log.Level.info.rank⟩
  | 1 => ⟨Log.Level.debug.rank⟩
  | _ => ⟨Log.Level.trace.rank⟩

/-- The filter for a verbosity; what is printed is always shown. -/
def filterFor (verbosity : Nat) : Log.Filter :=
  ⟨[{ threshold := threshold verbosity },
    { target := some printTarget, threshold := ⟨Log.Level.info.rank⟩ }]⟩

/-- The filter in force: the one that the user has set, if it is well formed, or that of the
verbosity. -/
def filter (setting : Option String) (verbosity : Nat) : Log.Filter :=
  (setting.bind Log.Filter.read?).getD (filterFor verbosity)

/-- An entry as it is shown. -/
def renderEntry (e : Entry) : String :=
  (if e.target = printTarget then Log.sanitize e.line.text else e.line.format) ++ "\n"

/-- What entries look like through a filter. -/
def render (f : Log.Filter) (entries : List Entry) : String :=
  String.join ((entries.filter fun e => f.passes e.target e.line.level).map renderEntry)

end Screen

end Uplink.Cli
