import Uplink.Log
import Uplink.Number.Decimal
import Uplink.Pattern
import Uplink.Text.Cut

/-!
# Log filters

A filter says which lines of the log are written. It is a list of directives, separated by commas.
A directive sets a threshold for all lines, or for those logged under a target that starts with a
given name; it may ask for a field of the line or for a span around it. Of the directives that
apply to a line, the most specific one decides.

Where the parts of a directive stand is found in its text without the blanks around it, counted in
bytes, and the parts are cut out of the text as it is; so blanks in front of a directive shift them.

## Main definitions

- `Threshold`: how verbose the log may be.
- `Directive`, `Directive.read?`: a directive and its grammar.
- `Filter`, `Filter.read?`: a list of directives.
- `Filter.passes`: whether a line is written.
-/

namespace Uplink.Log

/-- How verbose the log may be: lines of a rank up to this one pass, and for zero none. -/
structure Threshold where
  rank : Nat
  deriving DecidableEq, Repr

namespace Threshold

/-- Everything passes. -/
def all : Threshold := ⟨5⟩

/-- The words for the thresholds, in the order of their ranks. -/
def words : List String := ["off", "error", "warn", "info", "debug", "trace"]

/-- Reads a threshold: a word in any case, or its rank. An empty text stands for errors. -/
def read? (s : String) : Option Threshold :=
  match Text.readUnsigned 10 (UInt64.size - 1) s.toList with
  | .ok n => if n ≤ 5 then some ⟨n⟩ else none
  | .error _ =>
    if s.isEmpty then some ⟨1⟩
    else
      let lower := String.ofList (s.toList.map Char.toLower)
      (words.findIdx? (· == lower)).map Threshold.mk

/-- Whether a line of a level passes. -/
def passes (t : Threshold) (l : Level) : Bool := l.rank ≤ t.rank

end Threshold

/-- A field that a directive asks for; a value is asked for only of the fields of spans. -/
structure FieldMatch where
  name : String
  hasValue : Bool
  deriving DecidableEq, Repr

/-- A directive. -/
structure Directive where
  /-- What the target starts with; nothing if any target will do. -/
  target : Option String := none
  span : Option String := none
  field : Option FieldMatch := none
  threshold : Threshold := .all
  deriving DecidableEq, Repr

namespace Directive

/-- Reads a threshold that may be left out. -/
def readThreshold? (s : List Char) : Option Threshold :=
  if s.isEmpty then some .all else Threshold.read? (String.ofList s)

/-- Whether a target can start with a character. -/
def startsTarget (c : Char) : Bool := Text.isAlphanumeric c || c == '-' || c == ':' || c == '_'

/-- Whether a text can be asked for as the value of a field: a number, or else a pattern. -/
def isFieldValue (value : List Char) : Bool :=
  (Decimal.read? value).isSome || Decimal.isUnbounded value || Pattern.isAccepted value

/-- Reads a field: a name, with a value if there is one. What stands behind a second equals sign is
not looked at. -/
def readField? (s : List Char) : Option FieldMatch :=
  if s.isEmpty then none
  else
    let name := String.ofList (s.takeWhile (· != '='))
    match s.dropWhile (· != '=') with
    | [] => some ⟨name, false⟩
    | _ :: rest =>
      if isFieldValue (rest.takeWhile (· != '=')) then some ⟨name, true⟩ else none

/-- Reads what follows target and span: nothing, or a threshold. The text is `s`, of which `rest`
stands at the given position. -/
def readEnd? (d : Directive) (s : List Char) (position : Nat) :
    (rest : List Char) → Option Directive
  | [] => some d
  | '=' :: _ => do
    let threshold ← readThreshold? (← Text.dropBytes? (position + 1) s)
    return { d with threshold }
  | _ => none

/-- Reads the span of a directive, which stands at the given position behind an opening bracket. -/
def readSpan? (d : Directive) (s : List Char) (start : Nat) (rest : List Char) :
    Option Directive := do
  let inSpan (c : Char) : Bool := c != ']' && c != '\x7b'
  let stop := start + Text.width (rest.takeWhile inSpan)
  let name := String.ofList (← Text.cut? s start stop)
  match rest.dropWhile inSpan with
  | ']' :: more => readEnd? { d with span := some name } s (stop + 1) more
  | _ :: more =>
    let inField (c : Char) : Bool := c != '\x7d'
    let fieldStop := stop + 1 + Text.width (more.takeWhile inField)
    match more.dropWhile inField with
    | _ :: ']' :: more =>
      let field ← readField? (← Text.cut? s (stop + 1) fieldStop)
      let span := if name.isEmpty then none else some name
      readEnd? { d with span, field := some field } s (fieldStop + 2) more
    | _ => none
  | [] => none

/-- Reads a directive: a threshold, or a target with a threshold behind an equals sign, all of it
passing if there is none; a span stands in brackets behind the target or alone. -/
def read? (s : List Char) : Option Directive :=
  match Text.trim s with
  | [] => none
  | '[' :: rest => readSpan? {} s 1 rest
  | c :: rest =>
    if !startsTarget c then none
    else do
      let inTarget (c : Char) : Bool := c != '=' && c != '['
      let stop := Text.width ((c :: rest).takeWhile inTarget)
      match (c :: rest).dropWhile inTarget with
      | [] =>
        let word := String.ofList s
        match Threshold.read? word with
        | some threshold => return { threshold }
        | none => return { target := some word }
      | '[' :: more =>
        let target := String.ofList (← Text.cut? s 0 stop)
        readSpan? { target := some target } s (stop + 1) more
      | more =>
        let target := String.ofList (← Text.cut? s 0 stop)
        readEnd? { target := some target } s stop more

/-- Whether a directive can apply to a line: it asks for no span, and for no field but the text,
which every line has. -/
def appliesToLines (d : Directive) : Bool :=
  d.span.isNone && (match d.field with
    | some field => field.name == "message" && !field.hasValue
    | none => true)

/-- Whether a directive applies to a line logged under a target. -/
def appliesTo (d : Directive) (target : String) : Bool :=
  d.appliesToLines && (match d.target with
    | some name => name.toList.isPrefixOf target.toList
    | none => true)

/-- How specific a directive is: first the length of its target counts, then whether it asks for a
field. -/
def specificity (d : Directive) : Nat :=
  let target := match d.target with
    | some name => name.utf8ByteSize + 1
    | none => 0
  2 * target + (if d.field.isSome then 1 else 0)

end Directive

/-- A list of directives. -/
structure Filter where
  directives : List Directive
  deriving DecidableEq, Repr

namespace Filter

/-- Reads a filter; one faulty directive spoils it. Between commas there may be nothing. -/
def read? (s : String) : Option Filter :=
  let parts := (s.splitOn ",").filter fun part => !part.isEmpty
  (parts.mapM fun part => Directive.read? part.toList).map Filter.mk

/-- The more specific of two directives; of two alike, the later one. -/
def prefer (best : Option Directive) (d : Directive) : Option Directive :=
  match best with
  | some b => if b.specificity ≤ d.specificity then some d else some b
  | none => some d

/-- The directive that decides about lines logged under a target. -/
def decisive? (f : Filter) (target : String) : Option Directive :=
  (f.directives.filter fun d => d.appliesTo target).foldl prefer none

/-- Whether a line of a level, logged under a target, is written. -/
def passes (f : Filter) (target : String) (l : Level) : Bool :=
  match f.decisive? target with
  | some d => d.threshold.passes l
  | none => false

end Filter

end Uplink.Log
