/-!
# Log lines

A log line has a level and a text. It is written with a symbol for its level in front; control
characters that a terminal would obey are written out.

## Main definitions

- `Log.Level`, `Log.Line`: a line and its level.
- `Log.sanitize`: a text with control characters written out.
- `Log.Line.format`: a line as it is written.
- `Log.Line.rows`: the same in the rows that it takes.
-/

namespace Uplink.Log

/-- How grave a line is. -/
inductive Level where
  | trace
  | debug
  | info
  | warn
  | error
  deriving DecidableEq, Repr

namespace Level

/-- The rank of a level; graver levels rank lower. -/
def rank : Level → Nat
  | error => 1
  | warn => 2
  | info => 3
  | debug => 4
  | trace => 5

/-- What stands in front of a line of the level. -/
def symbol : Level → String
  | trace => "[ ]"
  | debug => "[?]"
  | info => "[+]"
  | warn => "[*]"
  | error => "[-]"

end Level

/-- A line of the log. -/
structure Line where
  level : Level
  text : String
  deriving DecidableEq, Repr

/-- The lower-case hexadecimal digits of a value below 256, without leading zeros. -/
def shortHex (n : Nat) : String :=
  let digit (d : Nat) : Char :=
    if d < 10 then Char.ofNat ('0'.toNat + d) else Char.ofNat ('a'.toNat + (d - 10))
  if n < 16 then String.ofList [digit n] else String.ofList [digit (n / 16), digit (n % 16)]

/-- One character as it is written: the controls that steer a terminal are spelled out. -/
def sanitizeChar (c : Char) : String :=
  let n := c.toNat
  if n = 0x1b then "\\x1b"
  else if n = 0x07 then "\\x07"
  else if n = 0x08 then "\\x08"
  else if n = 0x0c then "\\x0c"
  else if n = 0x7f then "\\x7f"
  else if 0x80 ≤ n ∧ n ≤ 0x9f then "\\u\x7b" ++ shortHex n ++ "\x7d"
  else String.ofList [c]

/-- A text with the controls that steer a terminal spelled out. -/
def sanitize (text : String) : String :=
  String.join (text.toList.map sanitizeChar)

/-- A line as it is written, without the end of the line. -/
def Line.format (l : Line) : String :=
  l.level.symbol ++ " " ++ sanitize l.text

/-- A row without the carriage return at its end. -/
def stripReturn (row : String) : String :=
  if row.toList.getLast? = some '\r' then String.ofList row.toList.dropLast else row

/-- A line in the rows that it takes: a text can end rows of its own. -/
def Line.rows (l : Line) : List String := (l.format.splitOn "\n").map stripReturn

/-- The rows of a log but for those that start like a line of the lowest level. -/
def shown (log : List Line) : List String :=
  (log.flatMap Line.rows).filter fun row => !row.startsWith (Level.trace.symbol ++ " ")

end Uplink.Log
