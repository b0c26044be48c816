/-!
# Error chains

An error as it is reported: a message and the messages of its causes, outermost first.

## Main definitions

- `ErrorChain.wrap`: puts a message in front of an error, which becomes its cause.
- `ErrorChain.line`: the whole chain on one line.
- `ErrorChain.report`: the message, and under it the causes, numbered if there are several.
-/

namespace Uplink

/-- A message and what caused it. -/
structure ErrorChain where
  message : String
  causes : List String := []
  deriving DecidableEq, Repr

namespace ErrorChain

/-- An error without a cause. -/
def ofMessage (message : String) : ErrorChain := { message }

/-- All messages, outermost first. -/
def messages (e : ErrorChain) : List String := e.message :: e.causes

/-- The innermost message. -/
def root (e : ErrorChain) : String := e.causes.getLastD e.message

/-- An error that explains what was attempted when another one struck. -/
def wrap (message : String) (cause : ErrorChain) : ErrorChain := ⟨message, cause.messages⟩

/-- The chain on one line. -/
def line (e : ErrorChain) : String := String.intercalate ": " e.messages

/-- A text with every line after the first one indented. -/
def indent (margin : String) (text : String) : String :=
  String.intercalate ("\n" ++ margin) (text.splitOn "\n")

/-- One cause in a report; a number is right-aligned in five columns. -/
def reportCause (number : Option Nat) (cause : String) : String :=
  match number with
  | none => "    " ++ indent "    " cause
  | some n =>
    let digits := toString n
    String.ofList (List.replicate (5 - digits.length) ' ') ++ digits ++ ": "
      ++ indent "       " cause

/-- The message, and under it the causes. -/
def report (e : ErrorChain) : String :=
  match e.causes with
  | [] => e.message
  | [cause] => e.message ++ "\n\nCaused by:\n" ++ reportCause none cause
  | causes =>
    let numbered := causes.zipIdx.map fun (cause, n) => reportCause (some n) cause
    e.message ++ "\n\nCaused by:\n" ++ String.intercalate "\n" numbered

@[simp] theorem messages_wrap (message : String) (e : ErrorChain) :
    (wrap message e).messages = message :: e.messages := rfl

/-- What an error is wrapped in does not change where it comes from. -/
@[simp] theorem root_wrap (message : String) (e : ErrorChain) : (wrap message e).root = e.root := by
  cases e with
  | mk message causes => simp [root, wrap, messages, List.getLast?_cons]

end ErrorChain

end Uplink
