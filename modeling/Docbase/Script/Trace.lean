import Docbase.Text.Utf8

/-!
Which functions are running, and where. An error tells the unit of a function that is running
and the line it is at. Calls among functions of scripts nest freely; calls that go through the
host, as those of metamethods do, nest up to a limit of their own.
-/
namespace Docbase.Script

/-- The most bytes of a label, with a mark at its end. -/
def labelSize : Nat := 60

/-- How errors refer to a unit. A name that starts with an equals sign is taken as it is, and
one that starts with an at sign is a path, of which the end counts; of any other name the
first line is quoted. -/
def unitLabel (name : String) : Bytes :=
  match name.toList with
  | '=' :: rest => (Utf8.encodeChars rest).take (labelSize - 1)
  | '@' :: rest =>
    let path := Utf8.encodeChars rest
    if path.length < labelSize then path
    else Utf8.encode "..." ++ path.drop (path.length - (labelSize - 4))
  | _ =>
    let bytes := Utf8.encode name
    let line := bytes.takeWhile (· != 10)
    let room := labelSize - "[string \"...\"]".length - 1
    let quotation :=
      if line.length = bytes.length ∧ bytes.length < room then bytes
      else line.take room ++ Utf8.encode "..."
    Utf8.encode "[string \"" ++ quotation ++ Utf8.encode "\"]"

/-- A function that is running: one of the host, or one of a script at a line of its unit. -/
inductive Frame where
  | host
  | script (unit : Bytes) (line : Nat)
  deriving Inhabited

/-- What errors say of where a function is; nothing of the host's. -/
def Frame.position : Frame → Bytes
  | .host => []
  | .script unit line => unit ++ Utf8.encode (":" ++ toString line ++ ": ")

/-- The functions that are running, innermost first, and how many calls went through the
host. -/
structure Trace where
  frames : List Frame
  hosted : Nat
  deriving Inhabited

namespace Trace

/-- How many calls through the host may nest. -/
def hostedLimit : Nat := 200

/-- Where all calls of a scope start. -/
def start : Trace := ⟨[], 1⟩

def push (t : Trace) (f : Frame) : Trace := { t with frames := f :: t.frames }

/-- One more call through the host. -/
def throughHost (t : Trace) : Trace := { t with hosted := t.hosted + 1 }

/-- The function a number of levels up, counting from 1. -/
def frame (t : Trace) (level : Nat) : Frame := t.frames.getD (level - 1) .host

end Trace

end Docbase.Script
