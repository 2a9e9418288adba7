import Plotline.Text.Blank

/-!
What a player can say, and how a line of input is read.
-/

namespace Plotline

inductive Command
  | continue
  | choose (index : Nat)
  | enter (area : String)
  | interact (interaction : String)
  | save (slot : Nat)
  | load (slot : Nat)
  | status
  | quit
  | invalid (reason : String)
  deriving DecidableEq, Repr

namespace Command

private def ofSlot (verb argument : String) (command : Nat → Command) : Command :=
  match Text.readNatural? UInt32.size argument with
  | some slot => command slot
  | none => invalid s!"usage: {verb} <slot number>"

def ofWords (line verb argument : String) : Command :=
  if verb = "q" || verb = "quit" then quit
  else if verb = "status" then status
  else if verb = "enter" && !argument.isEmpty then enter argument
  else if verb = "interact" && !argument.isEmpty then interact argument
  else if verb = "save" then ofSlot verb argument save
  else if verb = "load" then ofSlot verb argument load
  else invalid s!"unknown command '{line}'"

/-- Reads a line of input: nothing goes on, a number from 1 to 9 chooses, a verb may take an argument. -/
def parse (input : String) : Command :=
  let line := Text.trim input
  if line.isEmpty then «continue»
  else
    match Text.readNatural? UInt64.size line with
    | some number =>
      if 1 ≤ number && number ≤ 9 then choose (number - 1) else invalid "choices are numbered 1-9"
    | none =>
      match Text.splitAtBlank? line with
      | some (verb, rest) => ofWords line verb (Text.trim rest)
      | none => ofWords line line ""

end Command

end Plotline
