/-! # Consoles

A console on a terminal is kept and handed out again. While the output is redirected every request
makes a new one, so that nothing is written to an output of the past.
-/

namespace ScadAdvisor

inductive Stdout where
  | terminal
  | pipe
  | missing
  | closed
deriving DecidableEq, Repr

def Stdout.isTerminal (out : Stdout) : Bool := out == .terminal

/-- A console and its settings; the number tells consoles of equal settings apart. -/
structure Console where
  number : Nat
  color : Bool
  emoji : Bool
  terminal : Bool
deriving DecidableEq, Repr

def Console.isColored (console : Console) : Bool := console.color && console.terminal

/-- The consoles that are kept, and how many have been made. -/
structure ConsolePool where
  kept : List Console := []
  made : Nat := 0
deriving DecidableEq, Repr

namespace ConsolePool

def find? (pool : ConsolePool) (color emoji : Bool) : Option Console :=
  pool.kept.find? fun c => c.color == color && c.emoji == emoji

def get (pool : ConsolePool) (out : Stdout) (color emoji : Bool) : Console × ConsolePool :=
  match if out.isTerminal then pool.find? color emoji else none with
  | some console => (console, pool)
  | none =>
    let console := { number := pool.made, color, emoji, terminal := out.isTerminal }
    (console,
      { kept := if out.isTerminal then pool.kept ++ [console] else pool.kept, made := pool.made + 1 })

end ConsolePool

end ScadAdvisor
