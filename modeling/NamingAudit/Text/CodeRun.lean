/-! Sets of code points as arithmetic runs: a range for a script whose letters lie side by side,
and every other code point of a range where capital and small letters alternate. -/

namespace NamingAudit.Text

structure CodeRun where
  first : Nat
  last : Nat
  step : Nat

namespace CodeRun

def contains (run : CodeRun) (code : Nat) : Bool :=
  run.first ≤ code && code ≤ run.last && (code - run.first) % run.step == 0

end CodeRun

structure ShiftedRun where
  run : CodeRun
  shift : Int

def inRuns (runs : List CodeRun) (code : Nat) : Bool :=
  runs.any fun run => run.contains code

def shiftCode? (runs : List ShiftedRun) (code : Nat) : Option Nat :=
  (runs.find? fun entry => entry.run.contains code).map fun entry =>
    ((code : Int) + entry.shift).toNat

end NamingAudit.Text
