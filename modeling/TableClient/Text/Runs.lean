import TableClient.Text.Digits
import TableClient.Text.Split
/-! Properties of characters as runs. A run gives one value to all code points from its
start up to the start of the next one, so a property is an array of runs whose starts
increase. It is written as words, each a start in hexadecimal, a colon and a value. All
properties are those of Unicode 17; a code point that is no character there has the value
of the run it falls into. -/
namespace TableClient.Text

structure Run (α : Type) where
  start : Nat
  value : α

namespace Run

variable {α : Type}

/-- The number of runs that start at a code point or before it, given that it lies between
two bounds. -/
def countUpTo (runs : Array (Run α)) (codePoint low high : Nat) : Nat :=
  if low < high then
    let middle := (low + high) / 2
    if runs[middle]?.any fun run => run.start ≤ codePoint then
      countUpTo runs codePoint (middle + 1) high
    else countUpTo runs codePoint low middle
  else low
termination_by high - low

/-- The run that a code point falls into; none in front of the first. -/
def find? (runs : Array (Run α)) (codePoint : Nat) : Option (Run α) :=
  match countUpTo runs codePoint 0 runs.size with
  | 0 => none
  | count + 1 => runs[count]?

def value? (runs : Array (Run α)) (c : Char) : Option α := (find? runs c.toNat).map value

def ofWord? (read? : List Char → Option α) (word : List Char) : Option (Run α) := do
  let (start, behind) := spanUntil (· == ':') word
  return ⟨← hexNumber? start, ← read? (behind.drop 1)⟩

/-- The runs that the words of a text write, where its lines are given one by one. -/
def ofLines (read? : List Char → Option α) (lines : List String) : Array (Run α) :=
  (lines.flatMap fun line => splitOn (· == ' ') line.toList).filterMap (ofWord? read?) |>.toArray

end Run
end TableClient.Text
