/-!
# Random tapes

Randomness is an endless tape of bytes that is read from front to back. What is drawn is data for
the rest of the library, so a statement about every tape holds whatever is drawn.

## Main definitions

* `Tape` - bytes and the position up to which they were read
* `Tape.draw` - the next bytes, and the tape after them
-/

namespace SignOn

/-- An endless sequence of random bytes, read up to a position. -/
structure Tape where
  byte : Nat → UInt8
  position : Nat

namespace Tape

/-- The next `count` bytes, and the tape after them. -/
def draw (t : Tape) (count : Nat) : List UInt8 × Tape :=
  ((List.range count).map fun i => t.byte (t.position + i),
    { t with position := t.position + count })

@[simp] theorem length_draw (t : Tape) (count : Nat) : (t.draw count).1.length = count := by
  simp [draw]

end Tape

end SignOn
