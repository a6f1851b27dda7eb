/-
# Room on the stack

Values that stand within others are copied, and read from JSON, by calls within calls, and there may be
only so many calls at once.  How deep a value may be depends on how many are open already: on who calls,
and on the way from there to what copies or reads.  `Room` says how much is left on each way.  It is a
parameter of everything that comes to such a limit, and where two ways are compared each has its own.

The numbers are those of a runtime that allows a thousand calls at once.
-/

namespace WorkflowGate

/-- How deep values may stand within others, on each way through the program. -/
class Room where
  /-- Forms, which are copied when a canvas is read. -/
  form : Nat
  /-- JSON texts in forms, which the checks of fields and of branches read. -/
  field : Nat
  /-- Bodies of answers. -/
  answer : Nat
  /-- The settings file in the user's home, which is read again for every setting that is missing. -/
  home : Nat
  /-- A settings file at a given place, which is read once. -/
  file : Nat
  /-- Saved workflows. -/
  document : Nat

namespace Room

/-- The room of a plain call from the top of a program.  To settle a missing setting takes three calls
more than to read a file at a given place. -/
@[reducible] def inPlace : Room where
  form := 495
  field := 991
  answer := 982
  home := 988
  file := 991
  document := 989

/-- The room of a run that an event loop carries out.  The calls of the loop stand above the copying, and
those of a thread above the checks; an answer comes in at the loop and not behind the run. -/
@[reducible] def awaited : Room where
  form := 491
  field := 987
  answer := 984
  home := 988
  file := 991
  document := 989

end Room

/-- A call is a plain one unless it is said otherwise. -/
instance : Room := Room.inPlace

end WorkflowGate
