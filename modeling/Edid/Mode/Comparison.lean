import Edid.Mode

/-!
# Comparing modes

Modes are compared in parts, since tables leave some of them open: whether a stereo layout
counts, or an aspect ratio that only one side states.
-/

set_option autoImplicit false

namespace Edid

/-- Which parts of two modes have to agree. -/
structure Parts where
  timings : Bool := false
  clock : Bool := false
  flags : Bool := false
  stereo : Bool := false
  aspect : Bool := false
  deriving DecidableEq, Repr

namespace Mode

/-- The two modes agree in every part that is asked for. -/
def agrees (left right : Mode) (parts : Parts) : Bool :=
  (!parts.timings ||
      (left.horizontal == right.horizontal && left.vertical == right.vertical)) &&
    (!parts.clock || left.clock == right.clock) &&
    (!parts.flags || left.flags == right.flags) &&
    (!parts.stereo || left.stereo == right.stereo) &&
    (!parts.aspect || left.aspect == right.aspect)

end Mode

end Edid
