import Edid.Mode.Comparison
import Edid.Mode.Rate
import Edid.Standard.Formats

/-!
# Matching modes with formats

A mode is one of the listed formats if its timings and flags agree and its clock is one of the
two that belong to the format: most formats run at a whole rate or at 1000/1001 of it. An aspect
ratio counts only if the mode states one, a stereo layout never does.
-/

set_option autoImplicit false

namespace Edid

/-- The distance of two numbers. -/
def distance (left right : Nat) : Nat :=
  (left - right) + (right - left)

namespace Mode

/-- The clock of the other member of a 60 and 59.94 Hz pair, kept to 32 bits. A mode whose rate
is no multiple of six has no such twin and gives its own clock. Formats of 240 and 480 lines are
listed with the lower clock, all others with the higher one. -/
def alternateClock (mode : Mode) : Nat :=
  if mode.refresh % 6 ≠ 0 then mode.clock
  else if mode.height = 240 ∨ mode.height = 480 then
    (mode.clock * 1001 + 500) / 1000 % 0x100000000
  else
    (mode.clock * 1000 + 500) / 1001 % 0x100000000

/-- The two clocks of a listed format. -/
def clocks (mode : Mode) : List Nat :=
  [mode.clock, mode.alternateClock]

/-- What has to agree between a mode and a format. -/
def formatParts (mode : Mode) : Parts where
  timings := true
  flags := true
  aspect := mode.aspect.isSome

end Mode

/-- How many lines a format may add to its vertical front porch. -/
def extraLines (code : Vic) : Nat :=
  if code ∈ [8, 9, 12, 13] then 1 else if code ∈ [23, 24, 27, 28] then 2 else 0

/-- A format with each porch that it allows, the shortest first. -/
def porchVariants (code : Vic) (format : Mode) : List Mode :=
  (List.range (extraLines code + 1)).map fun amount =>
    { format with vertical := format.vertical.lengthenPorch amount }

/-- How the clock of a mode is compared with those of a format. -/
inductive ClockRule where
  /-- Within so many kHz. -/
  | within (tolerance : Nat)
  /-- In the same whole number of picoseconds. -/
  | samePeriod
  deriving DecidableEq, Repr

/-- Picoseconds of a clock in kHz, rounded down. -/
def periodOf (clock : Nat) : Nat :=
  1000000000 / clock

def ClockRule.accepts (rule : ClockRule) (clock target : Nat) : Bool :=
  match rule with
  | .within tolerance => distance clock target ≤ tolerance
  | .samePeriod => target ≠ 0 && periodOf clock = periodOf target

namespace Mode

/-- The clock of the mode is one of the two of the format. -/
def clockFits (mode : Mode) (rule : ClockRule) (format : Mode) : Bool :=
  format.clocks.any (rule.accepts mode.clock)

/-- The first CTA format that the mode is, with any porch it allows. A mode without a clock is
none. -/
def findCta? (mode : Mode) (rule : ClockRule) : Option (Vic × Mode) :=
  if mode.clock = 0 then none
  else
    ctaFormats.find? fun (code, format) =>
      mode.clockFits rule format &&
        (porchVariants code format).any fun variant => mode.agrees variant mode.formatParts

/-- The first HDMI format that the mode is. -/
def findHdmi? (mode : Mode) (rule : ClockRule) : Option (Vic × Mode) :=
  if mode.clock = 0 then none
  else
    hdmiFormats.find? fun (_, format) =>
      mode.clockFits rule format && mode.agrees format mode.formatParts

/-- The format that a mode is, a CTA format before an HDMI format. -/
def format? (mode : Mode) (rule : ClockRule) : Option Mode :=
  ((mode.findCta? rule).or (mode.findHdmi? rule)).map (·.2)

/-- The code of the CTA format that the mode is. -/
def ctaCode? (mode : Mode) (rule : ClockRule) : Option Vic :=
  (mode.findCta? rule).map (·.1)

/-- The code of the HDMI format that the mode is. -/
def hdmiCode? (mode : Mode) (rule : ClockRule) : Option Vic :=
  (mode.findHdmi? rule).map (·.1)

/-- Descriptors store clocks in steps of 10 kHz, so a clock may be off by half a step. -/
def snapTolerance : Nat := 5

/-- A mode whose clock is off by rounding gets the nearer of the two clocks of its format, the
alternate one if both are equally near. -/
def snapClock (mode : Mode) : Mode :=
  match mode.format? (.within snapTolerance) with
  | none => mode
  | some format =>
      let nearer :=
        if distance mode.clock format.clock < distance mode.clock format.alternateClock then
          format.clock
        else
          format.alternateClock
      { mode with clock := nearer }

/-- The colour range that a source should assume: limited for every CTA format but the first,
full for all other modes. -/
inductive QuantRange where
  | full
  | limited
  deriving DecidableEq, Repr

def defaultQuantRange (mode : Mode) : QuantRange :=
  match mode.ctaCode? .samePeriod with
  | some code => if 1 < code.toNat then .limited else .full
  | none => .full

end Mode

end Edid
