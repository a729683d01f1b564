import Edid.Formula.Request
import Edid.Machine

/-!
# Generalized timing formula

The GTF formula in integers, with the default blanking curve or one that the display supplies.
A supplied curve can drive the blanking below zero, so these values are integers of either
sign, and every quotient is rounded toward zero.

The formula is given twice, in integers of any size and in the words of a machine. A caller who has
no bound on what is asked for takes the words: a supplied curve can leave so little of a line that
its pixels of a second do not fit, and this is a fault.
-/

set_option autoImplicit false

namespace Edid

namespace Gtf

open Formula

/-- Coefficients of the blanking curve. `twoC` and `twoJ` are stored doubled, as a range
descriptor writes them. -/
structure Curve where
  m : Nat
  twoC : Nat
  k : Nat
  twoJ : Nat
  deriving DecidableEq, Repr

/-- The curve that every GTF display knows: M 600, C 40, K 128, J 20. -/
def Curve.standard : Curve :=
  ⟨600, 80, 128, 40⟩

/-- A request in the units of the formula. -/
structure Frame where
  /-- Fields per second. -/
  fieldRate : Nat
  /-- One half line, counted in half lines, if interlaced. -/
  interlace : Nat
  /-- Pixels of a line, a multiple of eight. -/
  width : Nat
  /-- Pixels of a line with its margins. -/
  activeWidth : Nat
  /-- Lines of a field. -/
  height : Nat
  /-- Lines of a field with its margins. -/
  fieldLines : Nat
  deriving DecidableEq, Repr

/-- Widths are rounded to the nearest eight pixels, margins to the nearest pixel. -/
def Frame.ofRequest (request : Request) : Frame :=
  let width := (request.width + 4) / 8 * 8
  let height := if request.interlaced then request.height / 2 else request.height
  let marginWidth := if request.margins then (width * 18 + 500) / 1000 else 0
  let marginLines := if request.margins then (height * 18 + 500) / 1000 else 0
  { fieldRate := if request.interlaced then request.refresh * 2 else request.refresh
    interlace := if request.interlaced then 1 else 0
    width := width
    activeWidth := width + 2 * marginWidth
    height := height
    fieldLines := height + 2 * marginLines }

/-- The line rate in Hz that leaves 550 microseconds for sync and back porch. -/
def Frame.lineRate? (frame : Frame) : Option Nat :=
  let available := (1000000 - 550 * frame.fieldRate) / 500
  let halfLines := (frame.fieldLines + 1) * 2 + frame.interlace
  if available = 0 then none
  else
    let rate := halfLines * 1000 * frame.fieldRate / available
    if rate = 0 then none else some rate

/-- Lines of a field with its blanking. -/
def Frame.fieldTotal (frame : Frame) (lineRate : Nat) : Nat :=
  frame.fieldLines + (550 * lineRate / 1000 + 500) / 1000 + 1

/-- The share of a line that is blank, in thousandths of a percent. -/
def Curve.duty (curve : Curve) (lineRate : Nat) : Int :=
  let twoC : Int := curve.twoC
  let twoJ : Int := curve.twoJ
  let offset := (((twoC - twoJ) * curve.k).tdiv 256 + twoJ).tdiv 2
  let gradient := curve.k * curve.m / 256
  offset * 1000 - (gradient * 1000000 / lineRate : Nat)

/-- Blank pixels of a line, to the nearest sixteen. -/
def blankPixels (activeWidth : Nat) (duty : Int) : Int :=
  let ideal := (activeWidth * duty).tdiv (100000 - duty)
  (ideal + 8).tdiv 16 * 16

/-- The sync pulse takes eight percent of a line, to the nearest eight pixels. -/
def syncPixels (total : Int) : Int :=
  ((total * 8).tdiv 100 + 4).tdiv 8 * 8

/-- The mode for a frame at a line rate that leaves time for the picture. -/
def Frame.mode? (frame : Frame) (request : Request) (curve : Curve) (lineRate : Nat) :
    Option Mode := do
  let fieldTotal := frame.fieldTotal lineRate
  let blank := blankPixels frame.activeWidth (curve.duty lineRate)
  let total := frame.activeWidth + blank
  let sync := syncPixels total
  let syncStart := frame.width + (blank.tdiv 2 - sync)
  let clock ← narrow? clockBound ((total * lineRate).tdiv 1000)
  let horizontal ← narrowAxis? frame.width syncStart (syncStart + sync) total
  let vertical ←
    narrowAxis? frame.height (frame.height + 1) (frame.height + 1 + 3)
      (if request.interlaced then fieldTotal * 2 else fieldTotal)
  let polarities :=
    if curve = Curve.standard then Flags.negativePositive else Flags.positiveNegative
  some
    { clock := clock
      horizontal := horizontal
      vertical := vertical
      flags := { polarities with interlaced := request.interlaced } }

/-- The GTF mode for a request, in integers of any size. None for an empty request, for a rate or a
curve that leaves no time for the picture, and for results that are no mode. -/
def mode? (request : Request) (curve : Curve) : Option Mode :=
  if request.width = 0 ∨ request.height = 0 ∨ request.refresh = 0 then none
  else
    let frame := Frame.ofRequest request
    frame.lineRate?.bind fun lineRate =>
      if 100000 ≤ curve.duty lineRate then none else frame.mode? request curve lineRate

/-- The GTF mode on the default curve. -/
def standardMode? (request : Request) : Option Mode :=
  mode? request Curve.standard

/-! ## In machine words -/

section Words

open Machine

def Frame.checkedOfRequest (request : Request) : Checked Frame := do
  let width ← i63 ((← i63 (request.width + 4)) / 8 * 8)
  let height := if request.interlaced then request.height / 2 else request.height
  let fieldRate ← (if request.interlaced then i63 (request.refresh * 2) else pure request.refresh)
  let margin (active : Nat) : Checked Nat :=
    if request.margins then do
      return (← i63 ((← i63 (active * 18)) + 500)) / 1000
    else
      pure 0
  let fieldLines ← i63 (height + (← i63 (2 * (← margin height))))
  let activeWidth ← i63 (width + (← i63 (2 * (← margin width))))
  return {
    fieldRate := fieldRate
    interlace := if request.interlaced then 1 else 0
    width := width
    activeWidth := activeWidth
    height := height
    fieldLines := fieldLines }

def Frame.checkedLineRate? (frame : Frame) : Checked (Option Nat) := do
  let available := (← i64 (1000000 - (← i63 (550 * frame.fieldRate) : Nat))).tdiv 500
  let doubled ← i63 ((← i63 (frame.fieldLines + 1)) * 2)
  let halfLines ← i63 (doubled + frame.interlace)
  if available ≤ 0 then
    return none
  else
    let perSecond ← i63 ((← i63 (halfLines * 1000)) * frame.fieldRate)
    let rate ← divided perSecond available.toNat
    return if rate = 0 then none else some rate

def Frame.checkedFieldTotal (frame : Frame) (lineRate : Nat) : Checked Nat := do
  let syncAndBack := (← i63 ((← i63 (550 * lineRate)) / 1000 + 500)) / 1000
  i63 ((← i63 (frame.fieldLines + syncAndBack)) + 1)

def Curve.checkedDuty (curve : Curve) (lineRate : Nat) : Checked Int := do
  let span ← i64 ((curve.twoC : Int) - curve.twoJ)
  let offset := (← i64 ((← i64 (span * curve.k)).tdiv 256 + curve.twoJ)).tdiv 2
  let gradient := (← i63 (curve.k * curve.m)) / 256
  let scaled ← i64 (offset * 1000)
  let slope ← divided (← i63 (gradient * 1000000)) lineRate
  i64 (scaled - slope)

def checkedBlankPixels (activeWidth : Nat) (duty : Int) : Checked Int := do
  let product ← i64 (activeWidth * duty)
  let ideal ← quotient product (← i64 (100000 - duty))
  i64 ((← i64 (ideal + 8)).tdiv 16 * 16)

def checkedSyncPixels (total : Int) : Checked Int := do
  let share := (← i64 (total * 8)).tdiv 100
  i64 ((← i64 (share + 4)).tdiv 8 * 8)

def Frame.checkedMode? (frame : Frame) (request : Request) (curve : Curve) (lineRate : Nat)
    (duty : Int) : Checked (Option Mode) := do
  let fieldTotal ← frame.checkedFieldTotal lineRate
  let blank ← checkedBlankPixels frame.activeWidth duty
  let total ← i64 (frame.activeWidth + blank)
  let clock := (← i64 (total * lineRate)).tdiv 1000
  let sync ← checkedSyncPixels total
  let syncStart ← i64 (frame.width + (← i64 (blank.tdiv 2 - sync)))
  let syncEnd ← i64 (syncStart + sync)
  let pulseStart ← i63 (frame.height + 1)
  let pulseEnd ← i63 (pulseStart + 3)
  let fieldTotal ← (if request.interlaced then i63 (fieldTotal * 2) else pure fieldTotal)
  let polarities :=
    if curve = Curve.standard then Flags.negativePositive else Flags.positiveNegative
  return do
    let clock ← narrow? clockBound clock
    let horizontal ← narrowAxis? frame.width syncStart syncEnd total
    let vertical ← narrowAxis? frame.height pulseStart pulseEnd fieldTotal
    some {
      clock := clock
      horizontal := horizontal
      vertical := vertical
      flags := { polarities with interlaced := request.interlaced } }

/-- The GTF mode for a request, in words of 64 bits. -/
def checkedMode? (request : Request) (curve : Curve) : Checked (Option Mode) := do
  if request.width = 0 ∨ request.height = 0 ∨ request.refresh = 0 then
    return none
  else
    let frame ← Frame.checkedOfRequest request
    match ← frame.checkedLineRate? with
    | none => return none
    | some lineRate =>
        let duty ← curve.checkedDuty lineRate
        if 100000 ≤ duty then return none
        else frame.checkedMode? request curve lineRate duty

end Words

end Gtf

end Edid
