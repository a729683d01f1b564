import Edid.Formula.Request

/-!
# Coordinated video timings

The CVT formula in integers. A request is first rounded to what the formula can express, the
`Frame`; then one of two blanking rules finds the line period and the totals, the `Blanking`.
Quotients are rounded down. A difference that could fall below zero is either tested before it
is used or replaced by a least value, so truncated subtraction is the right one throughout.
-/

set_option autoImplicit false

namespace Edid

namespace Cvt

open Formula

/-- A request in the units of the formula. -/
structure Frame where
  /-- Fields per second. -/
  fieldRate : Nat
  /-- One half line, counted in half lines, if interlaced. -/
  interlace : Nat
  /-- Pixels of a line with its margins. -/
  activeWidth : Nat
  /-- Lines of a field with its margins. -/
  fieldLines : Nat
  /-- Lines of a frame with its margins. -/
  activeLines : Nat
  /-- Width of the vertical sync pulse. -/
  syncLines : Nat
  deriving DecidableEq, Repr

/-- The lines of the vertical sync pulse tell the aspect ratio of the request, which has to be
exact: 4:3, 16:9, 16:10, 5:4 or 15:9. -/
def pulseLines (width height : Nat) : Nat :=
  if height % 3 = 0 ∧ height * 4 / 3 = width then 4
  else if height % 9 = 0 ∧ height * 16 / 9 = width then 5
  else if height % 10 = 0 ∧ height * 16 / 10 = width then 6
  else if height % 4 = 0 ∧ height * 5 / 4 = width then 7
  else if height % 9 = 0 ∧ height * 15 / 9 = width then 7
  else 10

/-- Widths and horizontal margins are rounded down to eight pixels. A refresh of zero means
60 Hz. -/
def Frame.ofRequest (request : Request) : Frame :=
  let refresh := if request.refresh = 0 then 60 else request.refresh
  let width := request.width - request.width % 8
  let wideMargin := width * 18 / 1000
  let margin := if request.margins then wideMargin - wideMargin % 8 else 0
  let fieldHeight := if request.interlaced then request.height / 2 else request.height
  let marginLines := if request.margins then fieldHeight * 18 / 1000 else 0
  { fieldRate := if request.interlaced then refresh * 2 else refresh
    interlace := if request.interlaced then 1 else 0
    activeWidth := width + 2 * margin
    fieldLines := fieldHeight + 2 * marginLines
    activeLines := request.height + 2 * marginLines
    syncLines := pulseLines request.width request.height }

/-- What a blanking rule finds. -/
structure Blanking where
  /-- Line period: half nanoseconds over two, rounded down. -/
  period : Nat
  syncStart : Nat
  syncEnd : Nat
  total : Nat
  /-- Lines of a field. -/
  fieldTotal : Nat
  deriving DecidableEq, Repr

/-- Ordinary blanking: at least 550 microseconds of vertical sync and back porch, three lines
of front porch, and a share of the line that grows with the line rate, at least a fifth. -/
def Frame.ordinary? (frame : Frame) : Option Blanking :=
  let available := 1000000000 - 550 * 1000 * frame.fieldRate
  let halfLines := ((frame.fieldLines + 3) * 2 + frame.interlace) * frame.fieldRate
  if available = 0 ∨ halfLines = 0 then none
  else
    let period := available * 2 / halfLines
    if period = 0 then none
    else
      let syncAndBack := max (550 * 1000 / period + 1) (frame.syncLines + 3)
      let share := max (30 * 1000 - 300 * period / 1000) (20 * 1000)
      let wideBlank := frame.activeWidth * share / (100 * 1000 - share)
      let blank := wideBlank - wideBlank % 16
      let total := frame.activeWidth + blank
      let syncEnd := frame.activeWidth + blank / 2
      let earliest := syncEnd - total * 8 / 100
      some
        { period := period
          syncStart := earliest + 8 - earliest % 8
          syncEnd := syncEnd
          total := total
          fieldTotal := frame.fieldLines + syncAndBack + 3 }

/-- Reduced blanking: 160 pixels a line, and at least 460 microseconds of vertical blanking
with room for the pulse, three lines before it and six behind. -/
def Frame.reduced? (frame : Frame) : Option Blanking :=
  let available := 1000000000 - 460 * 1000 * frame.fieldRate
  let lines := frame.fieldLines * frame.fieldRate
  if available = 0 ∨ lines = 0 then none
  else
    let period := available / lines
    if period = 0 then none
    else
      let blankLines := max (460 * 1000 / period + 1) (3 + frame.syncLines + 6)
      some
        { period := period
          syncStart := frame.activeWidth + 48
          syncEnd := frame.activeWidth + 80
          total := frame.activeWidth + 160
          fieldTotal := frame.fieldLines + blankLines }

/-- The pixel clock in kHz, rounded down to a quarter of a megahertz. -/
def Blanking.clock (blanking : Blanking) : Nat :=
  let exact := blanking.total * 1000000 / blanking.period
  exact - exact % 250

/-- The CVT mode for a request. None for an empty size, for a rate that leaves no time for the
picture, and for results too large to be a mode. -/
def mode? (request : Request) (reduced : Bool) : Option Mode :=
  if request.width = 0 ∨ request.height = 0 then none
  else do
    let frame := Frame.ofRequest request
    let blanking ← if reduced then frame.reduced? else frame.ordinary?
    let clock ← narrow? clockBound blanking.clock
    let horizontal ←
      narrowAxis? frame.activeWidth blanking.syncStart blanking.syncEnd blanking.total
    let vertical ←
      narrowAxis? frame.activeLines (frame.activeLines + 3)
        (frame.activeLines + 3 + frame.syncLines)
        (if request.interlaced then blanking.fieldTotal * 2 else blanking.fieldTotal)
    let polarities := if reduced then Flags.positiveNegative else Flags.negativePositive
    some
      { clock := clock
        horizontal := horizontal
        vertical := vertical
        flags := { polarities with interlaced := request.interlaced } }

end Cvt

end Edid
