import Edid.Mode

/-!
# Panels of 1366 pixels

Formulas work in steps of eight pixels and cannot express the common size of 1366 by 768. The
neighbouring size is synthesized and trimmed.
-/

set_option autoImplicit false

namespace Edid.Mode

/-- The mode with 1366 active pixels and its sync pulse one pixel earlier. -/
def trimmedToPanel (mode : Mode) : Mode :=
  { mode with
    horizontal :=
      { mode.horizontal with
        active := 1366
        syncStart := mode.horizontal.syncStart - 1
        syncEnd := mode.horizontal.syncEnd - 1 } }

/-- Trims the size that a formula gives for the panel. -/
def trimIfPanel (mode : Mode) : Mode :=
  if mode.width = 1368 ∧ mode.height = 768 then mode.trimmedToPanel else mode

end Edid.Mode
