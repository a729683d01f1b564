/-!
# Machine words

An operation on words is carried out exactly and its result is then held against its type; what does
not fit is a fault and ends the computation. Words that count or address bytes are taken to have 32
bits. A definition whose name begins with `checked` carries out in this way what the rest of its name
stands for.
-/

set_option autoImplicit false

namespace Edid.Machine

/-- What stops a machine. -/
inductive Fault where
  /-- A position or a part of a run outside of it. -/
  | outside
  | overflow
  | zeroDivisor
  deriving DecidableEq, Repr

abbrev Checked := Except Fault

section Words

/-- A number that has to stay below a bound. -/
def below (bound value : Nat) : Checked Nat :=
  if value < bound then .ok value else .error .overflow

abbrev u8 (value : Nat) : Checked Nat := below 0x100 value

abbrev u16 (value : Nat) : Checked Nat := below 0x10000 value

abbrev u32 (value : Nat) : Checked Nat := below 0x100000000 value

abbrev u64 (value : Nat) : Checked Nat := below 0x10000000000000000 value

abbrev size (value : Nat) : Checked Nat := below 0x100000000 value

/-- A number that is not negative in a signed word of 64 bits. -/
abbrev i63 (value : Nat) : Checked Nat := below 0x8000000000000000 value

/-- The difference of two words, which has no sign. -/
def minus (left right : Nat) : Checked Nat :=
  if right ≤ left then .ok (left - right) else .error .overflow

def divided (left right : Nat) : Checked Nat :=
  if right = 0 then .error .zeroDivisor else .ok (left / right)

variable {α : Type} {result : Checked α}

theorem below_eq {bound value : Nat} (fits : value < bound) : below bound value = .ok value :=
  if_pos fits

theorem minus_eq {left right : Nat} (ordered : right ≤ left) :
    minus left right = .ok (left - right) :=
  if_pos ordered

theorem divided_eq {left right : Nat} (positive : right ≠ 0) :
    divided left right = .ok (left / right) :=
  if_neg positive

/-! What follows an operation that is carried out goes on with its exact value. -/

theorem below_bind {bound value : Nat} {next : Nat → Checked α} (fits : value < bound)
    (rest : next value = result) : below bound value >>= next = result := by
  rw [below_eq fits]
  exact rest

theorem minus_bind {left right : Nat} {next : Nat → Checked α} (ordered : right ≤ left)
    (rest : next (left - right) = result) : minus left right >>= next = result := by
  rw [minus_eq ordered]
  exact rest

theorem divided_bind {left right : Nat} {next : Nat → Checked α} (positive : right ≠ 0)
    (rest : next (left / right) = result) : divided left right >>= next = result := by
  rw [divided_eq positive]
  exact rest

end Words

section Integers

/-- An integer that has to stay within a bound on both sides. -/
def within (bound : Nat) (value : Int) : Checked Int :=
  if -(bound : Int) ≤ value ∧ value < bound then .ok value else .error .overflow

abbrev i32 (value : Int) : Checked Int := within 0x80000000 value

abbrev i64 (value : Int) : Checked Int := within 0x8000000000000000 value

/-- The quotient rounded toward zero. The least integer divided by minus one does not fit. -/
def quotient (left right : Int) : Checked Int :=
  if right = 0 then .error .zeroDivisor else i64 (left.tdiv right)

variable {α : Type} {result : Checked α}

theorem within_eq {bound : Nat} {value : Int} (fits : -(bound : Int) ≤ value ∧ value < bound) :
    within bound value = .ok value :=
  if_pos fits

theorem quotient_eq {left right : Int} (positive : right ≠ 0)
    (fits : -0x8000000000000000 ≤ left.tdiv right ∧ left.tdiv right < 0x8000000000000000) :
    quotient left right = .ok (left.tdiv right) := by
  rw [quotient, if_neg positive]
  exact within_eq fits

theorem within_bind {bound : Nat} {value : Int} {next : Int → Checked α}
    (fits : -(bound : Int) ≤ value ∧ value < bound) (rest : next value = result) :
    within bound value >>= next = result := by
  rw [within_eq fits]
  exact rest

theorem quotient_bind {left right : Int} {next : Int → Checked α} (positive : right ≠ 0)
    (fits : -0x8000000000000000 ≤ left.tdiv right ∧ left.tdiv right < 0x8000000000000000)
    (rest : next (left.tdiv right) = result) : quotient left right >>= next = result := by
  rw [quotient_eq positive fits]
  exact rest

end Integers

end Edid.Machine
