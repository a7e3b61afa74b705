import Mathlib.Tactic.Basic

/-!
# The two checkers without history

`ovl_always` and `ovl_proposition` judge the present cycle only.  Their
registers feed the `fire` output, which the wrappers leave open for
`ovl_always`; the wrapped output is a function of the inputs.
-/

namespace Specs.Ovl

/-- `OVL_RESET_SIGNAL`: the reset is active high, as `OR1200_RST_ACT_LOW` is not
defined, and the gating type is `OVL_GATE_NONE`. -/
def resetN (reset : Bool) : Bool := !reset

@[simp] theorem resetN_false : resetN false = true := rfl

@[simp] theorem resetN_true : resetN true = false := rfl

namespace Always

structure In where
  rst : Bool
  enable : Bool
  testExpr : Bool
  prevConfigInvalid : Bool

def fire2State_1 (i : In) : Bool := !i.testExpr

def fire2StateComb (i : In) : Bool := fire2State_1 i && resetN i.rst && i.enable

def out (i : In) : Bool := fire2StateComb i && !i.prevConfigInvalid

end Always

namespace Proposition

/-- Ports of `ovl_proposition_wrapped`; there is no clock. -/
structure In where
  rst : Bool
  enable : Bool
  testExpr : Bool
  prevConfigInvalid : Bool

/-- The level-sensitive block of `assert_proposition_logic`. -/
def fire2State (i : In) : Bool :=
  if resetN i.rst == false then false else !i.testExpr && !i.enable

def out (i : In) : Bool := fire2State i && !i.prevConfigInvalid

/-- The proposition checker looks at `enable` with the polarity opposite to the
one of its siblings: it is silent whenever it is enabled. -/
theorem out_of_enable {i : In} (h : i.enable = true) : out i = false := by
  simp [out, fire2State, h]

end Proposition

end Specs.Ovl
