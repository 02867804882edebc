import Mathlib.Algebra.Ring.Nat
import Mathlib.Data.Fin.Basic

namespace NewBcpl
namespace Arm64

/-!
# Register numbers

There are 31 general registers with a number and 32 floating-point registers, and a
numeral stands for each of them. The instances have names so that the numerals of all
modules are the same terms.
-/

instance generalRegisters : NeZero 31 := ⟨by decide⟩

instance floatRegisters : NeZero 32 := ⟨by decide⟩

end Arm64
end NewBcpl
