import HighperfServer.Library.Execution
import Mathlib.Algebra.GroupWithZero.Nat

namespace HighperfServer.Library

namespace Machine
variable {State Event : Type} {machine : Machine State Event}

end Machine

end HighperfServer.Library
