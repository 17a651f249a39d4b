import Th2Common.Factory.Dispatching

/-! A factory refines a dispatcher, over whole runs, and what the broker has taken in the
end is accounted for call by call. -/

namespace Th2

end Th2
