import Th2Common.Factory.Additions
import Th2Common.Properties.Bodies

/-! What the broker has after a run: the mailbox of each queue in the order of the
calls, frames that some call asked for, and a log that reports what was accepted. -/

namespace Th2
open Text

end Th2
