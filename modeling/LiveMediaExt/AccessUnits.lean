import LiveMediaExt.PayloadSplitting
import LiveMediaExt.ServerPipeline

/-!
# Access units on their way to a client

An encoder gives out the NAL units of an access unit behind start codes, in one sample. The source
of a client takes the sample apart again, so the client gets the NAL units as they were encoded,
from the first access unit with an IDR unit on.
-/
namespace LiveMediaExt.System
open Execution Delimiters Media Sources Subsession Scheduler Rtsp

/-- No NAL unit is empty, and none has a start code in it. -/
structure AccessUnit where
  nalUnits : List (List UInt8)
  presentationTime : ℚ
  ne_nil : nalUnits ≠ []
  free : ∀ nalUnit ∈ nalUnits, nalUnit ≠ [] ∧ ¬ startCode <:+: nalUnit
  size_lt : (join startCode nalUnits).length < 2 ^ 32

namespace AccessUnit

/-- The sample in which the access unit is delivered. -/
def mediaSample (accessUnit : AccessUnit) : MediaSample where
  presentationTime := accessUnit.presentationTime
  data := ⟨join startCode accessUnit.nalUnits, accessUnit.size_lt⟩

variable (accessUnit : AccessUnit)

end AccessUnit

end LiveMediaExt.System
