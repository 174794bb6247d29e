import LiveMediaExt.H264SdpLine

/-!
# What a client reads from the SDP line

A client takes the line apart at its separators: the payload type stands before the first space,
the parameters are separated by semicolons, and the parameter sets by a comma. No base64 text has
a separator in it, and neither has the number of the profile and level.
-/
namespace LiveMediaExt.Subsession
open Media Base64

section Separators

end Separators

section Line
variable {sps pps : List UInt8}

end Line

end LiveMediaExt.Subsession
