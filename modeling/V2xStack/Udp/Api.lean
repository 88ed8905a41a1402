import V2xStack.Foundation.Layout

/-!
# The device interface and the messages of the package

The packed records of `ccu_udp_api.h` that travel between the stack and the V2X
device, member by member in the order of their declaration, and the ROS messages
of the package they are copied to and from.

Offsets count from the start of the message, whose first member is the message
type. `Field.next` places each member right behind its predecessor, as the
`packed` attribute does; the two members of a union have the same predecessor.
`UDPBTPDataReqHdr.packed` and `UDPBTPDataIndHdr.packed` record the resulting
sizes.
-/

namespace V2xStack

open Wire

/-! ### `tUDPBTPMsgType` -/

namespace UDPBTPMsgType

def Version : Field := ⟨0, 1⟩
def MsgID : Field := Version.next 1
/-- Message length: the amount following, big endian. -/
def MsgLen : Field := MsgID.next 2
/-- `sizeof(tUDPBTPMsgType)`. -/
def size : ℕ := MsgLen.stop

end UDPBTPMsgType

/-- `UDPBTP_MSG_DATAREQ`. -/
def UDPBTP_MSG_DATAREQ : ℕ := 0

/-- `UDP_DATA_READ_BUFFER`. -/
def UDP_DATA_READ_BUFFER : ℕ := 4 * 1024

/-- `UDPRX_SEC_SSP_BITS_LENGTH`. -/
def UDPRX_SEC_SSP_BITS_LENGTH : ℕ := 32

/-- `UDPRX_SEC_CERT_ID_LENGTH`. -/
def UDPRX_SEC_CERT_ID_LENGTH : ℕ := 8

/-! ### `tUDPBTPDataReqMsg` -/

namespace UDPBTPDataReqHdr

def BTPType : Field := UDPBTPMsgType.MsgLen.next 1
def PktTransport : Field := BTPType.next 1
def TrafficClass : Field := PktTransport.next 1
def MaxPktLifetime : Field := TrafficClass.next 1
def DestPort : Field := MaxPktLifetime.next 2
-- union of the additional port information
def SrcPort : Field := DestPort.next 2
def DestInfo : Field := DestPort.next 2
-- union of the destination: `Location`
def GN_ADDR_as_64 : Field := SrcPort.next 8
def LocationUnused : Field := GN_ADDR_as_64.next 8
-- union of the destination: `Area`
def Latitude : Field := SrcPort.next 4
def Longitude : Field := Latitude.next 4
def Distance_a : Field := Longitude.next 2
def Distance_b : Field := Distance_a.next 2
def Angle : Field := Distance_b.next 2
def Shape : Field := Angle.next 1
def AreaUnused : Field := Shape.next 1
def CommProfile : Field := AreaUnused.next 1
def RepeatInterval : Field := CommProfile.next 1
def SecProfile : Field := RepeatInterval.next 1
def SSPLen : Field := SecProfile.next 1
def AID : Field := SSPLen.next 4
def SSPBits : Field := AID.next UDPRX_SEC_SSP_BITS_LENGTH
def Length : Field := SSPBits.next 2
/-- `sizeof(tUDPBTPDataReqHdr)`. -/
def size : ℕ := Length.stop - UDPBTPMsgType.size

/-- The whole destination union. -/
def Destination : Field := SrcPort.next 16

/-- Both alternatives of the destination end where the next member starts, the
header has 66 bytes and the payload starts at byte 70. -/
theorem packed :
    Destination.stop = CommProfile.offset ∧ LocationUnused.stop = CommProfile.offset ∧
      size = 66 ∧ Length.stop = 70 := by
  decide

end UDPBTPDataReqHdr

/-- Where `tUDPBTPDataReqMsg::Payload` starts. -/
def UDPBTPDataReqMsg.payloadOffset : ℕ := UDPBTPDataReqHdr.Length.stop

/-! ### `tUDPBTPDataIndMsg` -/

namespace UDPBTPDataIndHdr

def BTPType : Field := UDPBTPMsgType.MsgLen.next 1
def PktTransport : Field := BTPType.next 1
def TrafficClass : Field := PktTransport.next 1
def MaxPktLifetime : Field := TrafficClass.next 1
def DestPort : Field := MaxPktLifetime.next 2
-- union of the additional port information
def SrcPort : Field := DestPort.next 2
def DestInfo : Field := DestPort.next 2
-- union of the destination: `Location`
def GN_ADDR_as_64 : Field := SrcPort.next 8
def Lat : Field := GN_ADDR_as_64.next 4
def Long : Field := Lat.next 4
-- union of the destination: `Area`
def Latitude : Field := SrcPort.next 4
def Longitude : Field := Latitude.next 4
def Distance_a : Field := Longitude.next 2
def Distance_b : Field := Distance_a.next 2
def Angle : Field := Distance_b.next 2
def Shape : Field := Angle.next 1
def AreaUnused : Field := Shape.next 1
def SecProfile : Field := AreaUnused.next 1
def ParserResult : Field := SecProfile.next 1
def VerificationResult : Field := ParserResult.next 1
def SSPLen : Field := VerificationResult.next 1
def AID : Field := SSPLen.next 4
def SSPBits : Field := AID.next UDPRX_SEC_SSP_BITS_LENGTH
def CertId : Field := SSPBits.next UDPRX_SEC_CERT_ID_LENGTH
/-- The length in octets of the on-the-air frame data. -/
def Length : Field := CertId.next 2
/-- `sizeof(tUDPBTPDataIndHdr)`. -/
def size : ℕ := Length.stop - UDPBTPMsgType.size

/-- Both alternatives of the destination end where the next member starts, the
header has 74 bytes and the payload starts at byte 78. -/
theorem packed :
    Long.stop = SecProfile.offset ∧ AreaUnused.stop = SecProfile.offset ∧
      size = 74 ∧ Length.stop = 78 := by
  decide

end UDPBTPDataIndHdr

/-- Where `tUDPBTPDataIndMsg::Payload` starts. -/
def UDPBTPDataIndMsg.payloadOffset : ℕ := UDPBTPDataIndHdr.Length.stop

/-! ### ROS messages

A member that is not assigned keeps the zero it is constructed with. -/

namespace Msg

structure UDPMsgType where
  version : UInt8 := 0
  msg_id : UInt8 := 0
  msg_length : UInt8 := 0
  deriving DecidableEq, Repr

structure Location where
  destination : UInt64 := 0
  lat : Int32 := 0
  lon : Int32 := 0
  deriving DecidableEq, Repr

structure Area where
  latitude : Int32 := 0
  longitude : Int32 := 0
  distance_a : UInt16 := 0
  distance_b : UInt16 := 0
  angle : UInt16 := 0
  shape : UInt8 := 0
  unused : UInt8 := 0
  deriving DecidableEq, Repr

structure UDPDataIndHdr where
  btp_type : UInt8 := 0
  pkt_transport : UInt8 := 0
  traffic_class : UInt8 := 0
  max_pkt_life_time : UInt8 := 0
  dest_port : UInt16 := 0
  src_port : UInt16 := 0
  dest_info : UInt16 := 0
  location : Location := {}
  area : Area := {}
  sec_profile : UInt8 := 0
  parser_result : UInt8 := 0
  verification_result : UInt8 := 0
  ssp_len : UInt8 := 0
  aid : UInt32 := 0
  ssp_bits : Vector UInt8 32 := Vector.replicate 32 0
  cert_id : Vector UInt8 32 := Vector.replicate 32 0
  length : UInt16 := 0
  deriving DecidableEq, Repr

structure CohdaInd where
  type : UDPMsgType := {}
  header : UDPDataIndHdr := {}
  payload : List UInt8 := []
  deriving DecidableEq, Repr

structure TrafficClass where
  store_carry_forwarding : Bool := false
  channel_offloading : Bool := false
  id : UInt8 := 0
  deriving DecidableEq, Repr

structure BtpDataIndication where
  btp_type : UInt8 := 0
  source_port : UInt16 := 0
  destination_port : UInt16 := 0
  destination_port_info : UInt16 := 0
  its_aid : UInt32 := 0
  permissions : List UInt8 := []
  traffic_class : TrafficClass := {}
  data : List UInt8 := []
  deriving DecidableEq, Repr

/-- `BtpDataIndication::BTP_TYPE_A`. -/
def BTP_TYPE_A : UInt8 := 1

/-- `BtpDataIndication::BTP_TYPE_B`. -/
def BTP_TYPE_B : UInt8 := 2

structure UdpPacket where
  address : String := ""
  data : List UInt8 := []
  deriving DecidableEq, Repr

end Msg

/-- The arrays that runs of the UDP nodes touch: `buffer` of `initialize`, `data`
of the published indication, and the outgoing packet and its frame. -/
inductive UdpObject
  | recvBuffer
  | indicationData
  | btp
  | frame
  deriving DecidableEq, Repr

end V2xStack
