import Racoon2.Lib.Bytes

/-!
# The IKEv2 header and the generic payload header

`struct ikev2_header` (28 octets) and `struct ikev2_payload_header` (4 octets) of `ikev2.h`, read
straight off the octets of the packet, with the exchange types, flags and payload types the
modelled functions test.  A payload is given by the part of the packet that starts at its header
(the pointer `p` of the source), so `POINT_NEXT_PAYLOAD` is `pointNext`.
-/

set_option linter.unusedVariables false

namespace Ikev2
open Bytes

/-! ## exchange types, flags -/

def exchIkeSaInit : UInt8 := 34
def exchIkeAuth : UInt8 := 35
def exchCreateChildSa : UInt8 := 36
def exchInformational : UInt8 := 37
def exchIkeSessionResume : UInt8 := 38
def exchIkeIntermediate : UInt8 := 43
def exchIkeFollowupKe : UInt8 := 44

def flagInitiator : UInt8 := 0x08
def flagResponse : UInt8 := 0x20

/-! ## payload types -/

def noNextPayload : UInt8 := 0
def payloadSa : UInt8 := 33
def payloadKe : UInt8 := 34
def payloadIdI : UInt8 := 35
def payloadCert : UInt8 := 37
def payloadCertreq : UInt8 := 38
def payloadNonce : UInt8 := 40
def payloadNotify : UInt8 := 41
def payloadDelete : UInt8 := 42
def payloadVendorId : UInt8 := 43
def payloadTsI : UInt8 := 44
def payloadTsR : UInt8 := 45
def payloadEncrypted : UInt8 := 46
def payloadConfig : UInt8 := 47
def payloadEap : UInt8 := 48
def payloadSkf : UInt8 := 53

/-- `ikev2_payload_type_is_critical` -/
def payloadTypeIsCritical (type : UInt8) : Bool := payloadSa ≤ type && type ≤ payloadEap

/-! ## the IKE header -/

/-- `sizeof(struct ikev2_header)` -/
def headerSize : Nat := 28

/-- what `isakmp_handler` and the TCP reader hand to `ikev2_input`: at least a header -/
structure Datagram where
  octets : Bytes
  hasHeader : headerSize ≤ octets.length

section
variable (packet : Bytes)

def initiatorSpi : Bytes := slice packet 0 8
def responderSpi : Bytes := slice packet 8 8
def nextPayload : UInt8 := byteAt packet 16
def exchangeType : UInt8 := byteAt packet 18
def flags : UInt8 := byteAt packet 19
def messageId : Nat := be32 packet 20
def headerLength : Nat := be32 packet 24

def isResponse : Bool := flags packet &&& flagResponse != 0
def hasInitiatorFlag : Bool := flags packet &&& flagInitiator != 0

/-- the two exchange types that `ikev2_input` lets in without an Encrypted payload -/
def isCleartextExchange : Bool :=
  exchangeType packet == exchIkeSaInit || exchangeType packet == exchIkeSessionResume

end

/-! ## the generic payload header -/

/-- `sizeof(struct ikev2_payload_header)` -/
def payloadHeaderSize : Nat := 4

section
variable (p : Bytes)

/-- `get_payload_length` -/
def payloadLength : Nat := be16 p 2
/-- `get_payload_data_length` (the difference is taken in `size_t`, after the length was checked) -/
def payloadDataLength : Nat := payloadLength p - payloadHeaderSize
def payloadNext : UInt8 := byteAt p 0
/-- `payload_is_critical` -/
def payloadIsCritical : Bool := byteAt p 1 &&& 0x80 != 0

/-- where `POINT_NEXT_PAYLOAD` leaves the payload pointer -/
def pointNext : Bytes := p.drop (payloadLength p)

/-- the octets of one payload, header included -/
def payloadOctets : Bytes := p.take (payloadLength p)

end

/-- the first payload of a packet, `(struct ikev2_payload_header *)(ikehdr + 1)` -/
def firstPayload (packet : Bytes) : Bytes := packet.drop headerSize

end Ikev2
