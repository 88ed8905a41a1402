import V2xStack.Foundation.Machine
import V2xStack.Foundation.Run
import V2xStack.Foundation.IntFormat
import V2xStack.Foundation.OptionalMember
import V2xStack.Foundation.RateLimiter
import V2xStack.Udp.Api
import V2xStack.Udp.Receive
import V2xStack.Udp.Indication
import V2xStack.Udp.Interference
import V2xStack.Udp.Truncation
import V2xStack.Udp.Routing
import V2xStack.Udp.HeaderInfo
import V2xStack.Udp.DataReq
import V2xStack.Udp.SendLengths
import V2xStack.Its.Ranges
import V2xStack.Its.Cam
import V2xStack.Its.CamRoundTrip
import V2xStack.Its.CamRetraction
import V2xStack.Its.CamEncoding
import V2xStack.Its.CamClasses
import V2xStack.Its.Cpm
import V2xStack.Its.CpmObjects
import V2xStack.Its.CpmClass
import V2xStack.Its.CpmContent
import V2xStack.Its.PresenceFlags
import V2xStack.Its.CpmTs
import V2xStack.Its.CpmTsAccess
import V2xStack.Its.CpmTsStructure
import V2xStack.Its.CpmTsFaithful
import V2xStack.Its.Denm
import V2xStack.Its.DenmStructure
import V2xStack.Its.DenmRanges
import V2xStack.Its.DenmOptional
import V2xStack.Its.DenRx
import V2xStack.Its.Services
import V2xStack.Stack.Dispatcher
import V2xStack.Stack.Topics
import V2xStack.Stack.BtpService
import V2xStack.Stack.Network
import V2xStack.Stack.Delivery
import V2xStack.Stack.CamTransport
import V2xStack.Stack.Noninterference
import V2xStack.Stack.Egress
