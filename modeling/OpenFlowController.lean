import OpenFlowController.Utils.MsgQueue
import OpenFlowController.Coreapp.XtnExpiry
import OpenFlowController.Messages.LengthSafety
import OpenFlowController.Transport.ChannelFsmTotal
import OpenFlowController.Dprm.Attributes
import OpenFlowController.Transport.KeepAliveTimers
import OpenFlowController.Messages.Handshake
import OpenFlowController.Utils.PtrAry
import OpenFlowController.Utils.Epoll
import OpenFlowController.Messages.GroupDescWire
import OpenFlowController.Messages.EncoderBounds
import OpenFlowController.Messages.GroupEncoding
import OpenFlowController.Messages.FlowStoreMaps
import OpenFlowController.Nsrm.RuleOrder
import OpenFlowController.Nsrm.BypassSkipList
import OpenFlowController.Nsrm.InstanceRegistry
import OpenFlowController.Nsrm.RegistryNames
import OpenFlowController.Crm.PortReadiness
import OpenFlowController.Ttp.PatternRequest
import OpenFlowController.Cminfra.RoleRequests
import OpenFlowController.Cminfra.DmRegistryRuns
import OpenFlowController.Dprm.Enumeration
import OpenFlowController.Messages.OxmLookup
import OpenFlowController.Cminfra.MgmtChannelRuns
import OpenFlowController.Cminfra.DmRegistration
import OpenFlowController.Dprm.RegistrationAtomicity
import OpenFlowController.Coreapp.XtnRecording
import OpenFlowController.Messages.AsyncSlices
import OpenFlowController.Messages.DrainOut
import OpenFlowController.Transport.UdpDemux
import OpenFlowController.Coreapp.EchoReply
import OpenFlowController.Messages.MultipartLists
import OpenFlowController.Messages.PacketOut
import OpenFlowController.Cminfra.MessageReceive
import OpenFlowController.Cminfra.InstanceIds
import OpenFlowController.Messages.MeterStore
import OpenFlowController.Coreapp.HookDispatch
import OpenFlowController.Messages.MsgAlloc
import OpenFlowController.Transport.KeepAliveLiveness
import OpenFlowController.Transport.TrnsprtRegistry
import OpenFlowController.Messages.StreamReassembly
import OpenFlowController.Cminfra.VersionHistory
