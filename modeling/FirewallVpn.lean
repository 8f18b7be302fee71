import FirewallVpn.Library.Transition
import FirewallVpn.Library.NetworkOrder
import FirewallVpn.Library.TaskPool
import FirewallVpn.Native.Address
import FirewallVpn.Native.Header
import FirewallVpn.Native.Layer
import FirewallVpn.Native.Extraction
import FirewallVpn.Native.Builder
import FirewallVpn.Service.Lifecycle
import FirewallVpn.Service.Agreement
import FirewallVpn.Addresses.Dao
import FirewallVpn.Addresses.Tracking
import FirewallVpn.Addresses.BlockAll
import FirewallVpn.Forwarder.State
import FirewallVpn.Forwarder.Step
import FirewallVpn.Forwarder.Inversion
import FirewallVpn.Forwarder.JobInvariant
import FirewallVpn.Forwarder.Addressing
import FirewallVpn.Forwarder.Packets
import FirewallVpn.Forwarder.SequenceNumbers
import FirewallVpn.Forwarder.Ownership
import FirewallVpn.Forwarder.Frame
import FirewallVpn.Forwarder.InOrder
import FirewallVpn.Forwarder.StreamBalance
import FirewallVpn.Forwarder.UpstreamOrder
import FirewallVpn.Forwarder.Retransmission
import FirewallVpn.Forwarder.OwnPacket
import FirewallVpn.Forwarder.SpentFlow
import FirewallVpn.System.ReadLoop
import FirewallVpn.System.SharedBuffer
import FirewallVpn.System.FirstPackets
import FirewallVpn.System.BlockedFlow
import FirewallVpn.Addresses.RowHistory
import FirewallVpn.Addresses.AddressScreen
import FirewallVpn.Addresses.Uniqueness
import FirewallVpn.Addresses.AddressMap
import FirewallVpn.Addresses.Sequential
import FirewallVpn.Library.Text
import FirewallVpn.Library.Columns
import FirewallVpn.Attribution.UidResolver
import FirewallVpn.Attribution.SharedUid
import FirewallVpn.Attribution.OldDevices
import FirewallVpn.Attribution.SocketFiles
import FirewallVpn.Service.PolicyChange
import FirewallVpn.Forwarder.FlowKey
import FirewallVpn.Forwarder.Isolation
import FirewallVpn.Forwarder.Holders
import FirewallVpn.Forwarder.Orphans
import FirewallVpn.Forwarder.HandshakeOrder
import FirewallVpn.Forwarder.Removal
import FirewallVpn.Native.RoundTrip
import FirewallVpn.Native.TwoBuilders
import FirewallVpn.Native.Tunnels
import FirewallVpn.Forwarder.OwnSteps
import FirewallVpn.Forwarder.Datagrams
import FirewallVpn.Forwarder.DatagramSockets
import FirewallVpn.Library.TextOrder
import FirewallVpn.Log.Dao
import FirewallVpn.Log.Timestamps
import FirewallVpn.Log.Trimming
import FirewallVpn.System.FaultIsolation
import FirewallVpn.Forwarder.AppView
import FirewallVpn.Forwarder.Shutdown
import FirewallVpn.Forwarder.LastPacket
import FirewallVpn.Forwarder.RemoteStream
import FirewallVpn.Library.Potential
import FirewallVpn.Library.FlatJson
import FirewallVpn.Native.UdpRoundTrip
import FirewallVpn.Native.HandOver
import FirewallVpn.Forwarder.Budget
import FirewallVpn.Forwarder.Exchanges
import FirewallVpn.Forwarder.WellFormed
import FirewallVpn.System.Pipeline
import FirewallVpn.Library.Edits
import FirewallVpn.System.UserPolicy
import FirewallVpn.Library.Latest
import FirewallVpn.Library.LiveQuery
import FirewallVpn.Log.Contents
import FirewallVpn.Log.LogScreen
import FirewallVpn.Addresses.LiveAddresses
import FirewallVpn.Addresses.Taps
import FirewallVpn.Addresses.Provenance
import FirewallVpn.Library.Groups
import FirewallVpn.Addresses.NetworkScreen
import FirewallVpn.System.Turn
import FirewallVpn.System.Logged
import FirewallVpn.System.LoopHead
import FirewallVpn.Service.VpnSwitch
import FirewallVpn.Service.Settling
import FirewallVpn.Library.BackStack
import FirewallVpn.System.AppNavigation
import FirewallVpn.Library.SharedQuery
import FirewallVpn.System.BlockedList
import FirewallVpn.System.Leaving
import FirewallVpn.Forwarder.Shielded
