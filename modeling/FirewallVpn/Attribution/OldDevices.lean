import FirewallVpn.Attribution.SharedUid
import FirewallVpn.Native.Extraction

/-! The uid of a packet on devices before Android Q. The kernel's socket table is
searched under the wrong name: `readPackets` passes `protocol`, which names the
network layer, where `findUidForConnection` expects `protocolByte`. -/

set_option autoImplicit false

namespace FirewallVpn

/-- A line of `/proc/net/tcp` or `/proc/net/udp`: the columns before and behind
the local address and the uid. -/
structure SocketRow where
  index : String
  localAddress : String
  remoteAddress : String
  state : String
  queues : String
  timer : String
  retransmits : String
  uid : Nat
  others : List String
  deriving DecidableEq

def SocketRow.columns (row : SocketRow) : List String :=
  [row.index, row.localAddress, row.remoteAddress, row.state, row.queues, row.timer,
    row.retransmits, toString row.uid] ++ row.others

def SocketRow.line (row : SocketRow) : String := " ".intercalate row.columns

/-- How the kernel prints an endpoint: the octets from the last to the first, then
the port, in upper-case digits. -/
def kernelEndpoint (address : IPv4Address) (port : Nat) : String :=
  let digits (width value : Nat) := ((Nat.toDigits 16 value).map Char.toUpper).leftpad width '0'
  String.ofList ((address.bytes.reverse.flatMap fun octet => digits 2 octet.toNat) ++
    ':' :: digits 4 port)

/-- The two files, each a header line and its rows. -/
structure SocketTable where
  header : String
  tcp : List SocketRow
  udp : List SocketRow

def SocketTable.useLines (table : SocketTable) (file : String) : List String :=
  if file = "/proc/net/tcp" then table.header :: table.tcp.map SocketRow.line
  else if file = "/proc/net/udp" then table.header :: table.udp.map SocketRow.line
  else []

/-- The rows of the packet's transport protocol. -/
def SocketTable.rows (table : SocketTable) : ProtocolByte → List SocketRow
  | .tcp => table.tcp
  | .udp => table.udp
  | .unknown => []

/-- The only row whose local address is the packet's source endpoint. -/
def SocketTable.OnlyRow (table : SocketTable) (traffic : TrafficLogResponse) (row : SocketRow) :
    Prop :=
  ∃ source port, traffic.srcIp = source.toString ∧ traffic.srcPort = (port : Nat) ∧
    (table.rows traffic.protocolByte).filter (·.localAddress = kernelEndpoint source port) = [row]

namespace UidResolver

theorem ipPortToLocalHex_toString (address : IPv4Address) (port : Int) :
    ipPortToLocalHex address.toString port = some (String.ofList
      ((address.bytes.reverse.flatMap fun octet => (Nat.toDigits 16 octet.toNat).leftpad 2 '0') ++
        ':' :: ((Text.toHexString port).leftpad 4 '0').map Char.toUpper)) := by
  have octets : ∀ octet : UInt8, Text.toIntOrNull (IPv4Address.octetText octet) =
      some (octet.toNat : Int) := by
    intro octet
    have bound := octet.toNat_lt
    exact Text.toIntOrNull_toDigits (by omega)
  rw [ipPortToLocalHex, IPv4Address.splitOn_toString]
  simp [IPv4Address.bytes, octets, Text.toHex, String.append_assoc]

/-- The name of a network layer selects neither file. -/
theorem filePath_protocol (protocol : Protocol) : filePath protocol.text = none := by
  cases protocol <;> decide

theorem findUidForConnection_protocol (useLines : String → List String) (localHex : String)
    (protocol : Protocol) : findUidForConnection useLines localHex protocol.text = none := by
  rw [findUidForConnection, filePath_protocol]

theorem getUidFromIpPort_isSome (getConnectionOwnerUid : ConnectionOwner) (srcIp destIp : String)
    (srcPort destPort : Int) {protocol : Int} (supported : protocol = 6 ∨ protocol = 17) :
    ∃ uid, getUidFromIpPort getConnectionOwnerUid srcIp srcPort destIp destPort protocol =
      some uid := by
  unfold getUidFromIpPort
  rw [if_neg (by omega)]
  dsimp only
  split <;> exact ⟨_, rfl⟩

end UidResolver

theorem resolveUid_old {sdkInt : Nat} (old : sdkInt < VERSION_CODES_Q)
    (getConnectionOwnerUid : UidResolver.ConnectionOwner) (useLines : String → List String)
    {traffic : TrafficLogResponse} {source : IPv4Address} (printed : traffic.srcIp = source.toString) :
    resolveUid sdkInt getConnectionOwnerUid useLines traffic = some none := by
  rw [resolveUid, if_neg (Nat.not_le.mpr old), printed, UidResolver.ipPortToLocalHex_toString,
    Option.map_some, UidResolver.findUidForConnection_protocol]

theorem resolveUid_new {sdkInt : Nat} (new : VERSION_CODES_Q ≤ sdkInt)
    (getConnectionOwnerUid : UidResolver.ConnectionOwner) (useLines : String → List String)
    {traffic : TrafficLogResponse} (transport : traffic.protocolByte ≠ .unknown) :
    ∃ uid, resolveUid sdkInt getConnectionOwnerUid useLines traffic = some (some uid) := by
  have supported : traffic.protocolByte.number = 6 ∨ traffic.protocolByte.number = 17 := by
    have supported := mt ProtocolByte.number_unsupported_iff.mp transport
    omega
  obtain ⟨uid, found⟩ := UidResolver.getUidFromIpPort_isSome getConnectionOwnerUid traffic.srcIp
    traffic.dstIp traffic.srcPort traffic.dstPort supported
  exact ⟨uid, by rw [resolveUid, if_pos new, found]⟩

/-- The branches never agree: before Q the uid is null, whatever the only row of
the packet's endpoint says, and never what the other branch answers. -/
theorem branches_never_agree {pcpp : PcapPlusPlus} {packetData : List UInt8} {length : Nat}
    {timeStamp : String} {traffic : TrafficLogResponse}
    (parsed : traffic = parseRealPacket pcpp packetData length timeStamp)
    (ip : traffic.protocol = .ipv4) (transport : traffic.protocolByte ≠ .unknown) {sdkInt : Nat}
    (old : sdkInt < VERSION_CODES_Q) (getConnectionOwnerUid : UidResolver.ConnectionOwner)
    (table : SocketTable) :
    (∀ row, table.OnlyRow traffic row →
      resolveUid sdkInt getConnectionOwnerUid table.useLines traffic ≠ some (some (row.uid : Int))) ∧
    ∀ newer, VERSION_CODES_Q ≤ newer →
      resolveUid sdkInt getConnectionOwnerUid table.useLines traffic ≠
        resolveUid newer getConnectionOwnerUid table.useLines traffic := by
  subst parsed
  obtain ⟨source, -, printed, -⟩ := parseRealPacket_printed pcpp packetData length ip
  rw [resolveUid_old old getConnectionOwnerUid table.useLines printed]
  refine ⟨fun row _ => nofun, fun newer new => ?_⟩
  obtain ⟨uid, found⟩ := resolveUid_new new getConnectionOwnerUid table.useLines transport
  rw [found]
  exact nofun

/-- The row of the socket from which `datagramToPort9000` was sent. -/
def senderRow : SocketRow where
  index := "0:"
  localAddress := kernelEndpoint ⟨10, 0, 0, 2⟩ 40000
  remoteAddress := "00000000:0000"
  state := "07"
  queues := "00000000:00000000"
  timer := "00:00000000"
  retransmits := "00000000"
  uid := 10123
  others := ["0", "20000"]

def senderTable : SocketTable where
  header := "  sl  local_address rem_address   st tx_queue rx_queue tr tm->when retrnsmt   uid  timeout inode"
  tcp := []
  udp := [senderRow]

def senderTraffic : TrafficLogResponse :=
  parseRealPacket .headerRules datagramToPort9000.bytes datagramToPort9000.bytes.length
    "01/01/2025 00:00:00"

theorem senderTable_onlyRow : senderTable.OnlyRow senderTraffic senderRow :=
  ⟨⟨10, 0, 0, 2⟩, 40000, by decide +kernel⟩

def ownerOfSender : UidResolver.ConnectionOwner := fun _ _ _ => senderRow.uid

theorem sender_unattributed :
    resolveUid 28 ownerOfSender senderTable.useLines senderTraffic ≠
      some (some (senderRow.uid : Int)) :=
  (branches_never_agree rfl (by decide +kernel) (by decide +kernel) (by decide) ownerOfSender
    senderTable).1 senderRow senderTable_onlyRow

/-- On Android 9 the sender of the datagram has no uid; on Android 10 it has one. -/
theorem sender_row_missed :
    ¬ ∀ (pcpp : PcapPlusPlus) (packetData : List UInt8) (length : Nat) (timeStamp : String)
        (getConnectionOwnerUid : UidResolver.ConnectionOwner) (table : SocketTable) (row : SocketRow),
      (parseRealPacket pcpp packetData length timeStamp).protocol = .ipv4 →
      (parseRealPacket pcpp packetData length timeStamp).protocolByte ≠ .unknown →
      table.OnlyRow (parseRealPacket pcpp packetData length timeStamp) row →
      resolveUid 28 getConnectionOwnerUid table.useLines
        (parseRealPacket pcpp packetData length timeStamp) = some (some (row.uid : Int)) := by
  intro agree
  have found := agree .headerRules datagramToPort9000.bytes datagramToPort9000.bytes.length
    "01/01/2025 00:00:00" ownerOfSender senderTable senderRow (by decide +kernel) (by decide +kernel)
    senderTable_onlyRow
  exact absurd found (by decide +kernel)

end FirewallVpn
