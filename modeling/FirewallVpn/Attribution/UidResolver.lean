import FirewallVpn.Library.Text
import FirewallVpn.Native.Layer

/-! `UidResolver`: from the endpoints of a packet to a uid, and from a uid to the
package that is held responsible. The platform's answers and the files under
`/proc/net` are arguments. -/

set_option autoImplicit false

namespace FirewallVpn

namespace UidResolver

/-- `Process.INVALID_UID`. -/
def INVALID_UID : Int := -1

/-- Protocol, local and remote endpoint. -/
abbrev ConnectionOwner := Int → String × Int → String × Int → Int

def getUidFromIpPort (getConnectionOwnerUid : ConnectionOwner) (srcIp : String) (srcPort : Int)
    (destIp : String) (destPort : Int) (protocol : Int) : Option Int :=
  if protocol ≠ 6 ∧ protocol ≠ 17 then none
  else
    let uid := getConnectionOwnerUid protocol (srcIp, srcPort) (destIp, destPort)
    if uid ≠ INVALID_UID then some uid else some (-1)

/-- `none` is the `NumberFormatException` of `toInt`. -/
def ipPortToLocalHex (sourceIp : String) (sourcePort : Int) : Option String := do
  let octets ← (sourceIp.toList.splitOn '.').mapM fun octet =>
    (Text.toIntOrNull octet).map fun value => (Text.toHex value).leftpad 2 '0'
  let ipHex := octets.reverse.flatten
  let portHex := ((Text.toHexString sourcePort).leftpad 4 '0').map Char.toUpper
  return String.ofList (ipHex ++ ':' :: portHex)

def filePath (protocol : String) : Option String :=
  if Text.equalsIgnoreCase protocol "TCP" then some "/proc/net/tcp"
  else if Text.equalsIgnoreCase protocol "UDP" then some "/proc/net/udp"
  else none

/-- The first line that contains `localHex` decides, whatever it says. -/
def findUidForConnection (useLines : String → List String) (localHex protocol : String) :
    Option Int :=
  match filePath protocol with
  | none => none
  | some file =>
      match (useLines file).find? fun line => localHex.toList <:+: line.toList with
      | none => none
      | some line =>
          let columns := Text.splitBlanks (Text.trim line.toList)
          columns[7]?.bind Text.toIntOrNull

/-- The answer of `getPackagesForUid` may be null, and the call may throw. -/
def getPackageNameFromUid (packages : Except String (Option (List String))) : Option String :=
  match packages with
  | .ok packageNames => packageNames.bind List.head?
  | .error _ => none

end UidResolver

/-- The text of the JSON field. -/
def Protocol.text : Protocol → String
  | .ipv4 => "IPv4"
  | .unknown => "Unknown"

/-- The number `readPackets` makes of `protocolByte`. -/
def ProtocolByte.number : ProtocolByte → Int
  | .tcp => 6
  | .udp => 17
  | .unknown => -1

theorem ProtocolByte.number_unsupported_iff {byte : ProtocolByte} :
    byte.number ≠ 6 ∧ byte.number ≠ 17 ↔ byte = .unknown := by
  cases byte <;> decide

def VERSION_CODES_Q : Nat := 29

/-- The two branches of `readPackets`; the outer `none` is an exception. -/
def resolveUid (sdkInt : Nat) (getConnectionOwnerUid : UidResolver.ConnectionOwner)
    (useLines : String → List String) (traffic : TrafficLogResponse) : Option (Option Int) :=
  if VERSION_CODES_Q ≤ sdkInt then
    some (UidResolver.getUidFromIpPort getConnectionOwnerUid traffic.srcIp traffic.srcPort
      traffic.dstIp traffic.dstPort traffic.protocolByte.number)
  else
    (UidResolver.ipPortToLocalHex traffic.srcIp traffic.srcPort).map fun localHex =>
      UidResolver.findUidForConnection useLines localHex traffic.protocol.text

example : UidResolver.ipPortToLocalHex "10.0.0.2" 40000 = some "0200000a:9C40" := by decide

end FirewallVpn
