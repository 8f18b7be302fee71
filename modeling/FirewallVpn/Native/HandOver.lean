import FirewallVpn.Attribution.UidResolver
import FirewallVpn.Library.FlatJson
import FirewallVpn.Log.Timestamps
import FirewallVpn.Native.Extraction

/-! How a report reaches the service: `parseRealPacket` concatenates a JSON text, and
`Gson` makes an object of it. The native code escapes nothing. -/

set_option autoImplicit false

namespace FirewallVpn

def ProtocolByte.text : ProtocolByte → String
  | .tcp => "TCP"
  | .udp => "UDP"
  | .unknown => "Unknown"

/-- The fields of the Kotlin class, where both protocols are texts. -/
structure TrafficLogFields where
  appName : String
  protocol : String
  protocolByte : String
  srcIp : String
  srcPort : Int
  dstIp : String
  dstPort : Int
  timeStamp : String
  deriving DecidableEq

def TrafficLogResponse.fields (traffic : TrafficLogResponse) : TrafficLogFields where
  appName := traffic.appName
  protocol := traffic.protocol.text
  protocolByte := traffic.protocolByte.text
  srcIp := traffic.srcIp
  srcPort := traffic.srcPort
  dstIp := traffic.dstIp
  dstPort := traffic.dstPort
  timeStamp := traffic.timeStamp

def jsonResult (fields : TrafficLogFields) : String :=
  "\x7b" ++
    "\"appName\":\"" ++ fields.appName ++ "\"," ++
    "\"protocol\":\"" ++ fields.protocol ++ "\"," ++
    "\"protocolByte\":\"" ++ fields.protocolByte ++ "\"," ++
    "\"srcIp\":\"" ++ fields.srcIp ++ "\"," ++
    "\"srcPort\":" ++ toString fields.srcPort ++ "," ++
    "\"dstIp\":\"" ++ fields.dstIp ++ "\"," ++
    "\"dstPort\":" ++ toString fields.dstPort ++ "," ++
    "\"timeStamp\":\"" ++ fields.timeStamp ++ "\"" ++
  "\x7d"

/-- A value of Kotlin's `Int`. -/
def FitsInt (value : Int) : Prop := -2 ^ 31 ≤ value ∧ value < 2 ^ 31

instance (value : Int) : Decidable (FitsInt value) := inferInstanceAs (Decidable (_ ∧ _))

/-- The members of an object as the fields of the class: each is looked up by its name.
There are none where `Gson` throws for a number that is no `Int`. -/
def TrafficLogFields.ofMembers (members : List FlatJson.Member) : Option TrafficLogFields := do
  let textOf (name : String) : Option String :=
    match members.lookup name.toList with
    | some (.text chars) => some (String.ofList chars)
    | _ => none
  let intOf (name : String) : Option Int :=
    match members.lookup name.toList with
    | some (.number value) => if FitsInt value then some value else none
    | _ => none
  return {
    appName := ← textOf "appName", protocol := ← textOf "protocol"
    protocolByte := ← textOf "protocolByte", srcIp := ← textOf "srcIp"
    srcPort := ← intOf "srcPort", dstIp := ← textOf "dstIp"
    dstPort := ← intOf "dstPort", timeStamp := ← textOf "timeStamp" }

/-- `Gson().fromJson(jsonString, TrafficLogResponse::class.java)`; `none` is `null` or an
exception. -/
structure Gson where
  fromJson : String → Option TrafficLogFields

/-- An object without nesting is read member by member, each name being there once and
each port being an `Int`. -/
def Gson.Documented (gson : Gson) : Prop :=
  ∀ (jsonString : String) (members : List FlatJson.Member) (fields : TrafficLogFields),
    FlatJson.read jsonString.toList = some members → (members.map Prod.fst).Nodup →
      TrafficLogFields.ofMembers members = some fields → gson.fromJson jsonString = some fields

def TrafficLogFields.members (fields : TrafficLogFields) : List FlatJson.Member :=
  [("appName".toList, .text fields.appName.toList), ("protocol".toList, .text fields.protocol.toList),
    ("protocolByte".toList, .text fields.protocolByte.toList),
    ("srcIp".toList, .text fields.srcIp.toList), ("srcPort".toList, .number fields.srcPort),
    ("dstIp".toList, .text fields.dstIp.toList), ("dstPort".toList, .number fields.dstPort),
    ("timeStamp".toList, .text fields.timeStamp.toList)]

theorem jsonResult_print (fields : TrafficLogFields) :
    (jsonResult fields).toList = FlatJson.print fields.members := by
  unfold jsonResult
  simp only [String.toList_append]
  simp only [Text.toList_toString]
  simp [FlatJson.print, TrafficLogFields.members, FlatJson.printMember, FlatJson.quoted,
    FlatJson.Value.print, List.intercalate]

theorem ofMembers_members {fields : TrafficLogFields} (source : FitsInt fields.srcPort)
    (destination : FitsInt fields.dstPort) :
    TrafficLogFields.ofMembers fields.members = some fields := by
  simp [TrafficLogFields.ofMembers, TrafficLogFields.members, List.lookup_cons, source, destination]

/-- The texts of a report can stand between quotation marks as they are, and its numbers
are read back. -/
structure TrafficLogFields.Plain (fields : TrafficLogFields) : Prop where
  appName : fields.appName.toList.all FlatJson.plain
  protocol : fields.protocol.toList.all FlatJson.plain
  protocolByte : fields.protocolByte.toList.all FlatJson.plain
  srcIp : fields.srcIp.toList.all FlatJson.plain
  dstIp : fields.dstIp.toList.all FlatJson.plain
  timeStamp : fields.timeStamp.toList.all FlatJson.plain
  srcPort : FitsInt fields.srcPort
  dstPort : FitsInt fields.dstPort

theorem Gson.Documented.fromJson_jsonResult {gson : Gson} (documented : gson.Documented)
    {fields : TrafficLogFields} (plain : fields.Plain) :
    gson.fromJson (jsonResult fields) = some fields := by
  refine documented _ fields.members fields ?_ ?_ (ofMembers_members plain.srcPort plain.dstPort)
  · rw [jsonResult_print]
    apply FlatJson.read_print
    simp only [FlatJson.Plain, TrafficLogFields.members, List.forall_mem_cons, FlatJson.Value.plain,
      plain.appName, plain.protocol, plain.protocolByte, plain.srcIp, plain.dstIp, plain.timeStamp]
    exact ⟨by decide, by decide, by decide, by decide, by decide, by decide, by decide, by decide,
      List.forall_mem_nil _⟩
  · have names : fields.members.map Prod.fst = ["appName".toList, "protocol".toList,
        "protocolByte".toList, "srcIp".toList, "srcPort".toList, "dstIp".toList, "dstPort".toList,
        "timeStamp".toList] := rfl
    rw [names]
    decide

/-! Nothing in a report has to be escaped. -/

private theorem plain_of_isDigit {char : Char} (digit : char.isDigit) : FlatJson.plain char := by
  have notMark : char ≠ '"' := by
    rintro rfl
    exact absurd digit (by decide)
  have notEscape : char ≠ '\\' := by
    rintro rfl
    exact absurd digit (by decide)
  have printable : 0x20 ≤ char.toNat := by
    simp only [Char.isDigit, Bool.and_eq_true, decide_eq_true_eq] at digit
    exact Nat.le_trans (by decide) (UInt32.le_iff_toNat_le.mp digit.1)
  simp [FlatJson.plain, notMark, notEscape, printable]

private theorem plain_toDigits (value : Nat) : (Nat.toDigits 10 value).all FlatJson.plain :=
  List.all_eq_true.mpr fun _ member =>
    plain_of_isDigit (Nat.isDigit_of_mem_toDigits (by decide) (by decide) member)

private theorem plain_address (address : IPv4Address) : address.toString.toList.all FlatJson.plain := by
  have octets : ∀ octet, (IPv4Address.octetText octet).all FlatJson.plain :=
    fun octet => plain_toDigits octet.toNat
  have dot : FlatJson.plain '.' := by decide
  simp [IPv4Address.toString, IPv4Address.bytes, List.intercalate, octets, dot]

private theorem plain_numeral (width value : Nat) : (Text.numeral width value).all FlatJson.plain := by
  have digit : ∀ value, FlatJson.plain (Nat.digitChar value) := by
    intro value
    by_cases small : value < 16
    · have each : ∀ value < 16, FlatJson.plain (Nat.digitChar value) := by decide
      exact each value small
    · unfold Nat.digitChar
      repeat rw [if_neg (by omega)]
      decide
  induction width generalizing value with
  | zero => rfl
  | succ width ih =>
      rw [Text.numeral, List.all_cons, digit, ih]
      rfl

private theorem plain_timeStamp (time : LocalTime) : time.timeStamp.toList.all FlatJson.plain := by
  have year : (LocalTime.yearText time.year).all FlatJson.plain := by
    have zero : FlatJson.plain '0' := by decide
    rw [LocalTime.yearText, List.leftpad, List.all_append, plain_toDigits, Bool.and_true]
    exact List.all_eq_true.mpr fun char member => (List.mem_replicate.mp member).2 ▸ zero
  have slash : FlatJson.plain '/' := by decide
  have blank : FlatJson.plain ' ' := by decide
  have colon : FlatJson.plain ':' := by decide
  simp only [LocalTime.timeStamp, String.toList_ofList, List.all_append, List.all_cons, plain_numeral,
    year, slash, blank, colon, Bool.and_true]

section NativeBridge

variable (pcpp : PcapPlusPlus) (packetData : List UInt8) (length : Nat)

/-- The local variables of `parseRealPacket` where the text is put together. -/
def parseRealPacketFields (timeStamp : String) : TrafficLogFields :=
  let layers := pcpp.layers (packetData.take length)
  let (srcIp, dstIp, protocol) :=
    match getLayerOfType Layer.asIPv4 layers with
    | some (data, _) =>
        ((IPv4Header.decode data).ipSrc.toString, (IPv4Header.decode data).ipDst.toString, "IPv4")
    | none => ("Unknown", "Unknown", "Unknown")
  let (srcPort, dstPort, protocolByte) :=
    match getLayerOfType Layer.asTcp layers, getLayerOfType Layer.asUdp layers with
    | some (data, _), _ =>
        (((TcpHeader.decode data).portSrc.toNat : Int), ((TcpHeader.decode data).portDst.toNat : Int),
          "TCP")
    | none, some (data, _) =>
        (((UdpHeader.decode data).portSrc.toNat : Int), ((UdpHeader.decode data).portDst.toNat : Int),
          "UDP")
    | none, none => (-1, -1, "Unknown")
  { appName := "Unknown", protocol, protocolByte, srcIp, srcPort, dstIp, dstPort, timeStamp }

def parseRealPacketText (timeStamp : String) : String :=
  jsonResult (parseRealPacketFields pcpp packetData length timeStamp)

theorem parseRealPacketFields_eq (timeStamp : String) :
    parseRealPacketFields pcpp packetData length timeStamp =
      (parseRealPacket pcpp packetData length timeStamp).fields := by
  cases ip : getLayerOfType Layer.asIPv4 (pcpp.layers (packetData.take length)) <;>
    cases tcp : getLayerOfType Layer.asTcp (pcpp.layers (packetData.take length)) <;>
      cases udp : getLayerOfType Layer.asUdp (pcpp.layers (packetData.take length)) <;>
        simp only [parseRealPacketFields, parseRealPacket, TrafficLogResponse.fields, Protocol.text,
          ProtocolByte.text, ip, tcp, udp]

/-- A port of a report is a port, or the mark for a packet without ports. -/
theorem parseRealPacket_ports (timeStamp : String) :
    (-1 ≤ (parseRealPacket pcpp packetData length timeStamp).srcPort ∧
        (parseRealPacket pcpp packetData length timeStamp).srcPort ≤ 65535) ∧
      -1 ≤ (parseRealPacket pcpp packetData length timeStamp).dstPort ∧
        (parseRealPacket pcpp packetData length timeStamp).dstPort ≤ 65535 := by
  have port : ∀ value : UInt16, -1 ≤ (value.toNat : Int) ∧ (value.toNat : Int) ≤ 65535 := by
    intro value
    have bound := value.toNat_lt
    omega
  cases tcp : getLayerOfType Layer.asTcp (pcpp.layers (packetData.take length)) with
  | some found =>
      simp only [parseRealPacket, tcp]
      exact ⟨port _, port _⟩
  | none =>
      cases udp : getLayerOfType Layer.asUdp (pcpp.layers (packetData.take length)) with
      | some found =>
          simp only [parseRealPacket, tcp, udp]
          exact ⟨port _, port _⟩
      | none =>
          simp only [parseRealPacket, tcp, udp]
          decide

theorem parseRealPacket_plain (time : LocalTime) :
    (parseRealPacket pcpp packetData length time.timeStamp).fields.Plain := by
  have protocols : ∀ protocol : Protocol, protocol.text.toList.all FlatJson.plain := by
    intro protocol
    cases protocol <;> decide
  have bytes : ∀ byte : ProtocolByte, byte.text.toList.all FlatJson.plain := by
    intro byte
    cases byte <;> decide
  have unknown : "Unknown".toList.all FlatJson.plain := by decide
  have addresses : (parseRealPacket pcpp packetData length time.timeStamp).srcIp.toList.all
        FlatJson.plain ∧
      (parseRealPacket pcpp packetData length time.timeStamp).dstIp.toList.all FlatJson.plain := by
    cases layer : getLayerOfType Layer.asIPv4 (pcpp.layers (packetData.take length)) with
    | none =>
        simp only [parseRealPacket, layer]
        exact ⟨unknown, unknown⟩
    | some found =>
        simp only [parseRealPacket, layer]
        exact ⟨plain_address _, plain_address _⟩
  have fits : ∀ {port : Int}, -1 ≤ port ∧ port ≤ 65535 → FitsInt port := by
    intro port bounds
    rw [FitsInt]
    omega
  obtain ⟨source, destination⟩ := parseRealPacket_ports pcpp packetData length time.timeStamp
  exact ⟨unknown, protocols _, bytes _, addresses.1, addresses.2, plain_timeStamp time, fits source,
    fits destination⟩

end NativeBridge

theorem fields_injective {traffic other : TrafficLogResponse} (same : traffic.fields = other.fields) :
    traffic = other := by
  have protocols : ∀ protocol other : Protocol, protocol.text = other.text → protocol = other := by
    intro protocol other
    cases protocol <;> cases other <;> decide
  have bytes : ∀ byte other : ProtocolByte, byte.text = other.text → byte = other := by
    intro byte other
    cases byte <;> cases other <;> decide
  cases traffic
  cases other
  simp only [TrafficLogResponse.fields, TrafficLogFields.mk.injEq] at same
  obtain ⟨rfl, protocol, byte, rfl, rfl, rfl, rfl, rfl⟩ := same
  rw [protocols _ _ protocol, bytes _ _ byte]

/-- Whatever the packet and the time, the text of the native code is read back as the
report it was made from, and as that of no other: its ports are `Int`s. -/
theorem report_handed_over {gson : Gson} (documented : gson.Documented) (pcpp : PcapPlusPlus)
    (packetData : List UInt8) (length : Nat) (time : LocalTime) (traffic : TrafficLogResponse) :
    gson.fromJson (parseRealPacketText pcpp packetData length time.timeStamp) = some traffic.fields ↔
      traffic = parseRealPacket pcpp packetData length time.timeStamp := by
  rw [parseRealPacketText, parseRealPacketFields_eq,
    documented.fromJson_jsonResult (parseRealPacket_plain ..), Option.some.injEq]
  constructor
  · intro same
    exact (fields_injective same).symm
  · rintro rfl
    rfl

/-- `Gson` on the objects of its documentation, and nothing else. -/
def Gson.onFlatObjects : Gson where
  fromJson jsonString := (FlatJson.read jsonString.toList).bind TrafficLogFields.ofMembers

theorem Gson.onFlatObjects_documented : Gson.onFlatObjects.Documented := by
  intro jsonString members fields found _ read
  have both : (FlatJson.read jsonString.toList).bind TrafficLogFields.ofMembers = some fields := by
    rw [found]
    exact read
  exact both

theorem datagramToPort9000_handed_over :
    ∃ time : LocalTime, Gson.onFlatObjects.fromJson (parseRealPacketText .headerRules
        datagramToPort9000.bytes datagramToPort9000.bytes.length time.timeStamp) =
      some (parseRealPacket .headerRules datagramToPort9000.bytes datagramToPort9000.bytes.length
        time.timeStamp).fields :=
  ⟨⟨2025, 1, 31, 23, 59, 60, by decide, by decide, by decide, by decide, by decide⟩,
    (report_handed_over Gson.onFlatObjects_documented .headerRules _ _ _ _).mpr rfl⟩

end FirewallVpn
