import FirewallVpn.Attribution.OldDevices
import FirewallVpn.Library.Columns

/-! The search in `/proc/net/tcp` and `/proc/net/udp`. `ipPortToLocalHex` prints the
octets of an address in lower case, where the kernel prints upper case, and
`findUidForConnection` takes the first line in which the text stands anywhere. -/

set_option autoImplicit false

namespace FirewallVpn

/-!
## The text searched for
-/

private theorem octet_agrees :
    ∀ value < 256, (Nat.toDigits 16 value).leftpad 2 '0' =
        ((Nat.toDigits 16 value).map Char.toUpper).leftpad 2 '0' ↔
      value / 16 < 10 ∧ value % 16 < 10 := by
  decide +kernel

private theorem octet_length :
    ∀ value < 256, ((Nat.toDigits 16 value).leftpad 2 '0').length =
      (((Nat.toDigits 16 value).map Char.toUpper).leftpad 2 '0').length := by
  decide +kernel

private theorem flatMap_eq_iff {α : Type} {first second : α → List Char} {items : List α}
    (sameLength : ∀ item ∈ items, (first item).length = (second item).length) :
    items.flatMap first = items.flatMap second ↔ ∀ item ∈ items, first item = second item := by
  induction items with
  | nil => simp
  | cons item items ih =>
      obtain ⟨head, tail⟩ := List.forall_mem_cons.mp sameLength
      rw [List.flatMap_cons, List.flatMap_cons, List.forall_mem_cons, ← ih tail]
      constructor
      · exact fun same => List.append_inj same head
      · rintro ⟨first, rest⟩
        rw [first, rest]

private theorem port_digits (port : UInt16) :
    ((Text.toHexString port.toNat).leftpad 4 '0').map Char.toUpper =
      ((Nat.toDigits 16 port.toNat).map Char.toUpper).leftpad 4 '0' := by
  have bound := port.toNat_lt
  have small : ((port.toNat : Int) % 2 ^ 32).toNat = port.toNat := by omega
  rw [Text.toHexString, small, List.leftpad, List.leftpad, List.map_append, List.map_replicate,
    List.length_map]
  rfl

/-- `ipPortToLocalHex` finds the kernel's spelling of an endpoint exactly if no
octet has a digit above 9. -/
theorem ipPortToLocalHex_eq_kernelEndpoint_iff (address : IPv4Address) (port : UInt16) :
    UidResolver.ipPortToLocalHex address.toString port.toNat =
        some (kernelEndpoint address port.toNat) ↔
      ∀ octet ∈ address.bytes, octet.toNat / 16 < 10 ∧ octet.toNat % 16 < 10 := by
  rw [UidResolver.ipPortToLocalHex_toString, Option.some.injEq, kernelEndpoint, String.ofList_inj,
    port_digits, List.append_left_inj, flatMap_eq_iff]
  · simp only [List.mem_reverse]
    exact forall₂_congr fun octet _ => octet_agrees octet.toNat octet.toNat_lt
  · exact fun octet _ => octet_length octet.toNat octet.toNat_lt

/-- The address of the interface itself, from which every packet is sent. -/
theorem vpn_endpoint_misspelt :
    ¬ ∀ (address : IPv4Address) (port : UInt16),
      UidResolver.ipPortToLocalHex address.toString port.toNat =
        some (kernelEndpoint address port.toNat) := by
  intro all
  exact absurd (all ⟨10, 0, 0, 2⟩ 40000) (by decide)

/-!
## The line that is found
-/

/-- Eight hexadecimal digits, a colon and four hexadecimal digits. -/
structure IsLocalHex (text : List Char) (address port : List Char) : Prop where
  split : text = address ++ ':' :: port
  addressLength : address.length = 8
  portLength : port.length = 4
  addressDigits : ∀ char ∈ address, char.isHexDigit
  portDigits : ∀ char ∈ port, char.isHexDigit

instance (text address port : List Char) : Decidable (IsLocalHex text address port) :=
  decidable_of_iff ((text = address ++ ':' :: port ∧ address.length = 8 ∧ port.length = 4) ∧
      address.all Char.isHexDigit ∧ port.all Char.isHexDigit)
    ⟨fun ⟨⟨split, addressLength, portLength⟩, addressDigits, portDigits⟩ =>
        ⟨split, addressLength, portLength, List.all_eq_true.mp addressDigits,
          List.all_eq_true.mp portDigits⟩,
      fun form => ⟨⟨form.split, form.addressLength, form.portLength⟩,
        List.all_eq_true.mpr form.addressDigits, List.all_eq_true.mpr form.portDigits⟩⟩

/-- A line of the file with the columns of `row`; how the blanks run is left open. -/
structure SocketLine where
  row : SocketRow
  text : String
  laidOut : Text.LaidOut (row.columns.map String.toList) text.toList

/-- A header line, in which no endpoint stands, and any number of rows. -/
structure SocketFile where
  header : String
  noEndpoint : ':' ∉ header.toList
  rows : List SocketLine

def SocketFile.lines (file : SocketFile) : List String := file.header :: file.rows.map SocketLine.text

/-- The text stands in some column of the row. -/
def SocketRow.mentions (row : SocketRow) (localHex : String) : Bool :=
  row.columns.any fun column => localHex.toList <:+: column.toList

/-- The first row with this local address. -/
def SocketFile.owner (file : SocketFile) (localHex : String) : Option SocketLine :=
  file.rows.find? fun line => line.row.localAddress = localHex

/-- The first row in which the text stands anywhere. -/
def SocketFile.firstMention (file : SocketFile) (localHex : String) : Option SocketLine :=
  file.rows.find? fun line => line.row.mentions localHex

/-- The first row that mentions the text has the uid of the first row with that local
address, and it is one that `toIntOrNull` reads; without such a row it reads none. -/
def FirstMentionOwns (file : SocketFile) (localHex : String) : Prop :=
  ∀ first ∈ file.firstMention localHex,
    (∀ owner ∈ file.owner localHex, first.row.uid = owner.row.uid ∧ owner.row.uid < 2 ^ 31) ∧
      ((file.owner localHex).isNone → 2 ^ 31 ≤ first.row.uid)

instance (file : SocketFile) (localHex : String) : Decidable (FirstMentionOwns file localHex) :=
  inferInstanceAs (Decidable (∀ first ∈ _, (∀ owner ∈ _, _ ∧ _) ∧ (_ → _)))

private theorem isBlank_of_isHexDigit {char : Char} (digit : char.isHexDigit) :
    Text.isBlank char = false := by
  rw [Bool.eq_false_iff]
  intro blank
  simp only [Text.isBlank, List.mem_cons, List.not_mem_nil, or_false, decide_eq_true_eq] at blank
  rcases blank with rfl | rfl | rfl | rfl | rfl | rfl <;> exact absurd digit (by decide)

section Search

variable {localHex : String} {address port : List Char}

theorem IsLocalHex.nonempty (form : IsLocalHex localHex.toList address port) : localHex.toList ≠ [] := by
  rw [form.split]
  exact List.append_ne_nil_of_right_ne_nil _ (List.cons_ne_nil _ _)

theorem IsLocalHex.unbroken (form : IsLocalHex localHex.toList address port) :
    ∀ char ∈ localHex.toList, Text.isBlank char = false := by
  intro char member
  rw [form.split] at member
  rcases List.mem_append.mp member with inAddress | rest
  · exact isBlank_of_isHexDigit (form.addressDigits char inAddress)
  · rcases List.mem_cons.mp rest with rfl | inPort
    · decide
    · exact isBlank_of_isHexDigit (form.portDigits char inPort)

/-- A line contains the text exactly if one of its columns does. -/
theorem SocketLine.contains_iff (form : IsLocalHex localHex.toList address port) (line : SocketLine) :
    localHex.toList <:+: line.text.toList ↔ line.row.mentions localHex := by
  rw [line.laidOut.infix_iff form.nonempty form.unbroken, SocketRow.mentions, List.any_eq_true]
  simp only [List.mem_map, exists_exists_and_eq_and, decide_eq_true_eq]

theorem IsLocalHex.not_infix (form : IsLocalHex localHex.toList address port) {text : List Char}
    (absent : ':' ∉ text) : ¬ localHex.toList <:+: text := by
  intro inside
  refine absent (inside.subset ?_)
  rw [form.split]
  exact List.mem_append_right _ List.mem_cons_self

theorem SocketFile.find_line (form : IsLocalHex localHex.toList address port) (file : SocketFile) :
    (file.lines.find? fun line => localHex.toList <:+: line.toList) =
      (file.firstMention localHex).map SocketLine.text := by
  have same : ((fun line : String => decide (localHex.toList <:+: line.toList)) ∘ SocketLine.text) =
      fun line => line.row.mentions localHex := by
    funext line
    rw [Function.comp_apply, Bool.eq_iff_iff, decide_eq_true_eq]
    exact line.contains_iff form
  rw [SocketFile.lines, List.find?_cons_of_neg, List.find?_map, same, SocketFile.firstMention]
  simpa using form.not_infix file.noEndpoint

/-- The eighth column of a line is the uid of its row. -/
theorem SocketLine.uid_column (line : SocketLine) :
    (Text.splitBlanks (Text.trim line.text.toList))[7]? = some (Nat.toDigits 10 line.row.uid) := by
  rw [line.laidOut.columns, List.getElem?_map]
  exact congrArg some Nat.toList_repr

theorem findUidForConnection_eq {protocol path : String}
    (supported : UidResolver.filePath protocol = some path) {useLines : String → List String}
    {file : SocketFile} (content : useLines path = file.lines)
    (form : IsLocalHex localHex.toList address port) :
    UidResolver.findUidForConnection useLines localHex protocol =
      (file.firstMention localHex).bind fun line =>
        Text.toIntOrNull (Nat.toDigits 10 line.row.uid) := by
  rw [UidResolver.findUidForConnection, supported]
  simp only [content, file.find_line form]
  cases file.firstMention localHex with
  | none => rfl
  | some line => simp only [Option.map_some, line.uid_column, Option.bind_some]

theorem SocketRow.mentions_localAddress (row : SocketRow) : row.mentions row.localAddress := by
  rw [SocketRow.mentions, List.any_eq_true]
  refine ⟨row.localAddress, ?_, by simp⟩
  exact List.mem_append_left _ (List.mem_cons_of_mem _ List.mem_cons_self)

theorem SocketFile.mentioned_of_owner {file : SocketFile} {owner : SocketLine}
    (owns : file.owner localHex = some owner) : ∃ first, file.firstMention localHex = some first := by
  refine Option.isSome_iff_exists.mp (List.find?_isSome.mpr ⟨owner, List.mem_of_find?_eq_some owns, ?_⟩)
  have same : owner.row.localAddress = localHex := by simpa using List.find?_some owns
  exact same ▸ owner.row.mentions_localAddress

/-- The uid of the first row with the local address is found exactly if the first row
that mentions the text anywhere has the same uid. -/
theorem findUidForConnection_iff {protocol path : String}
    (supported : UidResolver.filePath protocol = some path) {useLines : String → List String}
    {file : SocketFile} (content : useLines path = file.lines)
    (form : IsLocalHex localHex.toList address port) :
    UidResolver.findUidForConnection useLines localHex protocol =
        (file.owner localHex).map (fun line => (line.row.uid : Int)) ↔
      FirstMentionOwns file localHex := by
  rw [findUidForConnection_eq supported content form, FirstMentionOwns]
  cases mentioned : file.firstMention localHex with
  | none =>
      cases owns : file.owner localHex with
      | none => simp
      | some owner =>
          obtain ⟨first, found⟩ := SocketFile.mentioned_of_owner owns
          rw [mentioned] at found
          cases found
  | some first =>
      rw [Option.bind_some, Text.toIntOrNull_toDigits_eq]
      cases file.owner localHex with
      | none => simp
      | some owner =>
          simp only [Option.map_some, Option.mem_def, Option.some.injEq, forall_eq', Option.isNone_some,
            Bool.false_eq_true, false_imp_iff, and_true]
          split
          · rw [Option.some.injEq]
            omega
          · simp only [reduceCtorEq, false_iff]
            omega

/-! In the columns that the kernel prints, an endpoint stands as the local or the
remote address, or at the beginning of the two queues. -/

/-- Two texts without a colon around a colon. -/
structure IsPair (text left right : List Char) : Prop where
  split : text = left ++ ':' :: right
  left : ':' ∉ left
  right : ':' ∉ right

structure SocketRow.Printed (row : SocketRow) : Prop where
  index : ∃ digits, IsPair row.index.toList digits []
  localAddress : ∃ address port, IsLocalHex row.localAddress.toList address port
  remoteAddress : ∃ address port, IsLocalHex row.remoteAddress.toList address port
  state : ':' ∉ row.state.toList
  queues : ∃ transmit receive, IsPair row.queues.toList transmit receive ∧ transmit.length = 8
  timer : ∃ active expires, IsPair row.timer.toList active expires ∧ active.length = 2
  retransmits : ':' ∉ row.retransmits.toList
  others : ∀ column ∈ row.others, ':' ∉ column.toList

theorem IsLocalHex.isPair {text : List Char} (form : IsLocalHex text address port) :
    IsPair text address port := by
  have absent : ∀ digits : List Char, (∀ char ∈ digits, char.isHexDigit) → ':' ∉ digits :=
    fun digits all member => absurd (all ':' member) (by decide)
  exact ⟨form.split, absent _ form.addressDigits, absent _ form.portDigits⟩

theorem IsLocalHex.cut (form : IsLocalHex localHex.toList address port) {text left right : List Char}
    (pair : IsPair text left right) (inside : localHex.toList <:+: text) :
    address <:+ left ∧ port <+: right := by
  rw [form.split, pair.split] at inside
  exact Text.infix_cut pair.left pair.right inside

theorem IsLocalHex.infix_endpoint_iff (form : IsLocalHex localHex.toList address port)
    {text otherAddress otherPort : List Char} (other : IsLocalHex text otherAddress otherPort) :
    localHex.toList <:+: text ↔ text = localHex.toList := by
  constructor
  · intro inside
    obtain ⟨sameAddress, samePort⟩ := form.cut other.isPair inside
    rw [form.split, other.split,
      sameAddress.eq_of_length (form.addressLength.trans other.addressLength.symm),
      samePort.eq_of_length (form.portLength.trans other.portLength.symm)]
  · rintro rfl
    exact List.infix_rfl

theorem SocketRow.Printed.mentions_iff {row : SocketRow} (printed : row.Printed)
    (form : IsLocalHex localHex.toList address port) :
    row.mentions localHex ↔ row.localAddress = localHex ∨ row.remoteAddress = localHex ∨
      localHex.toList <+: row.queues.toList := by
  have inIndex : ¬ localHex.toList <:+: row.index.toList := by
    obtain ⟨digits, pair⟩ := printed.index
    intro inside
    have none := List.prefix_nil.mp (form.cut pair inside).2
    exact absurd form.portLength (by simp [none])
  have inTimer : ¬ localHex.toList <:+: row.timer.toList := by
    obtain ⟨active, expires, pair, length⟩ := printed.timer
    intro inside
    have short := (form.cut pair inside).1.length_le
    rw [form.addressLength, length] at short
    exact absurd short (by decide)
  have inUid : ¬ localHex.toList <:+: (toString row.uid).toList := by
    rw [show (toString row.uid).toList = Nat.toDigits 10 row.uid from Nat.toList_repr]
    exact form.not_infix (Text.not_mem_toDigits (by decide) row.uid)
  have inQueues : localHex.toList <:+: row.queues.toList ↔ localHex.toList <+: row.queues.toList := by
    obtain ⟨transmit, receive, pair, length⟩ := printed.queues
    refine ⟨fun inside => ?_, List.IsPrefix.isInfix⟩
    obtain ⟨sameAddress, beginning⟩ := form.cut pair inside
    rw [form.split, pair.split, sameAddress.eq_of_length (form.addressLength.trans length.symm),
      List.prefix_append_right_inj, List.prefix_cons_inj]
    exact beginning
  have inLocal : localHex.toList <:+: row.localAddress.toList ↔ row.localAddress = localHex := by
    obtain ⟨otherAddress, otherPort, other⟩ := printed.localAddress
    rw [form.infix_endpoint_iff other, String.toList_inj]
  have inRemote : localHex.toList <:+: row.remoteAddress.toList ↔ row.remoteAddress = localHex := by
    obtain ⟨otherAddress, otherPort, other⟩ := printed.remoteAddress
    rw [form.infix_endpoint_iff other, String.toList_inj]
  have inOthers : ¬ ∃ column ∈ row.others, localHex.toList <:+: column.toList :=
    fun ⟨column, member, inside⟩ => form.not_infix (printed.others column member) inside
  simp only [SocketRow.mentions, SocketRow.columns, List.any_eq_true, List.mem_append, List.mem_cons,
    List.not_mem_nil, or_false, decide_eq_true_eq, or_and_right, exists_or, exists_eq_left, inIndex,
    inLocal, inRemote, form.not_infix printed.state, inQueues, inTimer,
    form.not_infix printed.retransmits, inUid, inOthers, false_or]

end Search

/-- The columns with one blank between them. -/
def SocketLine.plain (row : SocketRow)
    (columns : ∀ column ∈ row.columns.map String.toList, Text.IsColumn column) : SocketLine where
  row := row
  text := String.ofList ([' '].intercalate (row.columns.map String.toList))
  laidOut := by
    rw [String.toList_ofList]
    exact Text.laidOut_intercalate (List.cons_ne_nil _ _) columns

/-- The two ends of a connection on the loopback interface. -/
def clientRow : SocketRow :=
  { senderRow with
    localAddress := "0100007F:9C40", remoteAddress := "0100007F:1F90", state := "01", uid := 10050 }

def serverRow : SocketRow :=
  { senderRow with
    index := "1:", localAddress := "0100007F:1F90", remoteAddress := "0100007F:9C40", state := "01" }

def loopbackFile : SocketFile where
  header := senderTable.header
  noEndpoint := by decide +kernel
  rows := [.plain clientRow (by decide +kernel), .plain serverRow (by decide +kernel)]

private theorem tcp_file : UidResolver.filePath "TCP" = some "/proc/net/tcp" := by decide

private theorem client_form : IsLocalHex "0100007F:9C40".toList "0100007F".toList "9C40".toList := by
  decide

theorem client_found :
    UidResolver.findUidForConnection (fun _ => loopbackFile.lines) "0100007F:9C40" "TCP" =
      (loopbackFile.owner "0100007F:9C40").map fun line => (line.row.uid : Int) :=
  (findUidForConnection_iff tcp_file rfl client_form).mpr (by decide +kernel)

/-- The server of a loopback connection is taken for its client, whose row comes first. -/
theorem server_taken_for_client :
    ¬ ∀ (protocol path localHex : String) (useLines : String → List String) (file : SocketFile)
        (address port : List Char),
      UidResolver.filePath protocol = some path → useLines path = file.lines →
      IsLocalHex localHex.toList address port →
      UidResolver.findUidForConnection useLines localHex protocol =
        (file.owner localHex).map fun line => (line.row.uid : Int) := by
  intro all
  have form : IsLocalHex "0100007F:1F90".toList "0100007F".toList "1F90".toList := by decide
  have found := all "TCP" "/proc/net/tcp" "0100007F:1F90" (fun _ => loopbackFile.lines) loopbackFile _ _
    tcp_file rfl form
  rw [findUidForConnection_eq tcp_file rfl form] at found
  exact absurd found (by decide +kernel)

end FirewallVpn
