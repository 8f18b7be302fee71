import Mathlib.Logic.Function.Basic

/-! IPv4 addresses and the dotted text in which they travel between the native
code and the service: `toString` prints them in `parseRealPacket`, and the
string constructor of `IPv4Address` reads them back in the packet builders. -/

set_option autoImplicit false

namespace FirewallVpn

/-- The four bytes of an address, in network order. -/
structure IPv4Address where
  first : UInt8
  second : UInt8
  third : UInt8
  fourth : UInt8
  deriving DecidableEq, Repr

namespace IPv4Address

def bytes (address : IPv4Address) : List UInt8 :=
  [address.first, address.second, address.third, address.fourth]

def octetText (octet : UInt8) : List Char := Nat.toDigits 10 octet.toNat

/-- `IPv4Address::toString`. -/
def toString (address : IPv4Address) : String :=
  String.ofList (['.'].intercalate (address.bytes.map octetText))

/-- One field of a dotted address: one to three decimal digits, no leading
zero, at most 255. -/
def parseOctet (text : List Char) : Option UInt8 :=
  let value := Nat.ofDigitChars 10 text 0
  if text ≠ [] ∧ text.length ≤ 3 ∧ text.all Char.isDigit ∧
      (text.length = 1 ∨ text.head? ≠ some '0') ∧ value ≤ 255 then
    some (UInt8.ofNat value)
  else
    none

/-- The constructor from a string; `none` is its `std::invalid_argument`. -/
def ofString (text : String) : Option IPv4Address :=
  match (text.toList.splitOn '.').mapM parseOctet with
  | some [first, second, third, fourth] => some { first, second, third, fourth }
  | _ => none

private theorem parseOctet_digits :
    ∀ value < 256, parseOctet (Nat.toDigits 10 value) = some (UInt8.ofNat value) := by
  decide +kernel

theorem parseOctet_octetText (octet : UInt8) : parseOctet (octetText octet) = some octet := by
  have parsed := parseOctet_digits octet.toNat octet.toNat_lt
  simpa [octetText] using parsed

theorem dot_not_mem_octetText (octet : UInt8) : '.' ∉ octetText octet := by
  intro member
  have digit := Nat.isDigit_of_mem_toDigits (by decide) (by decide) member
  exact absurd digit (by decide)

theorem splitOn_toString (address : IPv4Address) :
    address.toString.toList.splitOn '.' = address.bytes.map octetText := by
  rw [toString, String.toList_ofList]
  apply List.splitOn_intercalate
  · intro text member
    obtain ⟨octet, -, rfl⟩ := List.mem_map.mp member
    exact dot_not_mem_octetText octet
  · simp [bytes]

theorem ofString_toString (address : IPv4Address) : ofString address.toString = some address := by
  rw [ofString, splitOn_toString]
  simp [bytes, parseOctet_octetText]

example : toString ⟨10, 0, 0, 2⟩ = "10.0.0.2" := by decide

end IPv4Address

end FirewallVpn
