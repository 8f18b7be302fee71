import Mathlib.Data.List.Basic

/-! Machine words as they stand in a packet: most significant byte first. -/

set_option autoImplicit false

namespace NetworkOrder

/-- The bytes `htons` puts in memory. -/
def word16 (value : UInt16) : List UInt8 :=
  [UInt8.ofNat (value.toNat / 256), UInt8.ofNat value.toNat]

/-- The bytes `htonl` puts in memory. -/
def word32 (value : UInt32) : List UInt8 :=
  [UInt8.ofNat (value.toNat / 16777216), UInt8.ofNat (value.toNat / 65536),
    UInt8.ofNat (value.toNat / 256), UInt8.ofNat value.toNat]

/-- The values of a four-bit field. -/
instance neZero_nibble : @NeZero Nat Zero.ofOfNat0 16 := ⟨by decide⟩

/-- Two four-bit fields sharing a byte. -/
def nibbles (high low : Fin 16) : UInt8 := UInt8.ofNat (high.val * 16 + low.val)

def highNibble (byte : UInt8) : Fin 16 :=
  ⟨byte.toNat / 16, by have := byte.toNat_lt; omega⟩

def lowNibble (byte : UInt8) : Fin 16 := ⟨byte.toNat % 16, by omega⟩

/-- The byte at an offset; positions outside the data read as zero. -/
def byteAt (data : List UInt8) (offset : Nat) : UInt8 := data.getD offset 0

def read16 (data : List UInt8) (offset : Nat) : UInt16 :=
  UInt16.ofNat ((byteAt data offset).toNat * 256 + (byteAt data (offset + 1)).toNat)

def read32 (data : List UInt8) (offset : Nat) : UInt32 :=
  UInt32.ofNat ((byteAt data offset).toNat * 16777216 + (byteAt data (offset + 1)).toNat * 65536 +
    (byteAt data (offset + 2)).toNat * 256 + (byteAt data (offset + 3)).toNat)

@[simp] theorem word16_length (value : UInt16) : (word16 value).length = 2 := rfl

@[simp] theorem word32_length (value : UInt32) : (word32 value).length = 4 := rfl

private theorem nibbles_toNat (high low : Fin 16) :
    (nibbles high low).toNat = high.val * 16 + low.val := by
  rw [nibbles, UInt8.toNat_ofNat']
  omega

@[simp] theorem highNibble_nibbles (high low : Fin 16) : highNibble (nibbles high low) = high := by
  apply Fin.ext
  simp only [highNibble, nibbles_toNat]
  omega

@[simp] theorem lowNibble_nibbles (high low : Fin 16) : lowNibble (nibbles high low) = low := by
  apply Fin.ext
  simp only [lowNibble, nibbles_toNat]
  omega

@[simp] theorem byteAt_cons_zero (byte : UInt8) (rest : List UInt8) :
    byteAt (byte :: rest) 0 = byte := rfl

@[simp] theorem byteAt_cons_succ (byte : UInt8) (rest : List UInt8) (offset : Nat) :
    byteAt (byte :: rest) (offset + 1) = byteAt rest offset := by
  simp [byteAt]

/-! Reading skips whole words that come before the one asked for. -/

@[simp] theorem read16_cons (byte : UInt8) (rest : List UInt8) (offset : Nat) :
    read16 (byte :: rest) (offset + 1) = read16 rest offset := by
  simp [read16]

@[simp] theorem read32_cons (byte : UInt8) (rest : List UInt8) (offset : Nat) :
    read32 (byte :: rest) (offset + 1) = read32 rest offset := by
  simp [read32, Nat.add_right_comm offset 1]

@[simp] theorem byteAt_after_word16 (value : UInt16) (rest : List UInt8) (offset : Nat) :
    byteAt (word16 value ++ rest) (offset + 2) = byteAt rest offset := by
  simp [word16]

@[simp] theorem byteAt_after_word32 (value : UInt32) (rest : List UInt8) (offset : Nat) :
    byteAt (word32 value ++ rest) (offset + 4) = byteAt rest offset := by
  simp [word32]

@[simp] theorem read16_after_word16 (value : UInt16) (rest : List UInt8) (offset : Nat) :
    read16 (word16 value ++ rest) (offset + 2) = read16 rest offset := by
  simp [word16]

@[simp] theorem read16_after_word32 (value : UInt32) (rest : List UInt8) (offset : Nat) :
    read16 (word32 value ++ rest) (offset + 4) = read16 rest offset := by
  simp [word32]

@[simp] theorem read32_after_word16 (value : UInt16) (rest : List UInt8) (offset : Nat) :
    read32 (word16 value ++ rest) (offset + 2) = read32 rest offset := by
  simp [word16]

@[simp] theorem read32_after_word32 (value : UInt32) (rest : List UInt8) (offset : Nat) :
    read32 (word32 value ++ rest) (offset + 4) = read32 rest offset := by
  simp [word32]

@[simp] theorem read16_word16 (value : UInt16) (rest : List UInt8) :
    read16 (word16 value ++ rest) 0 = value := by
  have bound : value.toNat < 65536 := value.toNat_lt
  apply UInt16.toNat_inj.mp
  simp [read16, word16, byteAt]
  omega

@[simp] theorem read32_word32 (value : UInt32) (rest : List UInt8) :
    read32 (word32 value ++ rest) 0 = value := by
  have bound : value.toNat < 4294967296 := value.toNat_lt
  apply UInt32.toNat_inj.mp
  simp [read32, word32, byteAt]
  omega

end NetworkOrder
