import Mathlib.Algebra.Group.Nat.Defs
import Mathlib.Data.List.Basic
import Mathlib.Tactic.Common

/-!
# Little-endian numbers

A number as a fixed count of bytes, least significant first, and back.
-/

namespace Support.LittleEndian

/-- The number whose bytes these are. -/
def ofBytes : List UInt8 → Nat
  | [] => 0
  | byte :: rest => byte.toNat + 256 * ofBytes rest

/-- The lowest `width` bytes of a number. -/
def toBytes : Nat → Nat → List UInt8
  | 0, _ => []
  | width + 1, n => UInt8.ofNat n :: toBytes width (n / 256)

@[simp] theorem length_toBytes (width n : Nat) : (toBytes width n).length = width := by
  induction width generalizing n with
  | zero => rfl
  | succ width ih => simp [toBytes, ih]

theorem ofBytes_lt (bytes : List UInt8) : ofBytes bytes < 256 ^ bytes.length := by
  induction bytes with
  | nil => simp [ofBytes]
  | cons byte rest ih =>
    have := byte.toNat_lt
    rw [ofBytes, List.length_cons, Nat.pow_succ]
    omega

theorem ofBytes_toBytes (width n : Nat) : ofBytes (toBytes width n) = n % 256 ^ width := by
  induction width generalizing n with
  | zero => simp [toBytes, ofBytes, Nat.mod_one]
  | succ width ih =>
    have hbyte : (UInt8.ofNat n).toNat = n % 256 := UInt8.toNat_ofNat'
    rw [toBytes, ofBytes, ih, hbyte, Nat.pow_succ, Nat.mul_comm (256 ^ width), Nat.mod_mul]

theorem toBytes_ofBytes (bytes : List UInt8) : toBytes bytes.length (ofBytes bytes) = bytes := by
  induction bytes with
  | nil => rfl
  | cons byte rest ih =>
    have hlt := byte.toNat_lt
    have hdiv : (byte.toNat + 256 * ofBytes rest) / 256 = ofBytes rest := by omega
    have hbyte : UInt8.ofNat (byte.toNat + 256 * ofBytes rest) = byte := by
      apply UInt8.toNat_inj.mp
      rw [UInt8.toNat_ofNat']
      omega
    rw [List.length_cons, ofBytes, toBytes, hdiv, ih, hbyte]

-- ---------------------------------------------------------------------------
-- Words of 32 bits
-- ---------------------------------------------------------------------------

/-- The word at the start of `bytes`, as reading through a word pointer gives it. -/
def word (bytes : List UInt8) : UInt32 := UInt32.ofNat (ofBytes (bytes.take 4))

def wordBytes (value : UInt32) : List UInt8 := toBytes 4 value.toNat

@[simp] theorem length_wordBytes (value : UInt32) : (wordBytes value).length = 4 := by
  simp [wordBytes]

@[simp] theorem word_wordBytes (value : UInt32) (rest : List UInt8) :
    word (wordBytes value ++ rest) = value := by
  have := value.toNat_lt
  rw [word, List.take_left' (length_wordBytes value), wordBytes, ofBytes_toBytes]
  apply UInt32.toNat_inj.mp
  rw [UInt32.toNat_ofNat']
  omega

@[simp] theorem word_wordBytes_self (value : UInt32) : word (wordBytes value) = value := by
  simpa using word_wordBytes value []

theorem wordBytes_word {bytes : List UInt8} (h : bytes.length = 4) :
    wordBytes (word bytes) = bytes := by
  have hlt : ofBytes bytes < 2 ^ 32 := by
    have hbound := ofBytes_lt bytes
    rw [h] at hbound
    exact hbound
  rw [wordBytes, word, List.take_of_length_le (Nat.le_of_eq h), UInt32.toNat_ofNat',
    Nat.mod_eq_of_lt hlt, ← h]
  exact toBytes_ofBytes bytes

/-- The first byte is the lowest one. -/
theorem toUInt8_word (byte : UInt8) (rest : List UInt8) :
    (word (byte :: rest)).toUInt8 = byte := by
  have hlt := byte.toNat_lt
  apply UInt8.toNat_inj.mp
  rw [UInt32.toNat_toUInt8, word, UInt32.toNat_ofNat', List.take_succ_cons, ofBytes]
  omega

theorem word_take (bytes : List UInt8) (n : Nat) (h : 4 ≤ n) :
    word (bytes.take n) = word bytes := by
  rw [word, word, List.take_take, Nat.min_eq_left h]

/-- Equal words are equal bytes. -/
theorem word_inj {a b : List UInt8} (ha : 4 ≤ a.length) (hb : 4 ≤ b.length) :
    word a = word b ↔ a.take 4 = b.take 4 := by
  constructor
  · intro h
    have hbytes : ∀ {c : List UInt8}, 4 ≤ c.length → wordBytes (word c) = c.take 4 := by
      intro c hc
      rw [← word_take c 4 (Nat.le_refl 4)]
      exact wordBytes_word (List.length_take_of_le hc)
    rw [← hbytes ha, ← hbytes hb, h]
  · intro h
    rw [word, word, h]

-- ---------------------------------------------------------------------------
-- Halfwords of 16 bits
-- ---------------------------------------------------------------------------

/-- The halfword at the start of `bytes`. -/
def halfword (bytes : List UInt8) : UInt16 := UInt16.ofNat (ofBytes (bytes.take 2))

def halfwordBytes (value : UInt16) : List UInt8 := toBytes 2 value.toNat

@[simp] theorem length_halfwordBytes (value : UInt16) : (halfwordBytes value).length = 2 := by
  simp [halfwordBytes]

@[simp] theorem halfword_halfwordBytes (value : UInt16) (rest : List UInt8) :
    halfword (halfwordBytes value ++ rest) = value := by
  have := value.toNat_lt
  rw [halfword, List.take_left' (length_halfwordBytes value), halfwordBytes, ofBytes_toBytes]
  apply UInt16.toNat_inj.mp
  rw [UInt16.toNat_ofNat']
  omega

theorem halfwordBytes_halfword {bytes : List UInt8} (h : 2 ≤ bytes.length) :
    halfwordBytes (halfword bytes) = bytes.take 2 := by
  have hlen : (bytes.take 2).length = 2 := List.length_take_of_le h
  have hlt : ofBytes (bytes.take 2) < 2 ^ 16 := by
    have hbound := ofBytes_lt (bytes.take 2)
    rw [hlen] at hbound
    exact hbound
  have hbytes := toBytes_ofBytes (bytes.take 2)
  rw [hlen] at hbytes
  rw [halfwordBytes, halfword, UInt16.toNat_ofNat', Nat.mod_eq_of_lt hlt, hbytes]

end Support.LittleEndian
