import Mathlib.Algebra.Group.Nat.Defs
import Mathlib.Tactic.Common

/-!
# Numbers in texts

Integers in decimal, two characters wide at least, and records between
separators: what is printed can be read back.
-/

namespace Support.Texts

-- ---------------------------------------------------------------------------
-- Numbers
-- ---------------------------------------------------------------------------

/-- A text of digits, one at least. -/
def readNat (text : List Char) : Option Nat :=
  if !text.isEmpty && text.all Char.isDigit then some (Nat.ofDigitChars 10 text 0) else none

def readInt : List Char → Option Int
  | '-' :: digits => (readNat digits).map fun n : Nat => -(n : Int)
  | digits => (readNat digits).map fun n : Nat => (n : Int)

/-- `%02d` -/
def twoWide (i : Int) : String :=
  let text := toString i
  if text.length < 2 then "0" ++ text else text

theorem readNat_digits (hdigits : ∀ c ∈ digits, c.isDigit = true) (hne : digits ≠ []) :
    readNat digits = some (Nat.ofDigitChars 10 digits 0) :=
  if_pos (Bool.and_eq_true_iff.mpr ⟨by simpa using hne, List.all_eq_true.mpr hdigits⟩)

theorem isDigit_toDigits (n : Nat) : ∀ c ∈ Nat.toDigits 10 n, c.isDigit = true :=
  fun _ hc => Nat.isDigit_of_mem_toDigits (by decide) (by decide) hc

theorem readNat_toDigits (n : Nat) : readNat (Nat.toDigits 10 n) = some n := by
  rw [readNat_digits (isDigit_toDigits n) Nat.toDigits_ne_nil, Nat.ofDigitChars_ten_toDigits]

/-- A zero in front changes nothing. -/
theorem readNat_zero_toDigits (n : Nat) : readNat ('0' :: Nat.toDigits 10 n) = some n := by
  rw [readNat_digits (List.forall_mem_cons.mpr ⟨by decide, isDigit_toDigits n⟩)
    (List.cons_ne_nil _ _), Nat.ofDigitChars_cons]
  exact congrArg some Nat.ofDigitChars_ten_toDigits

theorem readInt_digits (hdigits : ∀ c ∈ digits, c.isDigit = true) :
    readInt digits = (readNat digits).map fun n : Nat => (n : Int) := by
  unfold readInt
  split
  case h_1 rest => exact absurd (hdigits '-' (List.mem_cons_self ..)) (by decide)
  case h_2 => rfl

/-- The text of an integer: a sign, the digits, and a zero in front of a single digit. -/
theorem toList_twoWide (i : Int) : (twoWide i).toList =
    if 0 ≤ i then
      if i.toNat < 10 then '0' :: Nat.toDigits 10 i.toNat else Nat.toDigits 10 i.toNat
    else '-' :: Nat.toDigits 10 (-i).toNat := by
  have hlength (n : Nat) : (Nat.toDigits 10 n).length < 2 ↔ n < 10 :=
    Nat.lt_succ_iff.trans (Nat.length_toDigits_le_iff (by decide) (by decide))
  unfold twoWide
  rw [Int.toString_eq_repr, Int.repr_eq_if]
  dsimp only
  split
  case isTrue =>
    rw [apply_ite String.toList, String.toList_append, ← String.length_toList, Nat.toList_repr]
    exact if_congr (hlength _) rfl rfl
  case isFalse =>
    have hpos : 0 < (Nat.toDigits 10 (-i).toNat).length := Nat.length_toDigits_pos
    rw [if_neg, String.toList_append, Nat.toList_repr]
    · rfl
    · rw [← String.length_toList, String.toList_append, List.length_append, Nat.toList_repr]
      exact Nat.not_lt.mpr (Nat.add_le_add (Nat.le_refl 1) hpos)

theorem readInt_twoWide (i : Int) : readInt (twoWide i).toList = some i := by
  rw [toList_twoWide]
  split
  case isTrue hpos =>
    have hi : ((i.toNat : Nat) : Int) = i := Int.toNat_of_nonneg hpos
    split
    · rw [readInt_digits (List.forall_mem_cons.mpr ⟨by decide, isDigit_toDigits _⟩),
        readNat_zero_toDigits, Option.map_some, hi]
    · rw [readInt_digits (isDigit_toDigits _), readNat_toDigits, Option.map_some, hi]
  case isFalse hneg =>
    rw [readInt, readNat_toDigits, Option.map_some, Int.toNat_of_nonneg (by omega), Int.neg_neg]

/-- What the text of an integer is made of. -/
def IsNumeral (c : Char) : Prop := c = '-' ∨ c.isDigit = true

theorem twoWide_numerals (i : Int) : ∀ c ∈ (twoWide i).toList, IsNumeral c := by
  rw [toList_twoWide]
  have hdigits (n : Nat) : ∀ c ∈ Nat.toDigits 10 n, IsNumeral c :=
    fun c hc => .inr (isDigit_toDigits n c hc)
  split
  · split
    · exact List.forall_mem_cons.mpr ⟨.inr (by decide), hdigits _⟩
    · exact hdigits _
  · exact List.forall_mem_cons.mpr ⟨.inl rfl, hdigits _⟩

theorem length_twoWide_le (hk : 2 ≤ k) (hi : i.natAbs < 10 ^ k) : (twoWide i).length ≤ k + 1 := by
  have hdigits {n : Nat} (hn : n < 10 ^ k) : (Nat.toDigits 10 n).length ≤ k :=
    (Nat.length_toDigits_le_iff (by decide) (by omega)).mpr hn
  rw [← String.length_toList, toList_twoWide]
  split
  · have hnat : i.toNat < 10 ^ k := by omega
    split
    · exact Nat.succ_le_succ (hdigits hnat)
    · exact Nat.le_succ_of_le (hdigits hnat)
  · exact Nat.succ_le_succ (hdigits (by omega))

-- ---------------------------------------------------------------------------
-- Records
-- ---------------------------------------------------------------------------

theorem intercalate_records {α : Type*} (sep : α) (first : List α) (records : List (List α)) :
    [sep].intercalate (first :: records) = first ++ records.flatMap fun r => sep :: r := by
  induction records generalizing first with
  | nil => rw [List.intercalate_singleton, List.flatMap_nil, List.append_nil]
  | cons r records ih =>
    rw [List.intercalate_cons_cons, ih, List.flatMap_cons]
    simp

/-- Records that each follow a separator. -/
theorem splitOn_records {α : Type*} [BEq α] [LawfulBEq α] {sep : α} {records : List (List α)}
    (h : ∀ r ∈ records, sep ∉ r) :
    (records.flatMap fun r => sep :: r).splitOn sep = [] :: records := by
  rw [← List.nil_append (records.flatMap _), ← intercalate_records]
  exact List.splitOn_intercalate sep (List.forall_mem_cons.mpr ⟨List.not_mem_nil, h⟩)
    (List.cons_ne_nil _ _)

end Support.Texts
