import Mathlib.Order.Fin.Basic
import WaterBall.Storage.ImageLaws

/-!
# The flash in the middle of an update

An update through the swap page, stopped after any number of its steps: either
the page is still the old one, or the swap page is a copy of it and the page
is erased up to the words written so far. Run to its end it does what the SDK
promises, so the promise can be kept.
-/

namespace WaterBall

open Support

-- ---------------------------------------------------------------------------
-- The two halves of an update
-- ---------------------------------------------------------------------------

@[simp] theorem Flash.applyAll_cons (f : Flash) (op : FlashOp) (ops : List FlashOp) :
    f.applyAll (op :: ops) = (op.apply f).applyAll ops := rfl

theorem Flash.applyAll_append (f : Flash) (ops ops' : List FlashOp) :
    f.applyAll (ops ++ ops') = (f.applyAll ops).applyAll ops' := List.foldl_append

theorem Flash.applyAll_copy (f : Flash) (is : List (Fin storageAddressMax)) :
    (f.applyAll (is.map .copyWord)).page = f.page ∧
      ∀ j, (f.applyAll (is.map .copyWord)).swap.word j =
        if j ∈ is then f.page.word j else f.swap.word j := by
  induction is generalizing f with
  | nil => exact ⟨rfl, fun j => rfl⟩
  | cons i is ih =>
    obtain ⟨hpage, hswap⟩ := ih ((FlashOp.copyWord i).apply f)
    refine ⟨hpage, fun j => ?_⟩
    rw [List.map_cons, Flash.applyAll_cons, hswap]
    simp only [FlashOp.apply, Block.word_setWord, List.mem_cons]
    by_cases hj : i = j
    · subst hj
      simp
    · simp [hj, Ne.symm hj]

def writeBack (src : Block) (n : Nat) (i : Fin storageAddressMax) : FlashOp :=
  if i.val < n then .writeWord i (src.word i) else .restoreWord i

theorem writeBack_apply (src : Block) (n : Nat) (i : Fin storageAddressMax) (f : Flash) :
    (writeBack src n i).apply f =
      { f with page := f.page.setWord i (if i.val < n then src.word i else f.swap.word i) } := by
  unfold writeBack
  split <;> rfl

theorem Flash.applyAll_writeBack (f : Flash) (src : Block) (n : Nat)
    (is : List (Fin storageAddressMax)) :
    (f.applyAll (is.map (writeBack src n))).swap = f.swap ∧
      ∀ j, (f.applyAll (is.map (writeBack src n))).page.word j =
        if j ∈ is then (if j.val < n then src.word j else f.swap.word j) else f.page.word j := by
  induction is generalizing f with
  | nil => exact ⟨rfl, fun j => rfl⟩
  | cons i is ih =>
    obtain ⟨hswap, hpage⟩ := ih ((writeBack src n i).apply f)
    rw [List.map_cons, Flash.applyAll_cons]
    rw [writeBack_apply] at hswap hpage ⊢
    refine ⟨hswap, fun j => ?_⟩
    rw [hpage, Block.word_setWord]
    simp only [List.mem_cons]
    by_cases hj : i = j
    · subst hj
      simp
    · simp [hj, Ne.symm hj]

-- ---------------------------------------------------------------------------
-- A cut update
-- ---------------------------------------------------------------------------

/-- The steps before the page is erased. -/
def backupSteps : List FlashOp := .eraseSwap :: (List.finRange storageAddressMax).map .copyWord

theorem updateThroughSwap_eq (src : Block) (n : Nat) :
    updateThroughSwap src n =
      backupSteps ++ .erasePage :: (List.finRange storageAddressMax).map (writeBack src n) := rfl

theorem Flash.backup_page (f : Flash) (k : Nat) :
    (f.applyAll (backupSteps.take k)).page = f.page := by
  cases k with
  | zero => rfl
  | succ k =>
    rw [backupSteps, List.take_succ_cons, Flash.applyAll_cons, ← List.map_take,
      (Flash.applyAll_copy _ _).1]
    rfl

theorem Flash.backup_swap (f : Flash) (j : Fin storageAddressMax) :
    (f.applyAll backupSteps).swap.word j = f.page.word j := by
  rw [backupSteps, Flash.applyAll_cons, (Flash.applyAll_copy _ _).2, if_pos (List.mem_finRange j)]
  rfl

/-- Where power can be lost: before the erase, or after it and `written` words. -/
inductive CutImage (f : Flash) (src : Block) (n k : Nat) (cut : Flash) : Prop
  | before (hk : k ≤ backupSteps.length) (hpage : cut.page = f.page)
  | after (written : Nat) (hk : k = backupSteps.length + 1 + written)
      (hswap : ∀ j, cut.swap.word j = f.page.word j)
      (hpage : ∀ j, cut.page.word j =
        if j.val < written then (if j.val < n then src.word j else f.page.word j) else 0xFFFFFFFF)

theorem mem_take_finRange (j : Fin m) (n : Nat) : j ∈ (List.finRange m).take n ↔ j.val < n := by
  rw [List.mem_take_iff_getElem]
  constructor
  · rintro ⟨i, hi, rfl⟩
    rw [List.getElem_finRange]
    exact Nat.lt_of_lt_of_le hi (Nat.min_le_left ..)
  · intro hj
    have hlen : j.val < min n (List.finRange m).length := by
      rw [List.length_finRange]
      exact Nat.lt_min.mpr ⟨hj, j.isLt⟩
    exact ⟨j.val, hlen, by rw [List.getElem_finRange]; rfl⟩

theorem updateThroughSwap_cut (f : Flash) (src : Block) (n k : Nat) :
    CutImage f src n k (f.applyAll ((updateThroughSwap src n).take k)) := by
  rw [updateThroughSwap_eq, List.take_append]
  obtain hk | hk := Nat.lt_or_ge backupSteps.length k |>.symm
  · rw [Nat.sub_eq_zero_of_le hk, List.take_zero, List.append_nil]
    exact .before hk (f.backup_page k)
  obtain ⟨written, rfl⟩ := Nat.exists_eq_add_of_lt hk
  have hrest : backupSteps.length + written + 1 - backupSteps.length = written + 1 := by omega
  rw [List.take_of_length_le (by omega), hrest, List.take_succ_cons, ← List.map_take,
    Flash.applyAll_append, Flash.applyAll_cons]
  obtain ⟨hswap, hpage⟩ := Flash.applyAll_writeBack
    (FlashOp.erasePage.apply (f.applyAll backupSteps)) src n
    ((List.finRange storageAddressMax).take written)
  refine .after written (by omega) (fun j => ?_) (fun j => ?_)
  · rw [hswap]
    exact f.backup_swap j
  · rw [hpage]
    simp only [mem_take_finRange, FlashOp.apply, Block.word_fill_ff, f.backup_swap]

-- ---------------------------------------------------------------------------
-- An SDK that takes these steps
-- ---------------------------------------------------------------------------

theorem Block.ext_word {a b : Block} (h : ∀ i, a.word i = b.word i) : a = b := by
  have hword : ∀ i : Fin storageAddressMax,
      Region.slice a.bytes (4 * i) 4 = Region.slice b.bytes (4 * i) 4 := by
    intro i
    have hi : i.val < 3 := i.isLt
    have hlen : ∀ c : Block, 4 ≤ (c.bytes.drop (4 * i)).length := by
      intro c
      rw [List.length_drop, c.length_bytes]
      show 4 ≤ 12 - 4 * i.val
      omega
    exact (LittleEndian.word_inj (hlen a) (hlen b)).mp (h i)
  have hbytes : ∀ c : Block, c.bytes = Region.slice c.bytes 0 4 ++
      Region.slice c.bytes 4 4 ++ Region.slice c.bytes 8 4 := by
    intro c
    rw [Region.slice_append_slice c.bytes 0 4 4, Region.slice_append_slice c.bytes 0 8 4]
    exact (List.take_of_length_le (Nat.le_of_eq c.length_bytes)).symm
  have heq : a.bytes = b.bytes := by
    rw [hbytes a, hbytes b]
    exact congrArg₂ _ (congrArg₂ _ (hword 0) (hword 1)) (hword 2)
  cases a
  cases b
  cases heq
  rfl

/-- The first `n` words from `src` before the others of `page`. -/
def Block.overlay (src page : Block) (n : Nat) : Block where
  bytes := src.bytes.take (4 * n) ++ page.bytes.drop (4 * n)
  length_bytes := by
    rw [List.length_append, List.length_take, List.length_drop, src.length_bytes, page.length_bytes]
    omega

theorem Block.word_overlay (src page : Block) (n : Nat) (i : Fin storageAddressMax) :
    (src.overlay page n).word i = if i.val < n then src.word i else page.word i := by
  have hi : i.val < 3 := i.isLt
  have hlen : src.bytes.length = 12 := src.length_bytes
  simp only [Block.word_eq, Block.overlay, Region.slice]
  split
  · rw [List.drop_append_of_le_length (by rw [List.length_take]; omega),
      List.take_append_of_le_length (by rw [List.length_drop, List.length_take]; omega),
      List.drop_take, List.take_take, Nat.min_eq_left (by omega)]
  · have hn : (src.bytes.take (4 * n)).length = 4 * n := List.length_take_of_le (by omega)
    rw [List.drop_append, List.drop_of_length_le (by omega), List.nil_append, hn, List.drop_drop,
      Nat.add_sub_cancel' (by omega)]

theorem updateThroughSwap_page (f : Flash) (src : Block) (n : Nat) :
    (f.applyAll (updateThroughSwap src n)).page = src.overlay f.page n := by
  have hcut := updateThroughSwap_cut f src n (updateThroughSwap src n).length
  have hlen : (updateThroughSwap src n).length = backupSteps.length + 1 + storageAddressMax := by
    rw [updateThroughSwap_eq, List.length_append, List.length_cons, List.length_map,
      List.length_finRange, Nat.add_assoc, Nat.add_comm 1]
  rw [List.take_length, hlen] at hcut
  cases hcut with
  | before hk => exact absurd hk (by decide)
  | after written hk _ hpage =>
    apply Block.ext_word
    intro j
    have hwritten : j.val < written := Nat.add_left_cancel hk ▸ j.isLt
    rw [hpage, Block.word_overlay, if_pos hwritten]

/-- The SDK that takes these steps for every update. -/
def throughSwap : PstorageThroughSwap where
  ceilDiv a b := (a - 1) / b + 1
  pstorageLoad f := f.page
  pstorageUpdate src size := updateThroughSwap src (size.toNat / 4)
  ceilDiv_words a ha := by
    obtain hzero | hpos := Nat.eq_zero_or_pos a.toNat
    · obtain rfl : a = 0 := UInt32.toNat_inj.mp hzero
      rfl
    · have hsub : (a - 1).toNat = a.toNat - 1 :=
        UInt32.toNat_sub_of_le a 1 (UInt32.le_iff_toNat_le.mpr hpos)
      have : a.toNat + 4 ≤ 4294967296 := ha
      simp only [UInt32.toNat_mul, UInt32.toNat_add, UInt32.toNat_div, hsub, UInt32.reduceToNat]
      omega
  load_page _ := rfl
  update_page f src size _ hword := by
    obtain ⟨n, hn⟩ := hword
    rw [updateThroughSwap_page, Block.overlay, hn, Nat.mul_div_cancel_left n (by decide)]
  update_steps _ _ _ _ := rfl

end WaterBall
