import WaterBall.Storage.Driver

/-!
# What the functions of the store do to a block

Only the words up to the checksum matter: an update through the swap page
leaves the last word out on purpose. `Agree` compares these words, `Checked`
is the checksum equation, and every function of the module has one law about
them.
-/

namespace WaterBall

open Support

-- ---------------------------------------------------------------------------
-- Words of a block
-- ---------------------------------------------------------------------------

theorem Block.word_eq (b : Block) (i : Fin storageAddressMax) :
    b.word i = LittleEndian.word (Region.slice b.bytes (4 * i) 4) := by
  rw [Region.slice, LittleEndian.word_take _ _ (Nat.le_refl 4), Block.word]

@[simp] theorem Block.word_fill_ff (i : Fin storageAddressMax) :
    (Block.fill 0xFF).word i = 0xFFFFFFFF := by
  revert i
  decide

theorem Block.word_setWord (b : Block) (i j : Fin storageAddressMax) (value : UInt32) :
    (b.setWord i value).word j = if i = j then value else b.word j := by
  have hi : i.val < 3 := i.isLt
  have hfits : 4 * i.val + (LittleEndian.wordBytes value).length ≤ b.bytes.length := by
    rw [b.length_bytes, LittleEndian.length_wordBytes]
    show 4 * i.val + 4 ≤ 12
    omega
  rw [Block.word_eq, Block.setWord]
  by_cases hij : i = j
  · have hsame := Region.slice_splice_same hfits
    rw [LittleEndian.length_wordBytes] at hsame
    subst hij
    rw [if_pos rfl, hsame, LittleEndian.word_wordBytes_self]
  · have hne : i.val ≠ j.val := fun h => hij (Fin.ext h)
    rw [if_neg hij, Region.slice_splice_disjoint hfits, ← Block.word_eq]
    rw [LittleEndian.length_wordBytes]
    omega

/-- The words up to the checksum are the same. -/
def Block.Agree (a b : Block) : Prop := a.bytes.take 8 = b.bytes.take 8

namespace Block.Agree

theorem refl (b : Block) : b.Agree b := rfl

theorem symm (h : Block.Agree a b) : b.Agree a := Eq.symm h

theorem trans (h : Block.Agree a b) (h' : b.Agree c) : a.Agree c := Eq.trans h h'

theorem slice (h : Block.Agree a b) (hn : start + n ≤ 8) :
    Region.slice a.bytes start n = Region.slice b.bytes start n := by
  have htake : ∀ m : List UInt8, Region.slice m start n = ((m.take 8).drop start).take n := by
    intro m
    rw [Region.slice, List.drop_take, List.take_take, Nat.min_eq_left (by omega)]
  rw [htake, htake, h]

theorem word (h : Block.Agree a b) {i : Fin storageAddressMax}
    (hi : i.val ≤ storageAddressChecksum) : a.word i = b.word i := by
  have : i.val ≤ 1 := hi
  rw [Block.word_eq, Block.word_eq, h.slice (by omega)]

end Block.Agree

-- ---------------------------------------------------------------------------
-- Checksums
-- ---------------------------------------------------------------------------

/-- The checksum equation. -/
def Block.Checked (b : Block) : Prop := b.word 1 = storageCalculateChecksum b

theorem storageCalculateChecksum_eq (b : Block) : storageCalculateChecksum b = b.word 0 :=
  UInt32.zero_add _

theorem Block.checked_iff (b : Block) : b.Checked ↔ b.word 1 = b.word 0 := by
  rw [Block.Checked, storageCalculateChecksum_eq]

instance (b : Block) : Decidable b.Checked := by
  unfold Block.Checked
  infer_instance

theorem Block.Agree.checked (h : Block.Agree a b) (ha : a.Checked) : b.Checked := by
  rw [Block.checked_iff] at ha ⊢
  have h0 : a.word 0 = b.word 0 := h.word (by decide)
  have h1 : a.word 1 = b.word 1 := h.word (by decide)
  rw [← h0, ← h1, ha]

theorem storageIsCorrectChecksum_iff (s : Storage) :
    storageIsCorrectChecksum s = true ↔ s.flashedCopy.Checked := beq_iff_eq

theorem storageUpdateChecksum_checked (s : Storage) :
    (storageUpdateChecksum s).flashedCopy.Checked := by
  rw [Block.checked_iff, storageUpdateChecksum, storageCalculateChecksum_eq,
    Block.word_setWord, Block.word_setWord]
  rfl

/-- The checksum update leaves the data alone. -/
theorem storageUpdateChecksum_slice (s : Storage) (hn : start + n ≤ 4) :
    Region.slice (storageUpdateChecksum s).flashedCopy.bytes start n =
      Region.slice s.flashedCopy.bytes start n := by
  apply Region.slice_splice_disjoint
  · rw [s.flashedCopy.length_bytes, LittleEndian.length_wordBytes]
    decide
  · left
    show start + n ≤ 4 * 1
    omega

-- ---------------------------------------------------------------------------
-- The functions
-- ---------------------------------------------------------------------------

/-- Flash and flashed copy have one image, with a correct checksum. -/
structure Storage.Synced (s : Storage) : Prop where
  agree : s.flash.page.Agree s.flashedCopy
  checked : s.flash.page.Checked

theorem Storage.Synced.flashed (h : Storage.Synced s) : s.flashedCopy.Checked :=
  h.agree.checked h.checked

section
variable (sdk : Pstorage)

theorem Pstorage.update_agree (flash : Flash) (src : Block) (size : UInt32)
    (hmin : 8 ≤ size.toNat) (hmax : size.toNat ≤ blockSize) (hword : 4 ∣ size.toNat) :
    (flash.applyAll (sdk.pstorageUpdate src size)).page.Agree src := by
  have hlen : size.toNat ≤ src.bytes.length := by rw [src.length_bytes]; exact hmax
  rw [Block.Agree, sdk.update_page flash src size hmax hword, List.take_append_of_le_length,
    List.take_take, Nat.min_eq_left hmin]
  rw [List.length_take]
  omega

theorem storageStoreData_calls (s : Storage) (copyToSwap : Bool) :
    (storageStoreData sdk s copyToSwap).2 =
      [.pstorageUpdate (storageUpdateChecksum s).flashedCopy (if copyToSwap then 8 else 12)] := by
  cases copyToSwap <;> rfl

theorem storageStoreData_flashed (s : Storage) (copyToSwap : Bool) :
    (storageStoreData sdk s copyToSwap).1.flashedCopy = (storageUpdateChecksum s).flashedCopy :=
  rfl

/-- Whatever was there before, a store leaves one checked image. -/
theorem storageStoreData_synced (s : Storage) (copyToSwap : Bool) :
    (storageStoreData sdk s copyToSwap).1.Synced := by
  have hagree : (storageStoreData sdk s copyToSwap).1.flash.page.Agree
      (storageUpdateChecksum s).flashedCopy := by
    cases copyToSwap
    · exact sdk.update_agree _ _ 12 (by decide) (by decide) (by decide)
    · exact sdk.update_agree _ _ 8 (by decide) (by decide) (by decide)
  exact ⟨hagree, hagree.symm.checked (storageUpdateChecksum_checked s)⟩

theorem storageInit_page {s : Storage} (h : s.flash.page.Checked) :
    storageInit sdk s =
      ({ s with flashedCopy := s.flash.page, volatileCopy := s.flash.page, storageState := .init },
        [.pstorageRegister blockSize 1, .pstorageLoad blockSize]) := by
  have hpage : storageIsCorrectChecksum { s with flashedCopy := s.flash.page } = true :=
    (storageIsCorrectChecksum_iff _).mpr h
  simp only [storageInit, sdk.load_page, hpage, ↓reduceIte, List.append_nil]

/-- Otherwise a swap page with one is written back to the page. -/
theorem storageInit_swap {s : Storage} (hp : ¬ s.flash.page.Checked) (hs : s.flash.swap.Checked) :
    let stored := storageStoreData sdk { s with flashedCopy := s.flash.swap } false
    storageInit sdk s =
      ({ stored.1 with volatileCopy := stored.1.flashedCopy, storageState := .init },
        [.pstorageRegister blockSize 1, .pstorageLoad blockSize, .swapRead] ++ stored.2) := by
  have hpage : ¬ storageIsCorrectChecksum { s with flashedCopy := s.flash.page } = true :=
    fun h => hp ((storageIsCorrectChecksum_iff _).mp h)
  have hswap : storageIsCorrectChecksum { s with flashedCopy := s.flash.swap } = true :=
    (storageIsCorrectChecksum_iff _).mpr hs
  intro stored
  simp only [storageInit, sdk.load_page, storageLoadSwap, hpage, hswap, ↓reduceIte,
    Bool.false_eq_true]
  rfl

/-- With neither, the store starts erased and the flash stays as it is. -/
theorem storageInit_blank {s : Storage} (hp : ¬ s.flash.page.Checked)
    (hs : ¬ s.flash.swap.Checked) :
    storageInit sdk s =
      ({ s with
          flashedCopy := Block.fill 0xFF
          volatileCopy := Block.fill 0xFF
          storageState := .init },
        [.pstorageRegister blockSize 1, .pstorageLoad blockSize, .swapRead]) := by
  have hpage : ¬ storageIsCorrectChecksum { s with flashedCopy := s.flash.page } = true :=
    fun h => hp ((storageIsCorrectChecksum_iff _).mp h)
  have hswap : ¬ storageIsCorrectChecksum { s with flashedCopy := s.flash.swap } = true :=
    fun h => hs ((storageIsCorrectChecksum_iff _).mp h)
  simp only [storageInit, sdk.load_page, storageLoadSwap, hpage, hswap, ↓reduceIte,
    Bool.false_eq_true, List.cons_append, List.nil_append]

end

-- ---------------------------------------------------------------------------
-- Writes
-- ---------------------------------------------------------------------------

theorem Block.write_eq_some {b b' : Block} (h : b.write start src = some b') :
    start + src.length ≤ b.bytes.length ∧ b'.bytes = Region.splice b.bytes start src := by
  unfold Block.write at h
  split at h
  case isTrue hfits =>
    cases h
    exact ⟨hfits, rfl⟩
  case isFalse => cases h

theorem Block.write_of_fits {b : Block} (h : start + src.length ≤ b.bytes.length) :
    ∃ b', b.write start src = some b' :=
  ⟨_, dif_pos h⟩

/-- Bytes outside the written ones keep their value. -/
theorem Block.write_disjoint {b b' : Block} (h : b.write start src = some b')
    (hd : at' + n ≤ start ∨ start + src.length ≤ at') :
    Region.slice b'.bytes at' n = Region.slice b.bytes at' n := by
  obtain ⟨hfits, heq⟩ := Block.write_eq_some h
  rw [heq, Region.slice_splice_disjoint hfits hd]

theorem Block.write_same {b b' : Block} (h : b.write start src = some b') :
    Region.slice b'.bytes start src.length = src := by
  obtain ⟨hfits, heq⟩ := Block.write_eq_some h
  rw [heq, Region.slice_splice_same hfits]

-- ---------------------------------------------------------------------------
-- How an update ends
-- ---------------------------------------------------------------------------

/-- The ways `storage_update_value` ends, for the bytes `v` at `start`: refused,
already there, kept in RAM, or stored. -/
inductive UpdateEnds (sdk : Pstorage) (s : Storage) (start : Nat) (v pLocal : List UInt8)
    (force : Bool) : Bool → List UInt8 → Storage → List StorageCall → Prop
  | locked (hlocked : s.isLocked = true) (hforce : force = false) :
      UpdateEnds sdk s start v pLocal force false pLocal' s []
  | same (hsame : Region.slice s.volatileCopy.bytes start v.length = v) :
      UpdateEnds sdk s start v pLocal force true pLocal s []
  | kept (hflash : s.autoFlash = false) (hforce : force = false)
      (hnew : Region.slice s.volatileCopy.bytes start v.length ≠ v)
      (hvolatile : s.volatileCopy.write start v = some volatileCopy) :
      UpdateEnds sdk s start v pLocal force true pLocal { s with volatileCopy } []
  | stored (hnew : Region.slice s.volatileCopy.bytes start v.length ≠ v)
      (hvolatile : s.volatileCopy.write start v = some volatileCopy)
      (hflashed : s.flashedCopy.write start v = some flashedCopy)
      (hbefore : before.filterMap StorageCall.source = [])
      (hafter : after.filterMap StorageCall.source = []) :
      UpdateEnds sdk s start v pLocal force true pLocal
        (storageStoreData sdk { s with volatileCopy, flashedCopy } true).1
        (before ++ (storageStoreData sdk { s with volatileCopy, flashedCopy } true).2 ++ after)

theorem storageFlashValue_eq_some
    (h : storageFlashValue sdk s offset source isConnecting isDiscovering = some (s', calls)) :
    ∃ flashedCopy before after, s.flashedCopy.write offset.toNat source = some flashedCopy ∧
      before.filterMap StorageCall.source = [] ∧ after.filterMap StorageCall.source = [] ∧
      s' = (storageStoreData sdk { s with flashedCopy } true).1 ∧
      calls = before ++ (storageStoreData sdk { s with flashedCopy } true).2 ++ after := by
  simp only [storageFlashValue, Option.bind_eq_bind, Option.pure_def,
    Option.bind_eq_some_iff, Option.some.injEq, Prod.mk.injEq] at h
  obtain ⟨flashedCopy, hwrite, rfl, rfl⟩ := h
  refine ⟨flashedCopy, _, _, hwrite, ?_, ?_, rfl, rfl⟩
  · cases isConnecting <;> cases isDiscovering <;> rfl
  · cases isDiscovering <;> rfl

/-- The spec of `storage_update_value`. -/
theorem storageUpdateValue_ends (h : storageUpdateValue sdk s address size pLocal force
      isConnecting isDiscovering = some (ok, pLocal', s', calls)) :
    address.offset.toNat + size.toNat ≤ blockSize ∧
      (ok = true → size.toNat ≤ pLocal.length) ∧
      UpdateEnds sdk s address.offset.toNat (pLocal.take size.toNat) pLocal force
        ok pLocal' s' calls := by
  simp only [storageUpdateValue, Option.bind_eq_bind, Option.pure_def,
    Option.bind_eq_some_iff] at h
  obtain ⟨-, -, stored, hstored, h⟩ := h
  obtain ⟨hfits, rfl⟩ := Region.read_eq_some.mp hstored
  refine ⟨s.volatileCopy.length_bytes ▸ hfits, ?_⟩
  split at h
  case isTrue hlock =>
    obtain ⟨pLocal', -, h⟩ := Option.bind_eq_some_iff.mp h
    cases h
    simp only [Bool.and_eq_true, Bool.not_eq_eq_eq_not, Bool.not_true] at hlock
    exact ⟨nofun, .locked hlock.1 hlock.2⟩
  case isFalse =>
    obtain ⟨source, hsource, h⟩ := Option.bind_eq_some_iff.mp h
    obtain ⟨hlen, rfl⟩ := Region.read_eq_some.mp hsource
    rw [Nat.zero_add] at hlen
    have htake : (pLocal.take size.toNat).length = size.toNat := List.length_take_of_le hlen
    refine ⟨fun _ => hlen, ?_⟩
    rw [Region.slice_zero_start] at h
    split at h
    case isTrue hsame =>
      cases h
      exact .same (htake.symm ▸ hsame)
    case isFalse hnew =>
      have hnew : Region.slice s.volatileCopy.bytes address.offset.toNat
          (pLocal.take size.toNat).length ≠ pLocal.take size.toNat := by
        rw [htake]
        exact hnew
      obtain ⟨volatileCopy, hvolatile, h⟩ := Option.bind_eq_some_iff.mp h
      split at h
      case isTrue =>
        obtain ⟨⟨t, out⟩, hvalue, h⟩ := Option.bind_eq_some_iff.mp h
        cases h
        obtain ⟨flashedCopy, before, after, hflashed, hb, ha, rfl, rfl⟩ :=
          storageFlashValue_eq_some hvalue
        exact .stored hnew hvolatile hflashed hb ha
      case isFalse hflash =>
        cases h
        simp only [Bool.or_eq_true, not_or, Bool.not_eq_true] at hflash
        exact .kept hflash.1 hflash.2 hnew hvolatile

-- ---------------------------------------------------------------------------
-- How an initial value is found
-- ---------------------------------------------------------------------------

theorem maxSize_toNat (sdk : Pstorage) {size : UInt32} (h : size.toNat ≤ blockSize) :
    (maxSize sdk size).toNat = (size.toNat + 3) / 4 * 4 := by
  have : size.toNat ≤ 12 := h
  exact sdk.ceilDiv_words size (by show size.toNat + 4 ≤ 4294967296; omega)

theorem maxSize_words (sdk : Pstorage) {size : UInt32} (h : size.toNat ≤ blockSize) :
    (maxSize sdk size / 4).toNat = (size.toNat + 3) / 4 := by
  rw [UInt32.toNat_div, maxSize_toNat sdk h]
  exact Nat.mul_div_cancel _ (by decide)

theorem hasModifications_defined {copy : Block} (h : offset + 4 * count ≤ blockSize) :
    ∃ modified, hasModifications copy count offset = some modified := by
  induction count generalizing offset with
  | zero => exact ⟨false, rfl⟩
  | succ count ih =>
    have hread : offset + 4 ≤ copy.bytes.length := by
      rw [copy.length_bytes]
      omega
    simp only [hasModifications, Region.read_of_fits hread, Option.bind_eq_bind, Option.bind_some]
    split
    · exact ⟨true, rfl⟩
    · exact ih (by omega)

/-- No modification is found only where every word is erased. -/
theorem hasModifications_false {copy : Block}
    (h : hasModifications copy (count + 1) offset = some false) :
    LittleEndian.word (Region.slice copy.bytes offset 4) = defaultMemoryValue := by
  simp only [hasModifications, Option.bind_eq_bind, Option.bind_eq_some_iff] at h
  obtain ⟨bytes, hread, h⟩ := h
  obtain ⟨-, rfl⟩ := Region.read_eq_some.mp hread
  split at h
  case isTrue => cases h
  case isFalse heq =>
    simp only [bne_iff_ne, ne_eq, not_not] at heq
    exact heq.symm

/-- The ways `storage_init_value` ends: the stored bytes go to the caller, or
the caller's bytes become the volatile ones. -/
inductive InitValueEnds (s : Storage) (start size : Nat) (pLocal : List UInt8) :
    Bool → List UInt8 → Storage → Prop
  | stored : InitValueEnds s start size pLocal true
      (Region.splice pLocal 0 (Region.slice s.volatileCopy.bytes start size)) s
  | initial (hvolatile : s.volatileCopy.write start (pLocal.take size) = some volatileCopy) :
      InitValueEnds s start size pLocal false pLocal { s with volatileCopy }

/-- The spec of `storage_init_value`. -/
theorem storageInitValue_ends
    (h : storageInitValue sdk s address size pLocal = some (pLocal', s')) :
    address.offset.toNat + size.toNat ≤ blockSize ∧ size.toNat ≤ pLocal.length ∧
      ∃ modified, hasModifications s.volatileCopy ((size.toNat + 3) / 4) address.offset.toNat =
          some modified ∧
        InitValueEnds s address.offset.toNat size.toNat pLocal modified pLocal' s' := by
  simp only [storageInitValue, Option.bind_eq_bind, Option.pure_def,
    Option.bind_eq_some_iff] at h
  obtain ⟨-, -, modified, hmod, h⟩ := h
  cases modified with
  | true =>
    obtain ⟨source, hread, h⟩ := Option.bind_eq_some_iff.mp h
    obtain ⟨pLocal', hwrite, h⟩ := Option.bind_eq_some_iff.mp h
    cases h
    obtain ⟨hfits, rfl⟩ := Region.read_eq_some.mp hread
    obtain ⟨hlen, rfl⟩ := Region.write_eq_some.mp hwrite
    rw [s.volatileCopy.length_bytes] at hfits
    rw [Region.length_slice, s.volatileCopy.length_bytes] at hlen
    rw [maxSize_words sdk (by omega)] at hmod
    exact ⟨hfits, by omega, true, hmod, .stored⟩
  | false =>
    obtain ⟨source, hread, h⟩ := Option.bind_eq_some_iff.mp h
    obtain ⟨volatileCopy, hwrite, h⟩ := Option.bind_eq_some_iff.mp h
    cases h
    obtain ⟨hlen, rfl⟩ := Region.read_eq_some.mp hread
    obtain ⟨hfits, -⟩ := Block.write_eq_some hwrite
    rw [Region.slice_zero_start] at hwrite hfits
    rw [List.length_take_of_le (by omega), s.volatileCopy.length_bytes] at hfits
    rw [maxSize_words sdk (by omega)] at hmod
    exact ⟨hfits, by omega, false, hmod, .initial hwrite⟩

end WaterBall
