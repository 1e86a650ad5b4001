import WaterBall.Storage.ImageRuns

/-!
# Losing power in the middle of an update

An update through the swap page can be cut after any of its steps. The next
start-up recovers the old data or the new, with one exception: a page that is
erased and has no word written yet passes the checksum test, so its erased
words are taken for data although the swap page has the old block.
-/

namespace WaterBall

open Support

def Block.SameData (a b : Block) : Prop :=
  ∀ i : Fin storageAddressMax, i.val < storageAddressChecksum → a.word i = b.word i

instance (a b : Block) : Decidable (a.SameData b) :=
  inferInstanceAs (Decidable (∀ _ : Fin storageAddressMax, _))

def Storage.HasData (s : Storage) (b : Block) : Prop :=
  s.flashedCopy.SameData b ∧ s.volatileCopy.SameData b

instance (s : Storage) (b : Block) : Decidable (s.HasData b) := inferInstanceAs (Decidable (_ ∧ _))

/-- The flash when power is lost after `k` steps of the update. -/
def powerCut (sdk : Pstorage) (flash : Flash) (src : Block) (size : UInt32) (k : Nat) : Flash :=
  flash.applyAll ((sdk.pstorageUpdate src size).take k)

/-- The next start-up, on this flash. -/
def storageRecover (sdk : Pstorage) (flash : Flash) : Storage :=
  (storageInit sdk (storageReset flash)).1

/-- The step after which the page is erased and nothing is written yet. -/
def pageErased : Nat := backupSteps.length + 1

-- ---------------------------------------------------------------------------
-- Data of a block
-- ---------------------------------------------------------------------------

theorem Block.sameData_iff (a b : Block) : a.SameData b ↔ a.word 0 = b.word 0 := by
  constructor
  · intro h
    exact h 0 (by decide)
  · intro h i hi
    obtain rfl : i = 0 := Fin.ext (Nat.lt_one_iff.mp hi)
    exact h

theorem Block.SameData.refl (b : Block) : b.SameData b := fun _ _ => rfl

theorem Block.SameData.congr (h : Block.SameData a b) : a.SameData c ↔ b.SameData c := by
  rw [Block.sameData_iff] at h
  rw [Block.sameData_iff, Block.sameData_iff, h]

theorem Storage.HasData.iff_sameData (h : Storage.HasData s b) : s.HasData c ↔ b.SameData c := by
  rw [Storage.HasData, h.1.congr, h.2.congr, and_self]

-- ---------------------------------------------------------------------------
-- Recovery
-- ---------------------------------------------------------------------------

theorem storageRecover_page (sdk : Pstorage) {flash : Flash} (h : flash.page.Checked) :
    (storageRecover sdk flash).HasData flash.page := by
  have hinit := storageInit_page sdk (s := storageReset flash) h
  rw [storageRecover, hinit]
  exact ⟨.refl _, .refl _⟩

theorem storageRecover_swap (sdk : Pstorage) {flash : Flash} (hp : ¬ flash.page.Checked)
    (hs : flash.swap.Checked) : (storageRecover sdk flash).HasData flash.swap := by
  have hinit := storageInit_swap sdk (s := storageReset flash) hp hs
  have hdata : (storageUpdateChecksum
      { storageReset flash with flashedCopy := flash.swap }).flashedCopy.SameData flash.swap := by
    rw [Block.sameData_iff, storageUpdateChecksum, Block.word_setWord]
    rfl
  rw [storageRecover, hinit]
  exact ⟨hdata, hdata⟩

/-- The block that an update stores has a correct checksum, and goes to the
page up to this checksum. -/
theorem storageUpdateValue_stores (h : storageUpdateValue sdk s address size pLocal force
      isConnecting isDiscovering = some (ok, pLocal', s', calls))
    (hstore : .pstorageUpdate src n ∈ calls) : src.Checked ∧ n = 8 := by
  have hmem : ∀ {cs : List StorageCall}, cs.filterMap StorageCall.source = [] →
      .pstorageUpdate src n ∉ cs := by
    intro cs hnone hcall
    have : src ∈ cs.filterMap StorageCall.source := List.mem_filterMap.mpr ⟨_, hcall, rfl⟩
    rw [hnone] at this
    exact absurd this List.not_mem_nil
  obtain ⟨-, -, hends⟩ := storageUpdateValue_ends h
  cases hends with
  | locked => exact absurd hstore List.not_mem_nil
  | same => exact absurd hstore List.not_mem_nil
  | kept => exact absurd hstore List.not_mem_nil
  | stored _ _ _ hbefore hafter =>
    rw [storageStoreData_calls] at hstore
    rcases List.mem_append.mp hstore with hstore | hstore
    · rcases List.mem_append.mp hstore with hstore | hstore
      · exact absurd hstore (hmem hbefore)
      · cases List.mem_singleton.mp hstore
        exact ⟨storageUpdateChecksum_checked _, rfl⟩
    · exact absurd hstore (hmem hafter)

/-- What a start-up finds after a cut: the old data, or the new, or erased words. -/
theorem storageRecover_cut (sdk : Pstorage) {flash cut : Flash} {src : Block} {k : Nat}
    (hold : flash.page.Checked) (hnew : src.Checked) (hcut : CutImage flash src 2 k cut) :
    (k ≠ pageErased ∧ ((storageRecover sdk cut).HasData flash.page ∨
        (storageRecover sdk cut).HasData src)) ∨
      (k = pageErased ∧ (storageRecover sdk cut).HasData (Block.fill 0xFF)) := by
  cases hcut with
  | before hk hpage =>
    left
    refine ⟨by rw [pageErased]; omega, .inl ?_⟩
    rw [← hpage] at hold ⊢
    exact storageRecover_page sdk hold
  | after written hk hswap hpage =>
    rw [Block.checked_iff] at hold hnew
    match written with
    | 0 =>
      right
      have hword : ∀ j, cut.page.word j = 0xFFFFFFFF := hpage
      have hchecked : cut.page.Checked := by
        rw [Block.checked_iff, hword, hword]
      have hdata : cut.page.SameData (Block.fill 0xFF) := by
        rw [Block.sameData_iff, hword, Block.word_fill_ff]
      exact ⟨hk, (storageRecover_page sdk hchecked).iff_sameData.mpr hdata⟩
    | 1 =>
      left
      refine ⟨by rw [hk, pageErased]; omega, ?_⟩
      have h0 : cut.page.word 0 = src.word 0 := hpage 0
      have h1 : cut.page.word 1 = 0xFFFFFFFF := hpage 1
      by_cases hchecked : cut.page.Checked
      · right
        refine (storageRecover_page sdk hchecked).iff_sameData.mpr ?_
        rw [Block.sameData_iff, h0]
      · left
        have hswapped : cut.swap.Checked := by
          rw [Block.checked_iff, hswap, hswap, hold]
        refine (storageRecover_swap sdk hchecked hswapped).iff_sameData.mpr ?_
        rw [Block.sameData_iff, hswap]
    | written + 2 =>
      left
      refine ⟨by rw [hk, pageErased]; omega, .inr ?_⟩
      have h0 : cut.page.word 0 = src.word 0 := hpage 0
      have h1 : cut.page.word 1 = src.word 1 := hpage 1
      have hchecked : cut.page.Checked := by
        rw [Block.checked_iff, h0, h1, hnew]
      refine (storageRecover_page sdk hchecked).iff_sameData.mpr ?_
      rw [Block.sameData_iff, h0]

/-- For an update that stores the block `src` over a page with a correct
checksum, cut after any number of flash steps: the next start-up has the old
data or the new exactly when the cut is not right behind the erase, or one of
the two is what an erased page reads. -/
theorem storageUpdateValue_power_loss_iff (sdk : PstorageThroughSwap) (s : Storage)
    (hold : s.flash.page.Checked) (hcall : storageUpdateValue sdk.toPstorage s address size pLocal
      force isConnecting isDiscovering = some (ok, pLocal', s', calls))
    (hstore : .pstorageUpdate src n ∈ calls) (k : Nat) :
    ((storageRecover sdk.toPstorage (powerCut sdk.toPstorage s.flash src n k)).HasData
        s.flash.page ∨
      (storageRecover sdk.toPstorage (powerCut sdk.toPstorage s.flash src n k)).HasData src) ↔
    (k ≠ pageErased ∨ (Block.fill 0xFF).SameData s.flash.page ∨
      (Block.fill 0xFF).SameData src) := by
  obtain ⟨hnew, rfl⟩ := storageUpdateValue_stores hcall hstore
  have hcut : CutImage s.flash src 2 k (powerCut sdk.toPstorage s.flash src 8 k) := by
    rw [powerCut, sdk.update_steps src 8 (by decide) (by decide)]
    exact updateThroughSwap_cut s.flash src 2 k
  rcases storageRecover_cut sdk.toPstorage hold hnew hcut with ⟨hk, hdata⟩ | ⟨hk, hdata⟩
  · exact iff_of_true hdata (.inl hk)
  · rw [hdata.iff_sameData, hdata.iff_sameData]
    simp only [hk, ne_eq, not_true_eq_false, false_or]

-- ---------------------------------------------------------------------------
-- A cut that loses the data
-- ---------------------------------------------------------------------------

def fiveStored : Storage :=
  storageRecover throughSwap.toPstorage
    { page := ⟨[5, 0, 0, 0, 5, 0, 0, 0] ++ List.replicate 4 0xFF, rfl⟩
      swap := Block.fill 0xFF }

def sevenBlock : Block := ⟨[7, 0, 0, 0, 7, 0, 0, 0] ++ List.replicate 4 0xFF, rfl⟩

def sevenStored : Storage × List StorageCall :=
  storageStoreData throughSwap.toPstorage
    { fiveStored with
      volatileCopy := ⟨[7, 0, 0, 0, 5, 0, 0, 0] ++ List.replicate 4 0xFF, rfl⟩
      flashedCopy := ⟨[7, 0, 0, 0, 5, 0, 0, 0] ++ List.replicate 4 0xFF, rfl⟩ } true

theorem sevenStored_call :
    storageUpdateValue throughSwap.toPstorage fiveStored .factoryReset 4 [7, 0, 0, 0]
        false false false = some (true, [7, 0, 0, 0], sevenStored) ∧
      .pstorageUpdate sevenBlock 8 ∈ sevenStored.2 := by
  decide +kernel

/-- Cut right behind the erase, the update from 5 to 7 leaves neither. -/
theorem storageUpdateValue_loses_data :
    fiveStored.flash.page.Checked ∧ fiveStored.flash.page.word 0 = 5 ∧
      storageUpdateValue throughSwap.toPstorage fiveStored .factoryReset 4 [7, 0, 0, 0]
        false false false = some (true, [7, 0, 0, 0], sevenStored) ∧
      .pstorageUpdate sevenBlock 8 ∈ sevenStored.2 ∧
      (storageRecover throughSwap.toPstorage
        (powerCut throughSwap.toPstorage fiveStored.flash sevenBlock 8 5)).flashedCopy.word 0 =
          0xFFFFFFFF ∧
      ¬ ((storageRecover throughSwap.toPstorage
            (powerCut throughSwap.toPstorage fiveStored.flash sevenBlock 8 5)).HasData
              fiveStored.flash.page ∨
          (storageRecover throughSwap.toPstorage
            (powerCut throughSwap.toPstorage fiveStored.flash sevenBlock 8 5)).HasData
              sevenBlock) := by
  exact ⟨by decide +kernel, by decide +kernel, sevenStored_call.1, sevenStored_call.2,
    by decide +kernel, by decide +kernel⟩

theorem storageUpdateValue_keeps_data :
    (storageRecover throughSwap.toPstorage
        (powerCut throughSwap.toPstorage fiveStored.flash sevenBlock 8 6)).HasData
          fiveStored.flash.page ∨
      (storageRecover throughSwap.toPstorage
        (powerCut throughSwap.toPstorage fiveStored.flash sevenBlock 8 6)).HasData sevenBlock :=
  (storageUpdateValue_power_loss_iff throughSwap fiveStored (by decide +kernel)
    sevenStored_call.1 sevenStored_call.2 6).mpr (.inl (by decide))

end WaterBall
