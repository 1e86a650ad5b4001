import WaterBall.Storage.Durability
import WaterBall.Storage.PowerLoss

/-!
# The factory reset

A cleared block has a checksum like any other, and it is the one that erased
flash reads. So a page that is erased, or written in part with the cleared
block, passes the checksum test: a reset that is cut short has the old data or
none, and after a completed one the swap page, which still has the old data, is
never looked at.
-/

namespace WaterBall

open Support

/-- Every operation except an update. -/
def StorageOp.NoUpdate : StorageOp → Prop
  | .updateValue .. => False
  | _ => True

instance : DecidablePred StorageOp.NoUpdate
  | .updateValue .. => isFalse not_false
  | .init => isTrue trivial
  | .initValue .. => isTrue trivial
  | .clearAll => isTrue trivial
  | .tasks => isTrue trivial
  | .event _ => isTrue trivial
  | .restart => isTrue trivial

/-- A `storage_init_value` that is not on the data words, or none. -/
def StorageOp.OffData : StorageOp → Prop
  | .initValue address size _ => size.toNat = 0 ∨ storageAddressChecksum * 4 ≤ address.offset.toNat
  | .tasks => True
  | .event _ => True
  | _ => False

instance : DecidablePred StorageOp.OffData
  | .initValue .. => inferInstanceAs (Decidable (_ ∨ _))
  | .updateValue .. => isFalse not_false
  | .init => isFalse not_false
  | .clearAll => isFalse not_false
  | .tasks => isTrue trivial
  | .event _ => isTrue trivial
  | .restart => isFalse not_false

/-- The data of a block is what erased flash reads. -/
def Block.Erased (b : Block) : Prop := b.SameData (Block.fill 0xFF)

theorem Block.erased_iff (b : Block) : b.Erased ↔ b.word 0 = 0xFFFFFFFF := by
  rw [Block.Erased, Block.sameData_iff, Block.word_fill_ff]

-- ---------------------------------------------------------------------------
-- A reset that is cut short
-- ---------------------------------------------------------------------------

section
variable {sdk : Pstorage} {s s' t : Storage} {calls : List StorageCall}

theorem storageClearAll_stores (hstore : .pstorageUpdate src n ∈ (storageClearAll sdk s).2) :
    src.Checked ∧ src.Erased ∧ n = 8 := by
  rw [storageClearAll, storageStoreData_calls] at hstore
  cases List.mem_singleton.mp hstore
  refine ⟨storageUpdateChecksum_checked _, ?_, rfl⟩
  rw [Block.erased_iff, storageUpdateChecksum, Block.word_setWord]
  exact Block.word_fill_ff 0

theorem storageClearAll_cut (sdk : PstorageThroughSwap) (s : Storage)
    (hold : s.flash.page.Checked)
    (hstore : .pstorageUpdate src n ∈ (storageClearAll sdk.toPstorage s).2) (k : Nat) :
    let recovered := storageRecover sdk.toPstorage (powerCut sdk.toPstorage s.flash src n k)
    recovered.HasData s.flash.page ∨ recovered.HasData (Block.fill 0xFF) := by
  obtain ⟨hnew, herased, rfl⟩ := storageClearAll_stores hstore
  have hcut : CutImage s.flash src 2 k (powerCut sdk.toPstorage s.flash src 8 k) := by
    rw [powerCut, sdk.update_steps src 8 (by decide) (by decide)]
    exact updateThroughSwap_cut s.flash src 2 k
  rcases storageRecover_cut sdk.toPstorage hold hnew hcut with ⟨-, hdata | hdata⟩ | ⟨-, hdata⟩
  · exact .inl hdata
  · exact .inr (hdata.iff_sameData.mpr herased)
  · exact .inr hdata

-- ---------------------------------------------------------------------------
-- After a completed reset
-- ---------------------------------------------------------------------------

/-- The page is a cleared block, and so is what a start-up makes of it. -/
structure Storage.Cleared (s : Storage) : Prop where
  checked : s.flash.page.Checked
  erased : s.flash.page.Erased

theorem storageClearAll_cleared (sdk : Pstorage) (s : Storage) :
    (storageClearAll sdk s).1.Cleared ∧ (storageClearAll sdk s).1.volatileCopy.Erased := by
  have hsynced := storageStoreData_synced sdk
    { s with volatileCopy := Block.fill 0xFF, flashedCopy := Block.fill 0xFF } true
  refine ⟨⟨hsynced.checked, ?_⟩, .refl _⟩
  have hflashed : (storageClearAll sdk s).1.flashedCopy.word 0 = 0xFFFFFFFF := by
    rw [storageClearAll, storageStoreData_flashed, storageUpdateChecksum, Block.word_setWord]
    exact Block.word_fill_ff 0
  rw [Block.erased_iff, ← hflashed]
  exact hsynced.agree.word (by decide)

theorem storageInit_cleared (sdk : Pstorage) (hs : s.Cleared) :
    (storageInit sdk s).1.Cleared ∧ (storageInit sdk s).1.volatileCopy.Erased := by
  rw [storageInit_page sdk hs.checked]
  exact ⟨⟨hs.checked, hs.erased⟩, hs.erased⟩

theorem storageInitValue_flash
    (h : storageInitValue sdk s address size pLocal = some (pLocal', s')) : s'.flash = s.flash := by
  obtain ⟨-, -, modified, -, hends⟩ := storageInitValue_ends h
  cases hends <;> rfl

/-- What one operation keeps on flash. -/
theorem storageStep_cleared (hs : s.Cleared) (hop : op.NoUpdate)
    (h : storageStep sdk s op = some (s', calls)) : s'.Cleared := by
  have hidle : (op = .tasks ∨ ∃ result, op = .event result) → s'.Cleared := by
    intro hop
    rcases storageStep_idle hop h with ⟨_, _, rfl, -⟩ | h
    · exact ⟨hs.checked, hs.erased⟩
    · cases h
      exact (storageInit_cleared sdk (s := storageReset s.flash) ⟨hs.checked, hs.erased⟩).1
  cases op with
  | init =>
    cases h
    exact (storageInit_cleared sdk hs).1
  | restart =>
    cases h
    exact (storageInit_cleared sdk (s := storageReset s.flash) ⟨hs.checked, hs.erased⟩).1
  | clearAll =>
    cases h
    exact (storageClearAll_cleared sdk s).1
  | tasks => exact hidle (.inl rfl)
  | event result => exact hidle (.inr ⟨result, rfl⟩)
  | updateValue => exact hop.elim
  | initValue address size pLocal =>
    obtain ⟨⟨pLocal', t⟩, hcall, hret⟩ := Option.bind_eq_some_iff.mp h
    cases hret
    have hflash := storageInitValue_flash hcall
    exact ⟨hflash ▸ hs.checked, hflash ▸ hs.erased⟩

theorem StorageOp.OffData.noUpdate {op : StorageOp} (hop : op.OffData) : op.NoUpdate := by
  cases op with
  | updateValue => exact hop.elim
  | _ => trivial

theorem storageStep_erased (hcleared : s.Cleared) (hs : s.volatileCopy.Erased) (hop : op.OffData)
    (h : storageStep sdk s op = some (s', calls)) : s'.volatileCopy.Erased := by
  have hidle : (op = .tasks ∨ ∃ result, op = .event result) → s'.volatileCopy.Erased := by
    intro hop
    rcases storageStep_idle hop h with ⟨_, _, rfl, -⟩ | h
    · exact hs
    · cases h
      exact (storageInit_cleared sdk (s := storageReset s.flash) ⟨hcleared.checked,
        hcleared.erased⟩).2
  cases op with
  | tasks => exact hidle (.inl rfl)
  | event result => exact hidle (.inr ⟨result, rfl⟩)
  | initValue address size pLocal =>
    obtain ⟨⟨pLocal', t⟩, hcall, hret⟩ := Option.bind_eq_some_iff.mp h
    cases hret
    obtain ⟨-, hlen, modified, -, hends⟩ := storageInitValue_ends hcall
    cases hends with
    | stored => exact hs
    | initial hvolatile =>
      rw [Block.erased_iff, Block.word_eq] at hs ⊢
      rw [Block.write_disjoint hvolatile, hs]
      rw [List.length_take_of_le hlen]
      rcases hop with hzero | hbehind
      · rcases address.offset_cases with hoffset | hoffset
        · exact .inr (by simp [hzero, hoffset])
        · exact .inl hoffset
      · exact .inl hbehind
  | _ => exact hop.elim

/-- Erased data gives the caller's default back. -/
theorem storageInitValue_default (sdk : Pstorage) (hs : s.volatileCopy.Erased)
    (hdata : address.offset.toNat + size.toNat ≤ storageAddressChecksum * 4)
    (hlen : size.toNat ≤ pLocal.length) :
    ∃ s', storageInitValue sdk s address size pLocal = some (pLocal, s') := by
  have hdata : address.offset.toNat + size.toNat ≤ 4 := hdata
  have hfits : RangeFits address size pLocal := by
    refine ⟨?_, hlen⟩
    show address.offset.toNat + (size.toNat + 3) / 4 * 4 ≤ 12
    omega
  obtain ⟨pLocal', s', hcall⟩ := storageInitValue_defined sdk s hfits
  obtain ⟨-, -, modified, hmod, hends⟩ := storageInitValue_ends hcall
  cases hends with
  | initial => exact ⟨_, hcall⟩
  | stored =>
    -- A modification needs a word in the range, the erased one.
    obtain hzero | hpos := Nat.eq_zero_or_pos size.toNat
    · rw [hzero] at hmod
      cases hmod
    · have hoffset := (rangeFits_of_data hdata hlen hpos).1
      have hcount : (size.toNat + 3) / 4 = 1 := by omega
      rw [Block.erased_iff, Block.word_eq] at hs
      rw [hcount, hoffset, hasModifications, Region.read_of_fits (by
        rw [s.volatileCopy.length_bytes]; decide)] at hmod
      have hword : LittleEndian.word (Region.slice s.volatileCopy.bytes 0 4) = 0xFFFFFFFF := hs
      simp only [Option.bind_eq_bind, Option.bind_some, hword] at hmod
      cases hmod

/-- From the last start-up on, nothing was taken for the data words. -/
theorem storageRun_erased {before after : List StorageOp} (hbefore : ∀ op ∈ before, op.NoUpdate)
    (hfresh : before = [] ∨ before.getLast? = some .restart) (hafter : ∀ op ∈ after, op.OffData)
    (hrun : Runs.run (storageStep sdk) (storageClearAll sdk s).1 (before ++ after) =
      some (t, calls)) : t.volatileCopy.Erased := by
  obtain ⟨hcleared, herased⟩ := storageClearAll_cleared sdk s
  obtain ⟨u, first, rest, hfirst, hrest, -⟩ := Runs.run_append_eq_some.mp hrun
  have hu : u.Cleared ∧ u.volatileCopy.Erased := by
    rcases hfresh with rfl | hlast
    · cases hfirst
      exact ⟨hcleared, herased⟩
    · obtain ⟨ops, rfl⟩ := List.getLast?_eq_some_iff.mp hlast
      obtain ⟨v, first, rest, hops, hrestart, -⟩ := Runs.run_append_eq_some.mp hfirst
      have hv : v.Cleared := Runs.Guarded.keeps (G := fun _ op => op.NoUpdate)
        (P := Storage.Cleared) (fun _ _ _ _ hs hop hstep => storageStep_cleared hs hop hstep)
        (Runs.guarded_of_forall fun op hop _ => hbefore op (List.mem_append_left _ hop))
        hcleared hops
      cases hrestart
      exact storageInit_cleared sdk (s := storageReset v.flash) ⟨hv.checked, hv.erased⟩
  have ht : t.Cleared ∧ t.volatileCopy.Erased :=
    Runs.Guarded.keeps (G := fun _ op => op.OffData)
      (P := fun s => s.Cleared ∧ s.volatileCopy.Erased)
      (fun _ _ _ _ hs hop hstep => ⟨storageStep_cleared hs.1 hop.noUpdate hstep,
        storageStep_erased hs.1 hs.2 hop hstep⟩)
      (Runs.guarded_of_forall fun op hop _ => hafter op hop) hu hrest
  exact ht.2

end

/-- A reset that is cut anywhere has the old data or none at the next start-up.
After a completed one, in any run without updates, the first
`storage_init_value` on a data word after the reset and after every start-up
leaves the caller's default where it is. -/
theorem storageClearAll_atomic_and_final (sdk : PstorageThroughSwap) (s : Storage) :
    (s.flash.page.Checked → ∀ src n,
      .pstorageUpdate src n ∈ (storageClearAll sdk.toPstorage s).2 → ∀ k,
        let recovered := storageRecover sdk.toPstorage (powerCut sdk.toPstorage s.flash src n k)
        recovered.HasData s.flash.page ∨ recovered.HasData (Block.fill 0xFF)) ∧
    ∀ (before after : List StorageOp) (t : Storage) (calls : List StorageCall)
      (address : StorageAddress) (size : UInt32) (pDefault : List UInt8),
      (∀ op ∈ before, op.NoUpdate) → (before = [] ∨ before.getLast? = some .restart) →
      (∀ op ∈ after, op.OffData) →
      Runs.run (storageStep sdk.toPstorage) (storageClearAll sdk.toPstorage s).1
        (before ++ after) = some (t, calls) →
      address.offset.toNat + size.toNat ≤ storageAddressChecksum * 4 →
      size.toNat ≤ pDefault.length →
      ∃ t', storageInitValue sdk.toPstorage t address size pDefault = some (pDefault, t') := by
  refine ⟨fun hold src n hstore k => storageClearAll_cut sdk s hold hstore k, ?_⟩
  intro before after t calls address size pDefault hbefore hfresh hafter hrun hdata hlen
  exact storageInitValue_default sdk.toPstorage
    (storageRun_erased hbefore hfresh hafter hrun) hdata hlen

def clearedBlock : Block := ⟨List.replicate 12 0xFF, rfl⟩

/-- The 5 is cleared; one word behind the erase the data is gone, and after a
restart the default 7 is in use although the swap page has the 5. -/
theorem storageClearAll_clears_five :
    ((storageRecover throughSwap.toPstorage
          (powerCut throughSwap.toPstorage fiveStored.flash clearedBlock 8 6)).HasData
            fiveStored.flash.page ∨
        (storageRecover throughSwap.toPstorage
          (powerCut throughSwap.toPstorage fiveStored.flash clearedBlock 8 6)).HasData
            (Block.fill 0xFF)) ∧
      (storageClearAll throughSwap.toPstorage fiveStored).1.flash.swap.word 0 = 5 ∧
      ∃ t calls t', Runs.run (storageStep throughSwap.toPstorage)
          (storageClearAll throughSwap.toPstorage fiveStored).1
          [.initValue .factoryReset 4 [9, 0, 0, 0], .restart] = some (t, calls) ∧
        storageInitValue throughSwap.toPstorage t .factoryReset 4 [7, 0, 0, 0] =
          some ([7, 0, 0, 0], t') := by
  obtain ⟨hatomic, hfinal⟩ := storageClearAll_atomic_and_final throughSwap fiveStored
  have hrun : (Runs.run (storageStep throughSwap.toPstorage)
      (storageClearAll throughSwap.toPstorage fiveStored).1
      [.initValue .factoryReset 4 [9, 0, 0, 0], .restart]).map
        (fun final => final.1.volatileCopy.word 0) = some 0xFFFFFFFF := by
    decide +kernel
  obtain ⟨⟨t, calls⟩, hrun, -⟩ := Option.map_eq_some_iff.mp hrun
  obtain ⟨t', hdefault⟩ := hfinal [.initValue .factoryReset 4 [9, 0, 0, 0], .restart] [] t calls
    .factoryReset 4 [7, 0, 0, 0] (by decide) (.inr rfl) (by decide) hrun (by decide) (by decide)
  exact ⟨hatomic (by decide +kernel) clearedBlock 8 (by decide +kernel) 6, by decide +kernel,
    t, calls, t', hrun, hdefault⟩

end WaterBall
