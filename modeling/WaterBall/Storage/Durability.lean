import WaterBall.Storage.ImageRuns

/-!
# Which acknowledged updates last

`storage_update_value` compares the new value with the volatile copy only, and
`storage_init_value` puts a caller's default there without flashing it. An
update to the value that is already in use as a default is acknowledged and
not stored. Every other acknowledged update lasts.
-/

namespace WaterBall

open Support

/-- Boot with any flash, then any operations. -/
def Storage.Reachable (sdk : Pstorage) (s : Storage) : Prop :=
  ∃ flash ops calls, Runs.run (storageStep sdk)
    (storageInit sdk (storageReset flash)).1 ops = some (s, calls)

/-- The operation neither updates nor clears the range. -/
def StorageOp.Spares (start n : Nat) : StorageOp → Prop
  | .updateValue address size _ _ _ _ =>
    address.offset.toNat + size.toNat ≤ start ∨ start + n ≤ address.offset.toNat
  | .clearAll => False
  | _ => True

/-- After any run that spares the range and has a restart in it,
`storage_init_value` writes `v` into the caller's variable, whatever is there. -/
def Durable (sdk : Pstorage) (s : Storage) (address : StorageAddress) (size : UInt32)
    (v : List UInt8) : Prop :=
  ∀ before after t calls pDefault,
    (∀ op ∈ before ++ after, op.Spares address.offset.toNat size.toNat) →
    Runs.run (storageStep sdk) s (before ++ .restart :: after) = some (t, calls) →
    size.toNat ≤ pDefault.length →
    ∃ pLocal' t', storageInitValue sdk t address size pDefault = some (pLocal', t') ∧
      pLocal'.take size.toNat = v

-- ---------------------------------------------------------------------------
-- Reachable states
-- ---------------------------------------------------------------------------

/-- Nothing was ever stored, and neither page can be used. -/
structure Storage.Blank (s : Storage) : Prop where
  flashed : s.flashedCopy = Block.fill 0xFF
  page : ¬ s.flash.page.Checked
  swap : ¬ s.flash.swap.Checked

structure Storage.Settled (s : Storage) : Prop where
  autoFlash : s.autoFlash = true
  unlocked : s.isLocked = false
  image : s.Synced ∨ s.Blank

section
variable {sdk : Pstorage} {s s' t : Storage} {address : StorageAddress} {size : UInt32}
variable {pLocal v : List UInt8} {calls : List StorageCall} {start n : Nat}

theorem storageInit_settled (sdk : Pstorage) (hflash : s.autoFlash = true)
    (hlock : s.isLocked = false) : (storageInit sdk s).1.Settled := by
  by_cases hp : s.flash.page.Checked
  · rw [storageInit_page sdk hp]
    exact ⟨hflash, hlock, .inl ⟨.refl _, hp⟩⟩
  by_cases hs : s.flash.swap.Checked
  · rw [storageInit_swap sdk hp hs]
    have := storageStoreData_synced sdk { s with flashedCopy := s.flash.swap } false
    exact ⟨hflash, hlock, .inl ⟨this.agree, this.checked⟩⟩
  · rw [storageInit_blank sdk hp hs]
    exact ⟨hflash, hlock, .inr ⟨rfl, hp, hs⟩⟩

theorem Storage.Settled.reload (h : s.Settled) {ram : Storage} (hram : ram.flash = s.flash) :
    (storageInit sdk ram).1.volatileCopy.Agree s.flashedCopy := by
  rcases h.image with hs | hb
  · rw [storageInit_page sdk (hram ▸ hs.checked), hram]
    exact hs.agree
  · rw [storageInit_blank sdk (hram ▸ hb.page) (hram ▸ hb.swap), hb.flashed]
    exact .refl _

theorem storageUpdateValue_settled (hs : s.Settled) (h : storageUpdateValue sdk s address size
    pLocal force isConnecting isDiscovering = some (ok, pLocal', s', calls)) : s'.Settled := by
  obtain ⟨-, -, hends⟩ := storageUpdateValue_ends h
  cases hends with
  | locked => exact hs
  | same => exact hs
  | kept hflash => exact absurd (hs.autoFlash.symm.trans hflash) (by decide)
  | stored => exact ⟨hs.autoFlash, hs.unlocked, .inl (storageStoreData_synced sdk _ true)⟩

theorem storageStep_settled (hs : s.Settled) (h : storageStep sdk s op = some (s', calls)) :
    s'.Settled := by
  have hidle : (op = .tasks ∨ ∃ result, op = .event result) → s'.Settled := by
    intro hop
    rcases storageStep_idle hop h with ⟨_, _, rfl, -⟩ | h
    · exact ⟨hs.autoFlash, hs.unlocked, hs.image.imp (fun h => ⟨h.agree, h.checked⟩)
        fun h => ⟨h.flashed, h.page, h.swap⟩⟩
    · cases h
      exact storageInit_settled sdk rfl rfl
  cases op with
  | init =>
    cases h
    exact storageInit_settled sdk hs.autoFlash hs.unlocked
  | initValue address size pLocal =>
    obtain ⟨⟨pLocal', t⟩, hcall, hret⟩ := Option.bind_eq_some_iff.mp h
    cases hret
    obtain ⟨-, -, modified, -, hends⟩ := storageInitValue_ends hcall
    cases hends with
    | stored => exact hs
    | initial =>
      exact ⟨hs.autoFlash, hs.unlocked, hs.image.imp (fun h => ⟨h.agree, h.checked⟩)
        fun h => ⟨h.flashed, h.page, h.swap⟩⟩
  | updateValue address size pLocal force isConnecting isDiscovering =>
    obtain ⟨⟨ok, pLocal', t, out⟩, hcall, hret⟩ := Option.bind_eq_some_iff.mp h
    cases hret
    exact storageUpdateValue_settled hs hcall
  | clearAll =>
    cases h
    exact ⟨hs.autoFlash, hs.unlocked, .inl (storageStoreData_synced sdk _ true)⟩
  | tasks => exact hidle (.inl rfl)
  | event result => exact hidle (.inr ⟨result, rfl⟩)
  | restart =>
    cases h
    exact storageInit_settled sdk rfl rfl

theorem Storage.Reachable.settled (h : s.Reachable sdk) : s.Settled := by
  obtain ⟨flash, ops, calls, hrun⟩ := h
  exact Runs.keeps (fun _ _ _ _ hs hstep => storageStep_settled hs hstep)
    (storageInit_settled sdk rfl rfl) hrun

-- ---------------------------------------------------------------------------
-- A value that lasts
-- ---------------------------------------------------------------------------

/-- Both copies and the flash have the bytes `v` at `start`. -/
structure Storage.Holds (s : Storage) (start : Nat) (v : List UInt8) : Prop where
  synced : s.Synced
  volatile : Region.slice s.volatileCopy.bytes start v.length = v
  flashed : Region.slice s.flashedCopy.bytes start v.length = v

theorem StorageAddress.offset_cases (address : StorageAddress) :
    address.offset.toNat = 0 ∨ 4 ≤ address.offset.toNat := by
  cases address <;> decide

/-- The word around a value that is not all erased is not erased either. -/
theorem word_ne_default {b : Block} (hrange : start + v.length ≤ 4)
    (hv : ∃ byte ∈ v, byte ≠ 0xFF) (h : Region.slice b.bytes start v.length = v) :
    LittleEndian.word (Region.slice b.bytes 0 4) ≠ defaultMemoryValue := by
  intro hword
  have hlen : (Region.slice b.bytes 0 4).length = 4 := by
    rw [Region.length_slice, b.length_bytes]
    rfl
  have hbytes : Region.slice b.bytes 0 4 = [0xFF, 0xFF, 0xFF, 0xFF] := by
    rw [← LittleEndian.wordBytes_word hlen, hword]
    decide
  obtain ⟨byte, hmem, hne⟩ := hv
  have hsub : v = ((Region.slice b.bytes 0 4).drop start).take v.length := by
    rw [Region.slice_zero_start, List.drop_take, List.take_take, Nat.min_eq_left (by omega)]
    exact h.symm
  rw [hsub, hbytes] at hmem
  have := List.mem_of_mem_drop (List.mem_of_mem_take hmem)
  simp only [List.mem_cons, List.not_mem_nil, or_false, or_self] at this
  exact hne this

/-- So `storage_init_value` on a range that touches this word finds a modification. -/
theorem Storage.Holds.modified (hs : s.Holds start v) (hrange : start + v.length ≤ 4)
    (hv : ∃ byte ∈ v, byte ≠ 0xFF) (hoffset : address.offset.toNat = 0) (hsize : 0 < size.toNat)
    (hmod : hasModifications s.volatileCopy ((size.toNat + 3) / 4) address.offset.toNat =
      some found) : found = true := by
  cases found with
  | true => rfl
  | false =>
    obtain ⟨count, hcount⟩ : ∃ count, (size.toNat + 3) / 4 = count + 1 :=
      ⟨(size.toNat - 1) / 4, by omega⟩
    rw [hcount, hoffset] at hmod
    exact absurd (hasModifications_false hmod) (word_ne_default hrange hv hs.volatile)

theorem storageInit_holds (sdk : Pstorage) (hs : s.Holds start v) (hrange : start + v.length ≤ 4)
    {ram : Storage} (hram : ram.flash = s.flash) : (storageInit sdk ram).1.Holds start v := by
  have hpage : Region.slice s.flash.page.bytes start v.length = v := by
    rw [hs.synced.agree.slice (by omega)]
    exact hs.flashed
  rw [storageInit_page sdk (hram ▸ hs.synced.checked), hram]
  exact ⟨⟨hram ▸ .refl _, hram ▸ hs.synced.checked⟩, hpage, hpage⟩

/-- What one operation that spares the range keeps. -/
theorem storageStep_holds (hrange : start + v.length ≤ 4) (hv : ∃ byte ∈ v, byte ≠ 0xFF)
    (hs : s.Holds start v) (hspares : op.Spares start v.length)
    (h : storageStep sdk s op = some (s', calls)) : s'.Holds start v := by
  have hidle : (op = .tasks ∨ ∃ result, op = .event result) → s'.Holds start v := by
    intro hop
    rcases storageStep_idle hop h with ⟨_, _, rfl, -⟩ | h
    · exact ⟨⟨hs.synced.agree, hs.synced.checked⟩, hs.volatile, hs.flashed⟩
    · cases h
      exact storageInit_holds sdk hs hrange rfl
  cases op with
  | init =>
    cases h
    exact storageInit_holds sdk hs hrange rfl
  | restart =>
    cases h
    exact storageInit_holds sdk hs hrange rfl
  | clearAll => exact hspares.elim
  | tasks => exact hidle (.inl rfl)
  | event result => exact hidle (.inr ⟨result, rfl⟩)
  | initValue address size pLocal =>
    obtain ⟨⟨pLocal', t⟩, hcall, hret⟩ := Option.bind_eq_some_iff.mp h
    cases hret
    obtain ⟨-, hlen, modified, hmod, hends⟩ := storageInitValue_ends hcall
    cases hends with
    | stored => exact hs
    | initial hvolatile =>
      -- The bytes written lie behind the word of the value, or there are none.
      have hlength : (pLocal.take size.toNat).length = size.toNat := List.length_take_of_le hlen
      refine ⟨⟨hs.synced.agree, hs.synced.checked⟩, ?_, hs.flashed⟩
      rw [Block.write_disjoint hvolatile, hs.volatile]
      rw [hlength]
      rcases address.offset_cases with hoffset | hoffset
      · obtain hsize | hsize := Nat.eq_zero_or_pos size.toNat
        · right
          omega
        · exact absurd (hs.modified hrange hv hoffset hsize hmod) (by decide)
      · left
        omega
  | updateValue address size pLocal force isConnecting isDiscovering =>
    obtain ⟨⟨ok, pLocal', t, out⟩, hcall, hret⟩ := Option.bind_eq_some_iff.mp h
    cases hret
    obtain ⟨-, hlen, hends⟩ := storageUpdateValue_ends hcall
    have hkeeps : ∀ {b b' : Block}, size.toNat ≤ pLocal.length →
        b.write address.offset.toNat (pLocal.take size.toNat) = some b' →
        Region.slice b'.bytes start v.length = Region.slice b.bytes start v.length := by
      intro b b' hlen hwrite
      apply Block.write_disjoint hwrite
      rw [List.length_take_of_le hlen]
      exact hspares.symm
    cases hends with
    | locked => exact hs
    | same => exact hs
    | kept _ _ _ hvolatile =>
      exact ⟨⟨hs.synced.agree, hs.synced.checked⟩,
        (hkeeps (hlen rfl) hvolatile).trans hs.volatile, hs.flashed⟩
    | stored _ hvolatile hflashed =>
      refine ⟨storageStoreData_synced sdk _ true,
        (hkeeps (hlen rfl) hvolatile).trans hs.volatile, ?_⟩
      rw [storageStoreData_flashed, storageUpdateChecksum_slice _ hrange,
        hkeeps (hlen rfl) hflashed]
      exact hs.flashed

theorem storageRun_holds (hrange : start + v.length ≤ 4) (hv : ∃ byte ∈ v, byte ≠ 0xFF)
    (hs : s.Holds start v) (hspares : ∀ op ∈ ops, op.Spares start v.length)
    (hrun : Runs.run (storageStep sdk) s ops = some (t, calls)) : t.Holds start v :=
  Runs.Guarded.keeps (G := fun _ op => op.Spares start v.length) (P := fun s => s.Holds start v)
    (fun _ _ _ _ hs hop hstep => storageStep_holds hrange hv hs hop hstep)
    (Runs.guarded_of_forall fun op hop _ => hspares op hop) hs hrun

theorem rangeFits_of_data (hrange : address.offset.toNat + size.toNat ≤ 4)
    (hlen : size.toNat ≤ pLocal.length) (hsize : 0 < size.toNat) :
    address.offset.toNat = 0 ∧ RangeFits address size pLocal := by
  rcases address.offset_cases with hoffset | hoffset
  · refine ⟨hoffset, ?_, hlen⟩
    show address.offset.toNat + (size.toNat + 3) / 4 * 4 ≤ 12
    omega
  · omega

theorem Storage.Holds.durable (hs : s.Holds address.offset.toNat v)
    (hsize : v.length = size.toNat) (hrange : address.offset.toNat + size.toNat ≤ 4)
    (hv : ∃ byte ∈ v, byte ≠ 0xFF) : Durable sdk s address size v := by
  intro before after t calls pDefault hspares hrun hlen
  have hpos : 0 < size.toNat := by
    obtain ⟨byte, hmem, -⟩ := hv
    exact hsize ▸ List.length_pos_of_mem hmem
  obtain ⟨hoffset, hfits⟩ := rangeFits_of_data hrange hlen hpos
  have ht : t.Holds address.offset.toNat v := by
    refine storageRun_holds (hsize.symm ▸ hrange) hv hs (fun op hop => ?_) hrun
    rw [hsize]
    rcases List.mem_append.mp hop with hb | ha
    · exact hspares op (List.mem_append_left _ hb)
    · cases ha with
      | head => trivial
      | tail _ ha => exact hspares op (List.mem_append_right _ ha)
  obtain ⟨pLocal', t', hcall⟩ := storageInitValue_defined sdk t hfits
  refine ⟨pLocal', t', hcall, ?_⟩
  obtain ⟨-, -, found, hmod, hends⟩ := storageInitValue_ends hcall
  obtain rfl := ht.modified (hsize.symm ▸ hrange) hv hoffset hpos hmod
  cases hends with
  | stored =>
    have hvolatile := ht.volatile
    rw [hsize] at hvolatile
    rw [hvolatile, Region.splice_zero, List.take_left' hsize]

-- ---------------------------------------------------------------------------
-- The exact condition
-- ---------------------------------------------------------------------------

/-- What a restart gives back is what the flashed copy had. -/
theorem Storage.Settled.durable_flashed (hs : s.Settled) (hdurable : Durable sdk s address size v)
    (hsize : v.length = size.toNat) (hrange : address.offset.toNat + size.toNat ≤ 4)
    (hv : ∃ byte ∈ v, byte ≠ 0xFF) :
    Region.slice s.flashedCopy.bytes address.offset.toNat v.length = v := by
  let restarted := (storageInit sdk (storageReset s.flash)).1
  have hreload : restarted.volatileCopy.Agree s.flashedCopy := hs.reload rfl
  obtain ⟨pLocal', t', hinit, htake⟩ := hdurable [] [] restarted _
    (List.replicate size.toNat 0xFF) (by simp) rfl (Nat.le_of_eq List.length_replicate.symm)
  obtain ⟨-, -, found, -, hends⟩ := storageInitValue_ends hinit
  cases hends with
  | stored =>
    have hlen : (Region.slice restarted.volatileCopy.bytes address.offset.toNat size.toNat).length =
        size.toNat := by
      rw [Region.length_slice, restarted.volatileCopy.length_bytes]
      exact Nat.min_eq_left (Nat.le_sub_of_add_le' (Nat.le_trans hrange (by decide)))
    rw [Region.splice_zero, List.take_left' hlen, hreload.slice (by omega)] at htake
    rw [hsize, htake]
  | initial =>
    obtain ⟨byte, hmem, hne⟩ := hv
    rw [← htake] at hmem
    exact absurd (List.eq_of_mem_replicate (List.mem_of_mem_take hmem)) hne

/-- An acknowledged update in the data words lasts unless the volatile copy had
the value before and the flashed copy had not. -/
theorem storageUpdateValue_durable_iff (sdk : Pstorage) (s : Storage) (hs : s.Reachable sdk)
    (hcall : storageUpdateValue sdk s address size pLocal force isConnecting isDiscovering =
      some (true, pLocal', s', calls))
    (hrange : address.offset.toNat + size.toNat ≤ storageAddressChecksum * 4)
    (hv : ∃ byte ∈ pLocal.take size.toNat, byte ≠ 0xFF) :
    Durable sdk s' address size (pLocal.take size.toNat) ↔
      Region.slice s.volatileCopy.bytes address.offset.toNat size.toNat ≠ pLocal.take size.toNat ∨
      Region.slice s.flashedCopy.bytes address.offset.toNat size.toNat =
        pLocal.take size.toNat := by
  have hs := hs.settled
  have hrange : address.offset.toNat + size.toNat ≤ 4 := hrange
  obtain ⟨-, hlen, hends⟩ := storageUpdateValue_ends hcall
  have hsize : (pLocal.take size.toNat).length = size.toNat := List.length_take_of_le (hlen rfl)
  have hrange' : address.offset.toNat + (pLocal.take size.toNat).length ≤ 4 := hsize.symm ▸ hrange
  have hpos : 0 < size.toNat := by
    obtain ⟨byte, hmem, -⟩ := hv
    exact hsize ▸ List.length_pos_of_mem hmem
  generalize pLocal.take size.toNat = v at hends hsize hrange' hv ⊢
  rw [← hsize]
  cases hends with
  | kept hflash => exact absurd (hs.autoFlash.symm.trans hflash) (by decide)
  | stored hnew hvolatile hflashed =>
    refine iff_of_true ?_ (.inl hnew)
    refine Storage.Holds.durable ⟨storageStoreData_synced sdk _ true, ?_, ?_⟩ hsize hrange hv
    · exact Block.write_same hvolatile
    · rw [storageStoreData_flashed, storageUpdateChecksum_slice _ hrange']
      exact Block.write_same hflashed
  | same hsame =>
    constructor
    · intro hdurable
      exact .inr (hs.durable_flashed hdurable hsize hrange hv)
    · rintro (hne | hflashed)
      · exact absurd hsame hne
      rcases hs.image with hsynced | hblank
      · exact Storage.Holds.durable ⟨hsynced, hsame, hflashed⟩ hsize hrange hv
      · exact absurd (by rw [hblank.flashed]; decide) (word_ne_default hrange' hv hflashed)

end

-- ---------------------------------------------------------------------------
-- An update that is lost
-- ---------------------------------------------------------------------------

def defaultInUse : Storage :=
  { (storageInit throughSwap.toPstorage (storageReset erasedFlash)).1 with
    volatileCopy := ⟨[5, 0, 0, 0] ++ List.replicate 8 0xFF, rfl⟩ }

theorem defaultInUse_reachable : defaultInUse.Reachable throughSwap.toPstorage :=
  ⟨erasedFlash, [.initValue .factoryReset 4 [5, 0, 0, 0]], [], by decide +kernel⟩

/-- Updating to the default that is in use is acknowledged. After a restart
another default wins. -/
theorem storageUpdateValue_lost :
    defaultInUse.Reachable throughSwap.toPstorage ∧
      storageUpdateValue throughSwap.toPstorage defaultInUse .factoryReset 4 [5, 0, 0, 0]
        true false false = some (true, [5, 0, 0, 0], defaultInUse, []) ∧
      (do
        let (s, _) ← storageStep throughSwap.toPstorage defaultInUse .restart
        let (pLocal, _) ← storageInitValue throughSwap.toPstorage s .factoryReset 4 [7, 0, 0, 0]
        return pLocal) = some [7, 0, 0, 0] ∧
      ¬ Durable throughSwap.toPstorage defaultInUse .factoryReset 4 [5, 0, 0, 0] := by
  have hcall : storageUpdateValue throughSwap.toPstorage defaultInUse .factoryReset 4 [5, 0, 0, 0]
      true false false = some (true, [5, 0, 0, 0], defaultInUse, []) := by
    decide +kernel
  have hseven : (do
      let (s, _) ← storageStep throughSwap.toPstorage defaultInUse .restart
      let (pLocal, _) ← storageInitValue throughSwap.toPstorage s .factoryReset 4 [7, 0, 0, 0]
      return pLocal) = some [7, 0, 0, 0] := by
    decide +kernel
  refine ⟨defaultInUse_reachable, hcall, hseven, fun hdurable => ?_⟩
  obtain ⟨pLocal', t', hinit, htake⟩ := hdurable [] []
    (storageInit throughSwap.toPstorage (storageReset defaultInUse.flash)).1 _ [7, 0, 0, 0]
    (by simp) rfl (by decide)
  simp only [storageStep, Option.bind_eq_bind, Option.bind_some, hinit, Option.pure_def,
    Option.some.injEq] at hseven
  rw [hseven] at htake
  exact absurd htake (by decide)

def otherStored : Storage × List StorageCall :=
  storageStoreData throughSwap.toPstorage
    { defaultInUse with
      volatileCopy := ⟨[6, 0, 0, 0] ++ List.replicate 8 0xFF, rfl⟩
      flashedCopy := ⟨[6, 0, 0, 0] ++ List.replicate 8 0xFF, rfl⟩ } true

theorem storageUpdateValue_durable_other :
    Durable throughSwap.toPstorage otherStored.1 .factoryReset 4 [6, 0, 0, 0] := by
  have hcall : storageUpdateValue throughSwap.toPstorage defaultInUse .factoryReset 4 [6, 0, 0, 0]
      false false false = some (true, [6, 0, 0, 0], otherStored.1, otherStored.2) := by
    decide +kernel
  exact (storageUpdateValue_durable_iff throughSwap.toPstorage defaultInUse
    defaultInUse_reachable hcall (by decide) (by decide)).mpr (.inl (by decide +kernel))

end WaterBall
