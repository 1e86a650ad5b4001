import WaterBall.Support.Runs
import WaterBall.Storage.UpdateSteps

/-!
# The flash image over whole runs

From the first store on, the page and the flashed copy have one image with a
correct checksum, and its data is what was flashed last. So every start-up
finds the page good, and never looks at the swap page.
-/

namespace WaterBall

open Support

inductive StorageOp
  | init
  | initValue (address : StorageAddress) (size : UInt32) (pLocal : List UInt8)
  | updateValue (address : StorageAddress) (size : UInt32) (pLocal : List UInt8)
      (force isConnecting isDiscovering : Bool)
  | clearAll
  | tasks
  /-- The SDK reports how an operation on the flash has ended. -/
  | event (result : UInt32)
  | restart
  deriving DecidableEq

/-- A clean restart is a reset with the start-up's `storage_init`. The reset
that the module makes itself, after an error, is one too. -/
def storageStep (sdk : Pstorage) (s : Storage) : StorageOp → Option (Storage × List StorageCall)
  | .init => some (storageInit sdk s)
  | .initValue address size pLocal => do
    let (_, s) ← storageInitValue sdk s address size pLocal
    return (s, [])
  | .updateValue address size pLocal force isConnecting isDiscovering => do
    let (_, _, s, calls) ←
      storageUpdateValue sdk s address size pLocal force isConnecting isDiscovering
    return (s, calls)
  | .clearAll => some (storageClearAll sdk s)
  | .tasks =>
    match storageTasks s with
    | some s => some (s, [])
    | none => some (storageInit sdk (storageReset s.flash))
  | .event result => some (storageEventHandler s result, [])
  | .restart => some (storageInit sdk (storageReset s.flash))

/-- The range, in whole words, lies in the block, and the caller's memory holds it. -/
def RangeFits (address : StorageAddress) (size : UInt32) (pLocal : List UInt8) : Prop :=
  address.offset.toNat + (size.toNat + 3) / 4 * 4 ≤ blockSize ∧ size.toNat ≤ pLocal.length

instance : Decidable (RangeFits address size pLocal) := inferInstanceAs (Decidable (_ ∧ _))

def StorageOp.InBounds : StorageOp → Prop
  | .initValue address size pLocal => RangeFits address size pLocal
  | .updateValue address size pLocal _ _ _ => RangeFits address size pLocal
  | _ => True

instance : DecidablePred StorageOp.InBounds
  | .initValue .. => inferInstanceAs (Decidable (RangeFits ..))
  | .updateValue .. => inferInstanceAs (Decidable (RangeFits ..))
  | .init => isTrue trivial
  | .clearAll => isTrue trivial
  | .tasks => isTrue trivial
  | .event _ => isTrue trivial
  | .restart => isTrue trivial

/-- The block of the last store, if there was one. -/
def lastFlashed (calls : List StorageCall) : Option Block :=
  (calls.filterMap StorageCall.source).getLast?

-- ---------------------------------------------------------------------------
-- Operations in bounds are defined
-- ---------------------------------------------------------------------------

section
variable {sdk : Pstorage} {s s' t : Storage} {address : StorageAddress} {size : UInt32}
variable {pLocal : List UInt8} {calls past : List StorageCall}

theorem RangeFits.words_le (h : RangeFits address size pLocal) :
    address.offset.toNat + 4 * ((size.toNat + 3) / 4) ≤ 12 :=
  Nat.mul_comm 4 ((size.toNat + 3) / 4) ▸ h.1

theorem RangeFits.size_le (h : RangeFits address size pLocal) :
    address.offset.toNat + size.toNat ≤ 12 := by
  have := h.words_le
  omega

/-- The module's own check accepts the range. -/
theorem RangeFits.accepted (sdk : Pstorage) (h : RangeFits address size pLocal) :
    appErrorCheckBool (12 ≥ address.offset + maxSize sdk size) = some () := by
  have hmax := maxSize_toNat sdk (Nat.le_trans (Nat.le_add_left ..) h.size_le)
  have hle : address.offset + maxSize sdk size ≤ 12 := by
    rw [UInt32.le_iff_toNat_le, UInt32.toNat_add, hmax]
    exact Nat.le_trans (Nat.mod_le _ _) h.1
  rw [appErrorCheckBool, if_pos (decide_eq_true hle)]

theorem RangeFits.read (h : RangeFits address size pLocal) (b : Block) :
    Region.read b.bytes address.offset.toNat size.toNat =
      some (Region.slice b.bytes address.offset.toNat size.toNat) := by
  rw [Region.read_of_fits]
  rw [b.length_bytes]
  exact h.size_le

theorem RangeFits.readLocal (h : RangeFits address size pLocal) :
    Region.read pLocal 0 size.toNat = some (pLocal.take size.toNat) :=
  Region.read_of_fits (by rw [Nat.zero_add]; exact h.2)

theorem RangeFits.write (h : RangeFits address size pLocal) (b : Block) :
    ∃ b', b.write address.offset.toNat (pLocal.take size.toNat) = some b' := by
  apply Block.write_of_fits
  rw [b.length_bytes, List.length_take_of_le h.2]
  exact h.size_le

theorem RangeFits.writeLocal (h : RangeFits address size pLocal) (b : Block) :
    ∃ pLocal', Region.write pLocal 0 (Region.slice b.bytes address.offset.toNat size.toNat) =
      some pLocal' := by
  refine ⟨_, Region.write_of_fits ?_⟩
  rw [Region.length_slice, Nat.zero_add]
  exact Nat.le_trans (Nat.min_le_left ..) h.2

theorem storageInitValue_defined (sdk : Pstorage) (s : Storage)
    (h : RangeFits address size pLocal) :
    ∃ pLocal' s', storageInitValue sdk s address size pLocal = some (pLocal', s') := by
  have hmax := maxSize_words sdk (Nat.le_trans (Nat.le_add_left ..) h.size_le)
  obtain ⟨modified, hmod⟩ : ∃ modified, hasModifications s.volatileCopy
      ((size.toNat + 3) / 4) address.offset.toNat = some modified :=
    hasModifications_defined h.words_le
  simp only [storageInitValue, h.accepted, hmax, hmod, h.read, h.readLocal,
    Option.bind_eq_bind, Option.bind_some, Option.pure_def]
  cases modified with
  | true =>
    obtain ⟨pLocal', hwrite⟩ := h.writeLocal s.volatileCopy
    exact ⟨pLocal', s, by simp only [↓reduceIte, hwrite, Option.bind_some]⟩
  | false =>
    obtain ⟨volatileCopy, hwrite⟩ := h.write s.volatileCopy
    exact ⟨pLocal, { s with volatileCopy },
      by simp only [Bool.false_eq_true, ↓reduceIte, hwrite, Option.bind_some]⟩

theorem storageUpdateValue_defined (sdk : Pstorage) (s : Storage)
    (h : RangeFits address size pLocal) (force isConnecting isDiscovering : Bool) :
    ∃ ok pLocal' s' calls, storageUpdateValue sdk s address size pLocal force
      isConnecting isDiscovering = some (ok, pLocal', s', calls) := by
  obtain ⟨restored, hrestored⟩ := h.writeLocal s.volatileCopy
  obtain ⟨volatileCopy, hvolatile⟩ := h.write s.volatileCopy
  obtain ⟨flashedCopy, hflashed⟩ := h.write s.flashedCopy
  simp only [storageUpdateValue, storageFlashValue, h.accepted, h.read, h.readLocal, hrestored,
    hvolatile, hflashed, Option.bind_eq_bind, Option.bind_some, Option.pure_def]
  split
  · exact ⟨_, _, _, _, rfl⟩
  split
  · exact ⟨_, _, _, _, rfl⟩
  split
  · exact ⟨_, _, _, _, rfl⟩
  · exact ⟨_, _, _, _, rfl⟩

/-- The main loop and the SDK's reports leave the values alone, but for a reset. -/
theorem storageStep_idle (hop : op = .tasks ∨ ∃ result, op = .event result)
    (h : storageStep sdk s op = some (s', calls)) :
    (∃ storageState eventResult, s' = { s with storageState, eventResult } ∧ calls = []) ∨
      storageStep sdk s .restart = some (s', calls) := by
  rcases hop with rfl | ⟨result, rfl⟩
  · simp only [storageStep, storageTasks] at h
    cases hstate : s.storageState with
    | error =>
      rw [hstate] at h
      exact .inr h
    | init =>
      rw [hstate] at h
      cases h
      exact .inl ⟨.ready, s.eventResult, rfl, rfl⟩
    | ready =>
      rw [hstate] at h
      cases h
      exact .inl ⟨s.storageState, s.eventResult, rfl, rfl⟩
  · cases h
    unfold storageEventHandler
    split
    · exact .inl ⟨_, _, rfl, rfl⟩
    · exact .inl ⟨s.storageState, s.eventResult, rfl, rfl⟩

theorem storageStep_defined (sdk : Pstorage) (s : Storage) {op : StorageOp} (h : op.InBounds) :
    ∃ s' calls, storageStep sdk s op = some (s', calls) := by
  cases op with
  | init => exact ⟨_, _, rfl⟩
  | initValue address size pLocal =>
    obtain ⟨pLocal', s', hcall⟩ := storageInitValue_defined sdk s h
    exact ⟨s', [], by rw [storageStep, hcall]; rfl⟩
  | updateValue address size pLocal force isConnecting isDiscovering =>
    obtain ⟨ok, pLocal', s', calls, hcall⟩ :=
      storageUpdateValue_defined sdk s h force isConnecting isDiscovering
    exact ⟨s', calls, by rw [storageStep, hcall]; rfl⟩
  | clearAll => exact ⟨_, _, rfl⟩
  | tasks =>
    rw [storageStep]
    split <;> exact ⟨_, _, rfl⟩
  | event result => exact ⟨_, _, rfl⟩
  | restart => exact ⟨_, _, rfl⟩

-- ---------------------------------------------------------------------------
-- What one operation does to the image
-- ---------------------------------------------------------------------------

theorem lastFlashed_append (past calls : List StorageCall) :
    lastFlashed (past ++ calls) = (lastFlashed calls).or (lastFlashed past) := by
  rw [lastFlashed, List.filterMap_append, List.getLast?_append]
  rfl

theorem lastFlashed_store (sdk : Pstorage) (s : Storage) (copyToSwap : Bool) :
    lastFlashed (storageStoreData sdk s copyToSwap).2 =
      some (storageStoreData sdk s copyToSwap).1.flashedCopy := by
  rw [storageStoreData_calls]
  rfl

theorem lastFlashed_between (hbefore : past.filterMap StorageCall.source = [])
    (hafter : after.filterMap StorageCall.source = []) :
    lastFlashed (past ++ calls ++ after) = lastFlashed calls := by
  simp only [lastFlashed, List.filterMap_append, hbefore, hafter, List.nil_append, List.append_nil]

/-- What `calls` leave: the image just stored, or no store and the image kept. -/
def ImageStep (s s' : Storage) (calls : List StorageCall) : Prop :=
  (lastFlashed calls = some s'.flashedCopy ∧ s'.Synced) ∨
    (lastFlashed calls = none ∧
      (s.Synced → s'.Synced ∧ s'.flashedCopy.Agree s.flashedCopy))

theorem storageInit_image (sdk : Pstorage) (s : Storage) :
    (lastFlashed (storageInit sdk s).2 = some (storageInit sdk s).1.flashedCopy ∧
        (storageInit sdk s).1.Synced) ∨
      (lastFlashed (storageInit sdk s).2 = none ∧
        (s.flash.page.Checked → (storageInit sdk s).1.Synced ∧
          (storageInit sdk s).1.flashedCopy = s.flash.page)) := by
  by_cases hp : s.flash.page.Checked
  · rw [storageInit_page sdk hp]
    exact .inr ⟨rfl, fun _ => ⟨⟨.refl _, hp⟩, rfl⟩⟩
  by_cases hs : s.flash.swap.Checked
  · left
    rw [storageInit_swap sdk hp hs]
    constructor
    · rw [lastFlashed_append, lastFlashed_store]
      rfl
    · have := storageStoreData_synced sdk { s with flashedCopy := s.flash.swap } false
      exact ⟨this.agree, this.checked⟩
  · rw [storageInit_blank sdk hp hs]
    exact .inr ⟨rfl, fun h => absurd h hp⟩

theorem storageUpdateValue_image (h : storageUpdateValue sdk s address size pLocal force
    isConnecting isDiscovering = some (ok, pLocal', s', calls)) : ImageStep s s' calls := by
  obtain ⟨-, -, hends⟩ := storageUpdateValue_ends h
  cases hends with
  | locked => exact .inr ⟨rfl, fun hs => ⟨hs, .refl _⟩⟩
  | same => exact .inr ⟨rfl, fun hs => ⟨hs, .refl _⟩⟩
  | kept => exact .inr ⟨rfl, fun hs => ⟨⟨hs.agree, hs.checked⟩, .refl _⟩⟩
  | stored _ _ _ hbefore hafter =>
    left
    rw [lastFlashed_between hbefore hafter]
    exact ⟨lastFlashed_store sdk _ true, storageStoreData_synced sdk _ true⟩

theorem storageStep_image (h : storageStep sdk s op = some (s', calls)) :
    ImageStep s s' calls := by
  have hrestart : storageStep sdk s .restart = some (s', calls) → ImageStep s s' calls := by
    intro h
    cases h
    refine (storageInit_image sdk (storageReset s.flash)).imp id (And.imp id fun hinit hs => ?_)
    obtain ⟨hsynced, heq⟩ := hinit hs.checked
    exact ⟨hsynced, heq ▸ hs.agree⟩
  have hidle : (op = .tasks ∨ ∃ result, op = .event result) → ImageStep s s' calls := by
    intro hop
    rcases storageStep_idle hop h with ⟨_, _, rfl, rfl⟩ | h
    · exact .inr ⟨rfl, fun hs => ⟨⟨hs.agree, hs.checked⟩, .refl _⟩⟩
    · exact hrestart h
  cases op with
  | init =>
    cases h
    refine (storageInit_image sdk s).imp id (And.imp id fun hinit hs => ?_)
    obtain ⟨hsynced, heq⟩ := hinit hs.checked
    exact ⟨hsynced, heq ▸ hs.agree⟩
  | initValue address size pLocal =>
    obtain ⟨⟨pLocal', t⟩, hcall, hret⟩ := Option.bind_eq_some_iff.mp h
    cases hret
    obtain ⟨-, -, modified, -, hends⟩ := storageInitValue_ends hcall
    cases hends with
    | stored => exact .inr ⟨rfl, fun hs => ⟨hs, .refl _⟩⟩
    | initial => exact .inr ⟨rfl, fun hs => ⟨⟨hs.agree, hs.checked⟩, .refl _⟩⟩
  | updateValue address size pLocal force isConnecting isDiscovering =>
    obtain ⟨⟨ok, pLocal', t, out⟩, hcall, hret⟩ := Option.bind_eq_some_iff.mp h
    cases hret
    exact storageUpdateValue_image hcall
  | clearAll =>
    cases h
    exact .inl ⟨lastFlashed_store sdk _ true, storageStoreData_synced sdk _ true⟩
  | tasks => exact hidle (.inl rfl)
  | event result => exact hidle (.inr ⟨result, rfl⟩)
  | restart => exact hrestart h

-- ---------------------------------------------------------------------------
-- Whole runs
-- ---------------------------------------------------------------------------

theorem storageRun_image (h : Runs.run (storageStep sdk) s ops = some (t, calls)) :
    ∀ src, lastFlashed calls = some src → t.Synced ∧ t.flashedCopy.Agree src := by
  refine Runs.invariant (P := fun s past => ∀ src, lastFlashed past = some src →
    s.Synced ∧ s.flashedCopy.Agree src) ?_ nofun h
  intro s past op s' out ih hstep src hsrc
  rw [lastFlashed_append] at hsrc
  rcases storageStep_image hstep with ⟨hlast, hsynced⟩ | ⟨hnone, hkeep⟩
  · rw [hlast] at hsrc
    cases hsrc
    exact ⟨hsynced, .refl _⟩
  · rw [hnone] at hsrc
    obtain ⟨hs, hagree⟩ := ih src hsrc
    obtain ⟨hsynced, hkept⟩ := hkeep hs
    exact ⟨hsynced, hkept.trans hagree⟩

end

/-- Every run of operations in bounds is defined. Once it has stored a block,
the page has the words of the flashed copy and a correct checksum, and a
`storage_init`, whatever is left in RAM, loads it, looks at nothing else and
finds the data of the block that was stored last. -/
theorem storage_flash_image (sdk : Pstorage) (s : Storage) (ops : List StorageOp)
    (hops : ∀ op ∈ ops, op.InBounds) :
    ∃ t calls, Runs.run (storageStep sdk) s ops = some (t, calls) ∧
      ∀ src, lastFlashed calls = some src →
        (∀ i : Fin storageAddressMax, i.val ≤ storageAddressChecksum →
          t.flash.page.word i = t.flashedCopy.word i) ∧
        t.flash.page.Checked ∧
        ∀ ram : Storage, ram.flash = t.flash →
          ∃ u, storageInit sdk ram =
              (u, [.pstorageRegister blockSize 1, .pstorageLoad blockSize]) ∧
            u.flash = t.flash ∧
            ∀ i : Fin storageAddressMax, i.val < storageAddressChecksum →
              u.flashedCopy.word i = src.word i ∧ u.volatileCopy.word i = src.word i := by
  obtain ⟨t, calls, hrun⟩ : ∃ t calls, Runs.run (storageStep sdk) s ops = some (t, calls) :=
    Runs.Guarded.exists_run (fun s _ hop => storageStep_defined sdk s hop)
      (Runs.guarded_of_forall (G := fun _ op => op.InBounds) fun op hop _ => hops op hop)
  refine ⟨t, calls, hrun, fun src hsrc => ?_⟩
  obtain ⟨hsynced, hagree⟩ := storageRun_image hrun src hsrc
  refine ⟨fun i hi => hsynced.agree.word hi, hsynced.checked, fun ram hram => ?_⟩
  have hpage : ram.flash.page.Checked := hram ▸ hsynced.checked
  refine ⟨_, storageInit_page sdk hpage, hram, fun i hi => ?_⟩
  have hdata : t.flash.page.word i = src.word i :=
    (hsynced.agree.trans hagree).word (Nat.le_of_lt hi)
  rw [← hram] at hdata
  exact ⟨hdata, hdata⟩

def erasedFlash : Flash where
  page := Block.fill 0xFF
  swap := Block.fill 0xFF

def firstUpdate : List StorageOp :=
  [.init, .updateValue .factoryReset 4 [5, 0, 0, 0] false true false, .restart]

theorem storage_flash_image_firstUpdate :
    ∃ t calls src, Runs.run (storageStep throughSwap.toPstorage) (storageReset erasedFlash)
        firstUpdate = some (t, calls) ∧
      lastFlashed calls = some src ∧ src.word 0 = 5 ∧ t.flash.page.word 0 = t.flashedCopy.word 0 ∧
      t.flash.page.Checked := by
  obtain ⟨t, calls, hrun, himage⟩ := storage_flash_image throughSwap.toPstorage
    (storageReset erasedFlash) firstUpdate (by decide)
  obtain ⟨src, hsrc, hfive⟩ : ∃ src, lastFlashed calls = some src ∧ src.word 0 = 5 := by
    have hlast : (Runs.run (storageStep throughSwap.toPstorage) (storageReset erasedFlash)
        firstUpdate).bind (fun r => (lastFlashed r.2).map fun src => src.word 0) = some 5 := by
      decide +kernel
    rw [hrun, Option.bind_some] at hlast
    exact Option.map_eq_some_iff.mp hlast
  obtain ⟨hwords, hchecked, -⟩ := himage src hsrc
  exact ⟨t, calls, src, hrun, hsrc, hfive, hwords 0 (by decide), hchecked⟩

end WaterBall
