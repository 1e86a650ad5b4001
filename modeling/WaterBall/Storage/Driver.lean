import WaterBall.Support.Region
import WaterBall.Support.LittleEndian

/-!
# The persistent store

`storage.c`: one block of three words in flash, with a copy of it in RAM that
follows the flash (`m_flashed_copy`) and one that follows the application
(`m_volatile_copy`).

The SDK's `pstorage` is a parameter, seen through the steps an update takes on
the flash, so that power can be lost between two of them. Every function gives
the calls it made beside its new state. A failed `APP_ERROR_CHECK`, which
resets the device, and a copy that leaves the memory it was given are `none`.
-/

namespace WaterBall

open Support

-- ---------------------------------------------------------------------------
-- Addresses and blocks
-- ---------------------------------------------------------------------------

/-- `storage_address_t`. `STORAGE_ADDRESS_MIN` and `STORAGE_ADDRESS_PERMANENT_MAX`
are other names of the factory reset address. -/
inductive StorageAddress
  | permanentMin
  | factoryReset
  | checksum
  | usedForSwapping
  | max
  deriving DecidableEq, Repr

def StorageAddress.value : StorageAddress → UInt32
  | permanentMin => 0xFFFFFFFF
  | factoryReset => 0
  | checksum => 1
  | usedForSwapping => 2
  | max => 3

def StorageAddress.offset (address : StorageAddress) : UInt32 := address.value * 4

abbrev storageAddressMin : Nat := 0
abbrev storageAddressChecksum : Nat := 1
abbrev storageAddressMax : Nat := 3
abbrev blockSize : Nat := storageAddressMax * 4

def defaultMemoryValue : UInt32 := 0xFFFFFFFF

structure Block where
  bytes : List UInt8
  length_bytes : bytes.length = blockSize
  deriving DecidableEq

def Block.fill (byte : UInt8) : Block := ⟨List.replicate blockSize byte, List.length_replicate⟩

def Block.word (b : Block) (i : Fin storageAddressMax) : UInt32 :=
  LittleEndian.word (b.bytes.drop (4 * i))

def Block.setWord (b : Block) (i : Fin storageAddressMax) (value : UInt32) : Block where
  bytes := Region.splice b.bytes (4 * i) (LittleEndian.wordBytes value)
  length_bytes := by
    rw [Region.length_splice, b.length_bytes]
    rw [b.length_bytes, LittleEndian.length_wordBytes]
    have hi : i.val < 3 := i.isLt
    show 4 * i.val + 4 ≤ 12
    omega

def Block.write (b : Block) (start : Nat) (src : List UInt8) : Option Block :=
  if h : start + src.length ≤ b.bytes.length then
    some ⟨Region.splice b.bytes start src, (Region.length_splice h).trans b.length_bytes⟩
  else none

-- ---------------------------------------------------------------------------
-- The SDK's flash
-- ---------------------------------------------------------------------------

/-- The page of the module and the swap page, as far as the block reaches. -/
structure Flash where
  page : Block
  swap : Block
  deriving DecidableEq

inductive FlashOp
  | eraseSwap
  | copyWord (i : Fin storageAddressMax)
  | erasePage
  | writeWord (i : Fin storageAddressMax) (value : UInt32)
  | restoreWord (i : Fin storageAddressMax)
  deriving DecidableEq

def FlashOp.apply (f : Flash) : FlashOp → Flash
  | eraseSwap => { f with swap := Block.fill 0xFF }
  | copyWord i => { f with swap := f.swap.setWord i (f.page.word i) }
  | erasePage => { f with page := Block.fill 0xFF }
  | writeWord i value => { f with page := f.page.setWord i value }
  | restoreWord i => { f with page := f.page.setWord i (f.swap.word i) }

def Flash.applyAll (f : Flash) (ops : List FlashOp) : Flash := ops.foldl FlashOp.apply f

/-- What the module uses of the SDK. An update is the list of its flash steps;
without power loss it puts the first `size` bytes of the source on the page and
keeps the rest of the page. -/
structure Pstorage where
  ceilDiv : UInt32 → UInt32 → UInt32
  pstorageLoad : Flash → Block
  pstorageUpdate : Block → UInt32 → List FlashOp
  ceilDiv_words : ∀ a, a.toNat + 4 ≤ UInt32.size →
    (ceilDiv a 4 * 4).toNat = (a.toNat + 3) / 4 * 4
  load_page : ∀ f, pstorageLoad f = f.page
  update_page : ∀ (f : Flash) src size, size.toNat ≤ blockSize → 4 ∣ size.toNat →
    (f.applyAll (pstorageUpdate src size)).page.bytes =
      src.bytes.take size.toNat ++ f.page.bytes.drop size.toNat

/-- The steps of an update that keeps the rest of the page: the page goes to
the swap page, is erased, and comes back word by word, the first `n` words
from the source and the others from the swap page. -/
def updateThroughSwap (src : Block) (n : Nat) : List FlashOp :=
  .eraseSwap :: (List.finRange storageAddressMax).map .copyWord ++
    .erasePage :: (List.finRange storageAddressMax).map fun i =>
      if i.val < n then .writeWord i (src.word i) else .restoreWord i

/-- An SDK whose updates of less than a block take these steps. -/
structure PstorageThroughSwap extends Pstorage where
  update_steps : ∀ src size, size.toNat < blockSize → 4 ∣ size.toNat →
    pstorageUpdate src size = updateThroughSwap src (size.toNat / 4)

-- ---------------------------------------------------------------------------
-- The module
-- ---------------------------------------------------------------------------

inductive StorageState
  | init
  | ready
  | error
  deriving DecidableEq, Repr

structure Storage where
  storageState : StorageState
  eventResult : UInt32
  volatileCopy : Block
  flashedCopy : Block
  autoFlash : Bool
  isLocked : Bool
  flash : Flash
  deriving DecidableEq

/-- The calls that leave the module, and the read of the swap page. -/
inductive StorageCall
  | pstorageRegister (blockSize blockCount : Nat)
  | pstorageLoad (size : Nat)
  | swapRead
  | pstorageUpdate (src : Block) (size : UInt32)
  | connectCancel
  | discoveryCancel
  | discoveryDiscovery
  deriving DecidableEq

/-- The block that the call puts on the flash page, if it does. -/
def StorageCall.source : StorageCall → Option Block
  | pstorageUpdate src _ => some src
  | _ => none

def storageReset (flash : Flash) : Storage where
  storageState := .init
  eventResult := 0
  volatileCopy := Block.fill 0
  flashedCopy := Block.fill 0
  autoFlash := true
  isLocked := false
  flash := flash

def nrfSuccess : UInt32 := 0

def storageEventHandler (s : Storage) (result : UInt32) : Storage :=
  if nrfSuccess != result then { s with eventResult := result, storageState := .error } else s

def storageTasks (s : Storage) : Option Storage :=
  match s.storageState with
  | .init => some { s with storageState := .ready }
  | .ready => some s
  | .error => none

/-- The sum over the words of the block that the caller would change. -/
def storageCalculateChecksum (flashedCopy : Block) : UInt32 :=
  ((List.finRange storageAddressMax).filter fun i =>
    storageAddressMin ≤ i.val ∧ i.val < storageAddressChecksum).foldl
      (fun checksum i => checksum + flashedCopy.word i) 0

def storageUpdateChecksum (s : Storage) : Storage :=
  { s with
    flashedCopy := s.flashedCopy.setWord ⟨storageAddressChecksum, by decide⟩
      (storageCalculateChecksum s.flashedCopy) }

def storageIsCorrectChecksum (s : Storage) : Bool :=
  s.flashedCopy.word ⟨storageAddressChecksum, by decide⟩ == storageCalculateChecksum s.flashedCopy

def storageLoadSwap (s : Storage) : Storage := { s with flashedCopy := s.flash.swap }

/-- The wait for the SDK to be ready again ends when the last step is done. -/
def storageStoreData (sdk : Pstorage) (s : Storage) (copyToSwap : Bool) :
    Storage × List StorageCall :=
  let size : UInt32 := if copyToSwap then 12 - 4 else 12
  let s := storageUpdateChecksum s
  ({ s with flash := s.flash.applyAll (sdk.pstorageUpdate s.flashedCopy size) },
    [.pstorageUpdate s.flashedCopy size])

def storageInit (sdk : Pstorage) (s : Storage) : Storage × List StorageCall :=
  let s := { s with flashedCopy := sdk.pstorageLoad s.flash }
  let load := [.pstorageRegister blockSize 1, .pstorageLoad blockSize]
  let (s, calls) :=
    if storageIsCorrectChecksum s then (s, [])
    else
      let s := storageLoadSwap s
      if storageIsCorrectChecksum s then
        let (s, calls) := storageStoreData sdk s false
        (s, .swapRead :: calls)
      else ({ s with flashedCopy := Block.fill 0xFF }, [.swapRead])
  ({ s with volatileCopy := s.flashedCopy, storageState := .init }, load ++ calls)

def appErrorCheckBool (ok : Bool) : Option Unit := if ok then some () else none

def maxSize (sdk : Pstorage) (size : UInt32) : UInt32 := sdk.ceilDiv size 4 * 4

/-- The loop of `storage_init_value`: does one of the next `count` words of the
internal copy differ from erased flash? -/
def hasModifications (copy : Block) : Nat → Nat → Option Bool
  | 0, _ => some false
  | count + 1, offset => do
    let bytes ← Region.read copy.bytes offset 4
    if defaultMemoryValue != LittleEndian.word bytes then return true
    else hasModifications copy count (offset + 4)

def storageInitValue (sdk : Pstorage) (s : Storage) (address : StorageAddress) (size : UInt32)
    (pLocal : List UInt8) : Option (List UInt8 × Storage) := do
  let offset := address.offset
  appErrorCheckBool (12 ≥ offset + maxSize sdk size)
  let modified ← hasModifications s.volatileCopy (maxSize sdk size / 4).toNat offset.toNat
  if modified then
    let source ← Region.read s.volatileCopy.bytes offset.toNat size.toNat
    let pLocal ← Region.write pLocal 0 source
    return (pLocal, s)
  else
    let source ← Region.read pLocal 0 size.toNat
    let volatileCopy ← s.volatileCopy.write offset.toNat source
    return (pLocal, { s with volatileCopy })

/-- The end of `storage_update_value`, once `m_volatile_copy` has the value. -/
def storageFlashValue (sdk : Pstorage) (s : Storage) (offset : UInt32) (source : List UInt8)
    (isConnecting isDiscovering : Bool) : Option (Storage × List StorageCall) := do
  let flashedCopy ← s.flashedCopy.write offset.toNat source
  let (s, calls) := storageStoreData sdk { s with flashedCopy } true
  return (s,
    (if isConnecting then [.connectCancel] else []) ++
    (if isDiscovering then [.discoveryCancel] else []) ++ calls ++
    (if isDiscovering then [.discoveryDiscovery] else []))

/-- The result, the caller's variable, the state and the calls. `isConnecting`
and `isDiscovering` are the status bits when the function asks for them. -/
def storageUpdateValue (sdk : Pstorage) (s : Storage) (address : StorageAddress) (size : UInt32)
    (pLocal : List UInt8) (force isConnecting isDiscovering : Bool) :
    Option (Bool × List UInt8 × Storage × List StorageCall) := do
  let offset := address.offset
  appErrorCheckBool (12 ≥ offset + maxSize sdk size)
  let stored ← Region.read s.volatileCopy.bytes offset.toNat size.toNat
  if s.isLocked && !force then
    let pLocal ← Region.write pLocal 0 stored
    return (false, pLocal, s, [])
  let source ← Region.read pLocal 0 size.toNat
  if stored = source then return (true, pLocal, s, [])
  let volatileCopy ← s.volatileCopy.write offset.toNat source
  let s := { s with volatileCopy }
  if s.autoFlash || force then
    let (s, calls) ← storageFlashValue sdk s offset source isConnecting isDiscovering
    return (true, pLocal, s, calls)
  return (true, pLocal, s, [])

/-- Nothing of the block is permanent, so both copies are cleared whole. -/
def storageClearAll (sdk : Pstorage) (s : Storage) : Storage × List StorageCall :=
  storageStoreData sdk
    { s with volatileCopy := Block.fill 0xFF, flashedCopy := Block.fill 0xFF } true

end WaterBall
