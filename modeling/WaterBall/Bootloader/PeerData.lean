import WaterBall.Support.Copying
import WaterBall.Support.Runs
import WaterBall.Storage.Driver

/-!
# Peer data across a reset

`dfu_ble_svc.c`: the application hands the data of its peer to the bootloader
through a variable that no start-up code initialises, so it survives a soft
reset. A checksum beside it tells whether somebody has put data there.

Pointers are 32-bit addresses and wrap. The application's struct may lie
anywhere, also over the variable.
-/

namespace WaterBall

open Support Copying

def nrfErrorSvcHandlerMissing : UInt32 := 1

def nrfErrorInvalidData : UInt32 := 11

def nrfErrorNull : UInt32 := 14

structure PeerDataArea where
  start : UInt32
  size : UInt32
  dfuBleSvcPeerDataSet : UInt8
  crc16Compute : List UInt8 → UInt16
  size_le : size.toNat ≤ 2 ^ 31

abbrev Ram := UInt32 → UInt8

structure NoInit where
  ram : Ram
  peerDataCrc : UInt16

def cell (base : UInt32) (i : Nat) : UInt32 := base + UInt32.ofNat i

def bytesAt (ram : Ram) (base : UInt32) (n : Nat) : List UInt8 :=
  (List.range n).map fun i => ram (cell base i)

section
variable (a : PeerDataArea) (s : NoInit)

def NoInit.peerData : List UInt8 := bytesAt s.ram a.start a.size.toNat

/-- `while (i++ <= sizeof(dfu_ble_peer_data_t))`, with the turns that are left. -/
def copyBackwards (ram : Ram) (dst src : UInt32) : Nat → Ram
  | 0 => ram
  | turns + 1 => copyBackwards (Function.update ram dst (ram src)) (dst - 1) (src - 1) turns

/-- From the first byte on. C leaves a copy between regions that overlap undefined; here it is
the copy upwards that the comment in `dfu_ble_peer_data_set` counts on. -/
def memcpy (ram : Ram) (dst src : UInt32) (n : Nat) : Ram := copyUp (cell dst) (cell src) ram n

def dfuBlePeerDataSet (pPeerData : UInt32) : NoInit × UInt32 :=
  if pPeerData = 0 then (s, nrfErrorNull)
  else
    let src := pPeerData
    let dst := a.start
    let len := dst - src
    let ram :=
      if src = dst then s.ram
      else if len < a.size then
        -- One turn more than there are bytes.
        copyBackwards s.ram (dst + a.size) (src + a.size) (a.size.toNat + 1)
      else memcpy s.ram dst src a.size.toNat
    ({ ram, peerDataCrc := a.crc16Compute (bytesAt ram a.start a.size.toNat) }, nrfSuccess)

def cSvcHandler (svcNum : UInt8) (pSvcArgs : UInt32) : NoInit × UInt32 :=
  if svcNum = a.dfuBleSvcPeerDataSet then dfuBlePeerDataSet a s pSvcArgs
  else (s, nrfErrorSvcHandlerMissing)

def dfuBlePeerDataGet (pPeerData : UInt32) : NoInit × UInt32 :=
  if pPeerData = 0 then (s, nrfErrorNull)
  else
    let crc := a.crc16Compute (s.peerData a)
    if crc ≠ s.peerDataCrc then (s, nrfErrorInvalidData)
    else
      ({ ram := memcpy s.ram pPeerData a.start a.size.toNat
         peerDataCrc := s.peerDataCrc + 1 }, nrfSuccess)

end

-- ---------------------------------------------------------------------------
-- Copies
-- ---------------------------------------------------------------------------

theorem cell_ne (base : UInt32) (hij : i < j) (hj : j < 2 ^ 32) : cell base i ≠ cell base j := by
  intro h
  have htoNat := congrArg UInt32.toNat h
  have hlt : base.toNat < 2 ^ 32 := base.toNat_lt
  simp only [cell, UInt32.toNat_add, UInt32.toNat_ofNat'] at htoNat
  omega

theorem cell_ne_cell {dst src : UInt32} (hi : i < 2 ^ 32) (hj : j < 2 ^ 32)
    (h : (dst - src).toNat + i ≠ j) (hwrap : (dst - src).toNat + i ≠ j + 2 ^ 32) :
    cell dst i ≠ cell src j := by
  intro heq
  have htoNat := congrArg UInt32.toNat heq
  have hdst : dst.toNat < 2 ^ 32 := dst.toNat_lt
  have hsrc : src.toNat < 2 ^ 32 := src.toNat_lt
  simp only [cell, UInt32.toNat_add, UInt32.toNat_ofNat'] at htoNat
  rw [UInt32.toNat_sub] at h hwrap
  omega

theorem copyBackwards_eq (ram : Ram) (dst src : UInt32) (n : Nat) :
    copyBackwards ram (cell dst n) (cell src n) (n + 1) =
      copyDown (cell dst) (cell src) ram (n + 1) := by
  induction n generalizing ram with
  | zero => rfl
  | succ n ih =>
    have hpred : ∀ base, cell base (n + 1) - 1 = cell base n := by
      intro base
      rw [cell, UInt32.ofNat_add, ← UInt32.add_assoc]
      exact UInt32.add_sub_cancel ..
    rw [copyBackwards, hpred, hpred, ih]
    rfl

theorem bytesAt_copied {ram ram' : Ram} (h : Copied (cell dst) (cell src) n ram ram') :
    bytesAt ram' dst n = bytesAt ram src n :=
  List.map_congr_left fun i hi => h.copied i (List.mem_range.mp hi)

theorem bytesAt_congr {ram ram' : Ram} (h : ∀ i, i < n → ram' (cell base i) = ram (cell base i)) :
    bytesAt ram' base n = bytesAt ram base n :=
  List.map_congr_left fun i hi => h i (List.mem_range.mp hi)

/-- The source lies below the variable and reaches into it. -/
def PeerDataArea.Overlapped (a : PeerDataArea) (src : UInt32) : Prop :=
  src ≠ a.start ∧ a.start - src < a.size

instance (a : PeerDataArea) (src : UInt32) : Decidable (a.Overlapped src) :=
  inferInstanceAs (Decidable (_ ∧ _))

/-- What handing over the data at `src` does. Where the source reaches into the
variable from below, the byte behind the variable is overwritten too. -/
structure Handed (a : PeerDataArea) (s : NoInit) (src : UInt32) (s' : NoInit) : Prop where
  data : s'.peerData a = bytesAt s.ram src a.size.toNat
  crc : s'.peerDataCrc = a.crc16Compute (s'.peerData a)
  behind : a.Overlapped src → s'.ram (cell a.start a.size.toNat) = s.ram (cell src a.size.toNat)
  frame : ∀ x, (∀ i, i < a.size.toNat → x ≠ cell a.start i) →
    (a.Overlapped src → x ≠ cell a.start a.size.toNat) → s'.ram x = s.ram x

theorem dfuBlePeerDataSet_handed (a : PeerDataArea) (s : NoInit) (pPeerData : UInt32)
    (hp : pPeerData ≠ 0) :
    (dfuBlePeerDataSet a s pPeerData).2 = nrfSuccess ∧
      Handed a s pPeerData (dfuBlePeerDataSet a s pPeerData).1 := by
  have hsize := a.size_le
  unfold dfuBlePeerDataSet
  rw [if_neg hp]
  refine ⟨rfl, ?_⟩
  dsimp only
  split
  case isTrue hsame =>
    refine ⟨?_, rfl, ?_, ?_⟩
    · exact congrArg (bytesAt s.ram · a.size.toNat) hsame.symm
    · exact fun hover => absurd hsame hover.1
    · exact fun _ _ _ => rfl
  case isFalse hother =>
    split
    case isTrue hinto =>
      have hlt : (a.start - pPeerData).toNat < a.size.toNat := UInt32.lt_iff_toNat_lt.mp hinto
      have hend : ∀ base, base + a.size = cell base a.size.toNat := by
        intro base
        rw [cell, UInt32.ofNat_toNat]
      rw [hend, hend, copyBackwards_eq]
      have hcopied : Copied (cell a.start) (cell pPeerData) (a.size.toNat + 1) s.ram
          (copyDown (cell a.start) (cell pPeerData) s.ram (a.size.toNat + 1)) := by
        refine copyDown_copied s.ram ?_ ?_
        · exact fun i j hij hj => cell_ne a.start hij (by omega)
        · exact fun i j hij hj => cell_ne_cell (by omega) (by omega) (by omega) (by omega)
      refine ⟨?_, rfl, ?_, ?_⟩
      · exact List.map_congr_left fun i hi =>
          hcopied.copied i (Nat.lt_succ_of_lt (List.mem_range.mp hi))
      · exact fun _ => hcopied.copied _ (Nat.lt_succ_self _)
      · intro x hx hbehind
        refine hcopied.frame x fun i hi => ?_
        obtain hlt | rfl := Nat.lt_succ_iff_lt_or_eq.mp hi
        · exact hx i hlt
        · exact hbehind ⟨hother, hinto⟩
    case isFalse hclear =>
      have hge : a.size.toNat ≤ (a.start - pPeerData).toNat :=
        Nat.le_of_not_lt fun h => hclear (UInt32.lt_iff_toNat_lt.mpr h)
      have hlt : (a.start - pPeerData).toNat < 2 ^ 32 := UInt32.toNat_lt _
      have hcopied : Copied (cell a.start) (cell pPeerData) a.size.toNat s.ram
          (memcpy s.ram a.start pPeerData a.size.toNat) := by
        refine copyUp_copied s.ram ?_ ?_
        · exact fun i j hij hj => cell_ne a.start hij (by omega)
        · exact fun i j hij hj => cell_ne_cell (by omega) (by omega) (by omega) (by omega)
      refine ⟨bytesAt_copied hcopied, rfl, ?_, ?_⟩
      · exact fun hover => absurd hover.2 hclear
      · exact fun x hx _ => hcopied.frame x hx

/-- Wherever the struct of the application lies, over the variable or not, the
bootloader gets the data that was there at the call, with its checksum. A
struct that reaches into the variable from below costs the byte behind the
variable, which becomes the one behind the struct. Every other byte stays. -/
theorem dfuBlePeerDataSet_any_overlap (a : PeerDataArea) (s : NoInit) (pPeerData : UInt32)
    (hp : pPeerData ≠ 0) :
    let (s', errCode) := dfuBlePeerDataSet a s pPeerData
    errCode = nrfSuccess ∧ s'.peerData a = bytesAt s.ram pPeerData a.size.toNat ∧
      s'.peerDataCrc = a.crc16Compute (s'.peerData a) ∧
      ∀ x, (∀ i, i < a.size.toNat → x ≠ cell a.start i) →
        s'.ram x =
          if a.Overlapped pPeerData ∧ x = cell a.start a.size.toNat then
            s.ram (cell pPeerData a.size.toNat)
          else s.ram x := by
  obtain ⟨hok, hhanded⟩ := dfuBlePeerDataSet_handed a s pPeerData hp
  refine ⟨hok, hhanded.data, hhanded.crc, fun x hx => ?_⟩
  split
  case isTrue hbehind =>
    obtain ⟨hover, rfl⟩ := hbehind
    exact hhanded.behind hover
  case isFalse hother => exact hhanded.frame x hx fun hover heq => hother ⟨hover, heq⟩

def smallArea : PeerDataArea where
  start := 0x20003F80
  size := 4
  dfuBleSvcPeerDataSet := 2
  crc16Compute := fun bytes => bytes.foldl (fun sum byte => sum + byte.toUInt16) 0
  size_le := by decide

theorem dfuBlePeerDataSet_any_overlap_fromBelow :
    let (s', errCode) := dfuBlePeerDataSet smallArea ⟨fun x => x.toUInt8, 0⟩ 0x20003F7E
    errCode = nrfSuccess ∧ s'.peerData smallArea = [0x7E, 0x7F, 0x80, 0x81] ∧
      s'.ram 0x20003F84 = 0x82 := by
  obtain ⟨hok, hdata, -, hframe⟩ :=
    dfuBlePeerDataSet_any_overlap smallArea ⟨fun x => x.toUInt8, 0⟩ 0x20003F7E (by decide)
  refine ⟨hok, hdata, (hframe 0x20003F84 (by decide)).trans ?_⟩
  exact if_pos ⟨⟨by decide, by decide⟩, rfl⟩

end WaterBall
