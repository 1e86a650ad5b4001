import WaterBall.Support.Mailbox
import WaterBall.Bootloader.PeerData

/-!
# The hand-over as a mailbox

Whatever the RAM holds when the power comes on, the variable and its checksum
are a box with one place: a supervisor call puts data in, the bootloader takes
it out, and the checksum is spoilt so that nobody takes it again.
-/

namespace WaterBall

open Support Copying

inductive PeerDataEvent
  | svc (svcNum : UInt8) (pSvcArgs : UInt32)
  | peerDataGet (pPeerData : UInt32)
  | store (address : UInt32) (byte : UInt8)
  deriving DecidableEq

section
variable (a : PeerDataArea) (s : NoInit)

/-- What a `dfu_ble_peer_data_get` that has looked at the data answers: the
struct of the caller, or that there was nothing. -/
def peerDataAnswer (pPeerData errCode : UInt32) : List (Option (List UInt8)) :=
  if errCode = nrfSuccess then [some (bytesAt s.ram pPeerData a.size.toNat)]
  else if errCode = nrfErrorInvalidData then [none]
  else []

def peerDataStep : PeerDataEvent → Option (NoInit × List (Option (List UInt8)))
  | .svc svcNum pSvcArgs => some ((cSvcHandler a s svcNum pSvcArgs).1, [])
  | .peerDataGet pPeerData =>
    let (s, errCode) := dfuBlePeerDataGet a s pPeerData
    some (s, peerDataAnswer a s pPeerData errCode)
  | .store address byte => some ({ s with ram := Function.update s.ram address byte }, [])

/-- The data that waits. -/
def NoInit.mail : Option (List UInt8) :=
  if a.crc16Compute (s.peerData a) = s.peerDataCrc then some (s.peerData a) else none

def PeerDataEvent.op : PeerDataEvent → List (Mailbox.Op (List UInt8))
  | .svc svcNum pSvcArgs =>
    if svcNum = a.dfuBleSvcPeerDataSet ∧ pSvcArgs ≠ 0 then
      [.put (bytesAt s.ram pSvcArgs a.size.toNat)]
    else []
  | .peerDataGet pPeerData => if pPeerData ≠ 0 then [.take] else []
  | .store _ _ => []

/-- The variable is its module's own: no other store is to one of its bytes,
and the caller's struct is another object. -/
def PeerDataEvent.Apart : PeerDataEvent → Prop
  | .svc _ _ => True
  | .peerDataGet pPeerData => ∀ i, i < a.size.toNat → ∀ j, j < a.size.toNat →
      cell pPeerData i ≠ cell a.start j
  | .store address _ => ∀ j, j < a.size.toNat → address ≠ cell a.start j

instance : DecidablePred (PeerDataEvent.Apart a) := fun event => by
  unfold PeerDataEvent.Apart
  split <;> infer_instance

end

section
variable {a : PeerDataArea} {s s' : NoInit}

theorem NoInit.mail_congr (hdata : s'.peerData a = s.peerData a)
    (hcrc : s'.peerDataCrc = s.peerDataCrc) : s'.mail a = s.mail a := by
  rw [NoInit.mail, NoInit.mail, hdata, hcrc]

theorem Handed.mail (h : Handed a s src s') :
    s'.mail a = some (bytesAt s.ram src a.size.toNat) := by
  rw [NoInit.mail, if_pos h.crc.symm, h.data]

theorem cSvcHandler_mail (svcNum : UInt8) (pSvcArgs : UInt32) :
    Mailbox.run (s.mail a) (PeerDataEvent.op a s (.svc svcNum pSvcArgs)) =
      ((cSvcHandler a s svcNum pSvcArgs).1.mail a, []) := by
  unfold cSvcHandler PeerDataEvent.op
  dsimp only
  by_cases hnum : svcNum = a.dfuBleSvcPeerDataSet
  · by_cases hnull : pSvcArgs = 0
    · simp [hnum, hnull, dfuBlePeerDataSet, Mailbox.run]
    · obtain ⟨-, hhanded⟩ := dfuBlePeerDataSet_handed a s pSvcArgs hnull
      rw [if_pos (And.intro hnum hnull), if_pos hnum, hhanded.mail]
      rfl
  · simp [hnum, Mailbox.run]

theorem dfuBlePeerDataGet_mail {pPeerData : UInt32}
    (hapart : PeerDataEvent.Apart a (.peerDataGet pPeerData)) :
    Mailbox.run (s.mail a) (PeerDataEvent.op a s (.peerDataGet pPeerData)) =
      ((dfuBlePeerDataGet a s pPeerData).1.mail a,
        peerDataAnswer a (dfuBlePeerDataGet a s pPeerData).1 pPeerData
          (dfuBlePeerDataGet a s pPeerData).2) := by
  have hsize := a.size_le
  unfold dfuBlePeerDataGet PeerDataEvent.op
  dsimp only
  by_cases hnull : pPeerData = 0
  · simp [hnull, Mailbox.run, peerDataAnswer, nrfErrorNull, nrfSuccess, nrfErrorInvalidData]
  simp only [ne_eq, hnull, not_false_eq_true, ↓reduceIte]
  split
  case isTrue hspoilt =>
    have hnone : s.mail a = none := if_neg hspoilt
    rw [hnone]
    rfl
  case isFalse hgood =>
    have hcrc : a.crc16Compute (s.peerData a) = s.peerDataCrc := Decidable.not_not.mp hgood
    have hcopied : Copied (cell pPeerData) (cell a.start) a.size.toNat s.ram
        (memcpy s.ram pPeerData a.start a.size.toNat) := by
      refine copyUp_copied s.ram ?_ ?_
      · exact fun i j hij hj => cell_ne pPeerData hij (by omega)
      · exact fun i j hij hj => hapart i (Nat.lt_trans hij hj) j hj
    have hkept : bytesAt (memcpy s.ram pPeerData a.start a.size.toNat) a.start a.size.toNat =
        s.peerData a :=
      bytesAt_congr fun j hj => hcopied.frame _ fun i hi => (hapart i hi j hj).symm
    have hspoilt : s.peerDataCrc ≠ s.peerDataCrc + 1 := by
      intro heq
      have htoNat := congrArg UInt16.toNat heq
      have hlt : s.peerDataCrc.toNat < 2 ^ 16 := s.peerDataCrc.toNat_lt
      rw [UInt16.toNat_add] at htoNat
      simp only [UInt16.reduceToNat] at htoNat
      omega
    have hsome : s.mail a = some (s.peerData a) := if_pos hcrc
    have hnone : NoInit.mail a
        { ram := memcpy s.ram pPeerData a.start a.size.toNat
          peerDataCrc := s.peerDataCrc + 1 } = none := by
      refine if_neg ?_
      rw [NoInit.peerData, hkept, hcrc]
      exact hspoilt
    rw [hsome, hnone, peerDataAnswer, if_pos rfl, bytesAt_copied hcopied]
    rfl

theorem store_mail {address : UInt32} {byte : UInt8}
    (hapart : PeerDataEvent.Apart a (.store address byte)) :
    NoInit.mail a { s with ram := Function.update s.ram address byte } = s.mail a := by
  refine NoInit.mail_congr ?_ rfl
  exact bytesAt_congr fun j hj => Function.update_of_ne (hapart j hj).symm ..

theorem peerDataStep_mail {event : PeerDataEvent} (hapart : event.Apart a)
    (hstep : peerDataStep a s event = some (s', answers)) :
    Mailbox.run (s.mail a) (event.op a s) = (s'.mail a, answers) := by
  cases event with
  | svc svcNum pSvcArgs =>
    cases hstep
    exact cSvcHandler_mail svcNum pSvcArgs
  | peerDataGet pPeerData =>
    cases hstep
    exact dfuBlePeerDataGet_mail hapart
  | store address byte =>
    cases hstep
    exact Prod.ext (store_mail hapart).symm rfl

/-- For every history of calls: the answers are those of a mailbox, so the data
that the bootloader gets is part of the data handed over, in the same order and
none of it twice. -/
theorem peerData_is_mailbox (a : PeerDataArea) (s : NoInit) (events : List PeerDataEvent)
    (hapart : ∀ event ∈ events, event.Apart a)
    (hrun : Runs.run (peerDataStep a) s events = some (s', answers)) :
    let ops := Runs.observed (peerDataStep a) (fun s event => event.op a s) s events
    Mailbox.run (s.mail a) ops = (s'.mail a, answers) ∧
      (answers.filterMap id ++ (s'.mail a).toList).Sublist
        ((s.mail a).toList ++ ops.filterMap Mailbox.Op.item?) := by
  have hbox : Mailbox.run (s.mail a)
      (Runs.observed (peerDataStep a) (fun s event => event.op a s) s events) =
        (s'.mail a, answers) := by
    induction events generalizing s answers with
    | nil =>
      cases hrun
      rfl
    | cons event events ih =>
      obtain ⟨hevent, hevents⟩ := List.forall_mem_cons.mp hapart
      obtain ⟨s₁, first, rest, hstep, hrest, rfl⟩ := Runs.run_cons_eq_some.mp hrun
      have hone := peerDataStep_mail hevent hstep
      rw [Runs.observed, hstep, Mailbox.run_append, hone, ih s₁ hevents hrest]
  refine ⟨hbox, ?_⟩
  have htaken := Mailbox.taken_sublist (s.mail a)
    (Runs.observed (peerDataStep a) (fun s event => event.op a s) s events)
  rwa [hbox] at htaken

def handedOver : List PeerDataEvent :=
  [.store 0x20003F7E 7, .store 0x20003F7F 9, .svc 2 0x20003F7E, .peerDataGet 0x20000000,
    .peerDataGet 0x20000000]

theorem peerData_is_mailbox_handedOver : ∃ s' answers,
    Runs.run (peerDataStep smallArea) ⟨fun _ => 5, 0⟩ handedOver = some (s', answers) ∧
      answers = [some [7, 9, 5, 5], none] ∧ (answers.filterMap id).length ≤ 1 := by
  refine ⟨_, _, rfl, by decide, ?_⟩
  obtain ⟨-, htaken⟩ := peerData_is_mailbox smallArea ⟨fun _ => 5, 0⟩ handedOver (by decide) rfl
  exact Nat.le_trans (List.sublist_append_left ..).length_le htaken.length_le

end

end WaterBall
