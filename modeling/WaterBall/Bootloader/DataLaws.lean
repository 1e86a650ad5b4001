import WaterBall.Support.ServedQueue
import WaterBall.Bootloader.Transport

/-!
# What becomes of the data

Each packet that the update module takes waits in a block of the pool until it
is written. As long as the pool answers as it should, the image is what has
been taken, in the order of the packets and without the ones whose write
failed; a failed write costs the pool a block.
-/

namespace WaterBall

open Support

def rxBufQueueSize : Nat := 16

-- ---------------------------------------------------------------------------
-- Packets that are taken
-- ---------------------------------------------------------------------------

/-- What the pool promises: a block that it hands out is free and one of its
own, the packet that comes next is the one just stored, and a block that is in
use can be given back. -/
def PacketAnswers.Honest (t : DfuTransport) (data : List UInt8) (answers : PacketAnswers) : Prop :=
  match answers.rxProduce with
  | .error errCode => errCode ≠ nrfSuccess
  | .ok block => block ∉ t.pool.inUse ∧ block < rxBufQueueSize ∧
      answers.rxDataSizeSet = nrfSuccess ∧ answers.rxExtract = .ok (block, data.length) ∧
      answers.rxConsume = nrfSuccess

instance (t : DfuTransport) (data : List UInt8) :
    DecidablePred (PacketAnswers.Honest t data) := fun answers => by
  unfold PacketAnswers.Honest
  split <;> infer_instance

def DfuEvent.Honest (t : DfuTransport) : DfuEvent → Prop
  | .service (.packetWrite data _ answers) => answers.Honest t data
  | _ => True

instance (t : DfuTransport) : DecidablePred (DfuEvent.Honest t) := fun event => by
  unfold DfuEvent.Honest
  split <;> infer_instance

structure Packet where
  data : List UInt8
  block : RxBlock
  final : Bool
  deriving DecidableEq

def PacketAnswers.taken (data : List UInt8) (answers : PacketAnswers) : Option Packet :=
  match answers.rxProduce with
  | .error _ => none
  | .ok block =>
    if data.length % 4 ≠ 0 then none
    else if answers.pktHandle = nrfSuccess then some ⟨data, block, true⟩
    else if answers.pktHandle = nrfErrorInvalidLength then some ⟨data, block, false⟩
    else none

def DfuEvent.taken (t : DfuTransport) : DfuEvent → Option Packet
  | .service (.packetWrite data _ answers) =>
    if t.pktType = .firmwareData then answers.taken data else none
  | _ => none

def DfuEvent.written (t : DfuTransport) : DfuEvent → Option (RxBlock × Bool)
  | .flashed result _ _ _ => t.bank.queue.head?.map fun q => (q.1, result == nrfSuccess)
  | _ => none

def DfuCall.success : DfuCall → Bool := (· == .responseSend .receiveApp .success)

def DfuCall.receipt? : DfuCall → Option UInt32
  | .pktsRcptNotify numOfBytes => some numOfBytes
  | _ => none

def Quiet (calls : List DfuCall) : Prop :=
  calls.filter DfuCall.success = [] ∧ calls.filterMap DfuCall.receipt? = []

section
variable {t t' : DfuTransport}

theorem dfuResponseSend_eq_some (h : dfuResponseSend sent procedure respVal = some calls) :
    calls = [.responseSend procedure respVal] := by
  simp only [dfuResponseSend, Option.bind_eq_bind, Option.bind_eq_some_iff] at h
  obtain ⟨-, -, h⟩ := h
  exact (Option.some.inj h).symm

theorem nrfErrCodeTranslate_ne_success {errCode : UInt32} (h : errCode ≠ nrfSuccess)
    (procedure : DfuProcedure) : nrfErrCodeTranslate errCode procedure ≠ .success := by
  unfold nrfErrCodeTranslate
  rw [if_neg h]
  split_ifs <;> exact DfuRespVal.noConfusion

theorem quiet_response {procedure : DfuProcedure} {respVal : DfuRespVal}
    (h : procedure = .receiveApp → respVal ≠ .success) :
    Quiet [.responseSend procedure respVal] := by
  refine ⟨List.filter_eq_nil_iff.mpr fun call hcall => ?_, rfl⟩
  rw [List.mem_singleton.mp hcall]
  intro hsuccess
  cases eq_of_beq hsuccess
  exact h rfl rfl

theorem dfuErrorNotify_quiet (hcode : errCode ≠ nrfSuccess)
    (h : dfuErrorNotify sent errCode = some calls) : Quiet calls := by
  rw [dfuResponseSend_eq_some h]
  exact quiet_response fun _ => nrfErrCodeTranslate_ne_success hcode .receiveApp

theorem Quiet.append (h : Quiet calls) (h' : Quiet calls') : Quiet (calls ++ calls') := by
  constructor
  · rw [List.filter_append, h.1, h'.1, List.append_nil]
  · rw [List.filterMap_append, h.2, h'.2, List.append_nil]

def DfuTransport.produced (t : DfuTransport) (block : RxBlock) (data : List UInt8) :
    DfuTransport :=
  { t with pool :=
    { inUse := t.pool.inUse ++ [block]
      memory := Function.update t.pool.memory block
        (Region.splice (t.pool.memory block) 0 data) } }

theorem appDataProcess_refused (hhonest : answers.Honest t data)
    (htaken : answers.taken data = none) (h : appDataProcess t data answers = some (t', calls)) :
    (∃ memory, t' = { t with pool.memory := memory } ∧
      ∀ block ∈ t.pool.inUse, memory block = t.pool.memory block) ∧ Quiet calls := by
  have hkept : ∃ memory, t = { t with pool.memory := memory } ∧
      ∀ block ∈ t.pool.inUse, memory block = t.pool.memory block :=
    ⟨t.pool.memory, rfl, fun _ _ => rfl⟩
  unfold appDataProcess at h
  split at h
  case isTrue hwords =>
    obtain ⟨calls', hcalls, h⟩ := Option.bind_eq_some_iff.mp h
    cases h
    rw [dfuResponseSend_eq_some hcalls]
    exact ⟨hkept, quiet_response fun _ => DfuRespVal.noConfusion⟩
  case isFalse hwords =>
  unfold PacketAnswers.Honest at hhonest
  unfold PacketAnswers.taken at htaken
  split at h
  case h_1 errCode hproduce =>
    rw [hproduce] at hhonest
    obtain ⟨calls', hcalls, h⟩ := Option.bind_eq_some_iff.mp h
    cases h
    exact ⟨hkept, dfuErrorNotify_quiet hhonest hcalls⟩
  case h_2 block hproduce =>
    rw [hproduce] at hhonest htaken
    obtain ⟨hfresh, -, hsize, hextract, hconsume⟩ := hhonest
    dsimp only at h htaken
    rw [if_neg (not_not_intro hsize), hextract] at h
    dsimp only at h
    rw [if_neg hwords] at htaken
    split at htaken
    · cases htaken
    case isFalse hsuccess =>
    split at htaken
    · cases htaken
    case isFalse hmore =>
    rw [if_neg hsuccess, if_neg hmore, if_neg (not_not_intro hconsume)] at h
    obtain ⟨calls', hcalls, h⟩ := Option.bind_eq_some_iff.mp h
    cases h
    refine ⟨⟨(t.produced block data).pool.memory, ?_, fun b hb => ?_⟩, ?_⟩
    · have herase : (t.pool.inUse ++ [block]).erase block = t.pool.inUse := by
        rw [List.erase_append_right [block] hfresh, List.erase_cons_head, List.append_nil]
      rw [DfuTransport.consumed, herase]
      rfl
    · have hne : b ≠ block := fun heq => hfresh (heq ▸ hb)
      exact Function.update_of_ne hne ..
    · have hcall : Quiet [.dataPktHandle block (data.length / 4)] := ⟨rfl, rfl⟩
      exact hcall.append (dfuErrorNotify_quiet hsuccess hcalls)

theorem appDataProcess_taken (hhonest : answers.Honest t data)
    (htaken : answers.taken data = some p) (h : appDataProcess t data answers = some (t', calls)) :
    data.length % 4 = 0 ∧ p.data = data ∧ p.block ∉ t.pool.inUse ∧ p.block < rxBufQueueSize ∧
      let queued := (t.produced p.block data).queued p.block (data.length / 4) data.length
      if p.final then
        t' = { queued with finalPacket := some p.block } ∧
          calls = [.dataPktHandle p.block (data.length / 4)]
      else ∃ receipts, notifyReceipt queued answers.sent = some (t', receipts) ∧
        calls = .dataPktHandle p.block (data.length / 4) :: receipts := by
  unfold PacketAnswers.Honest at hhonest
  unfold PacketAnswers.taken at htaken
  unfold appDataProcess at h
  split at htaken
  · cases htaken
  case h_2 block hproduce =>
  rw [hproduce] at hhonest h
  obtain ⟨hfresh, hsmall, hsize, hextract, -⟩ := hhonest
  split at htaken
  · cases htaken
  case isFalse hwords =>
  dsimp only at h
  rw [if_neg hwords, if_neg (not_not_intro hsize), hextract] at h
  dsimp only at h
  refine ⟨Decidable.not_not.mp hwords, ?_⟩
  split at htaken
  case isTrue hsuccess =>
    cases htaken
    rw [if_pos hsuccess] at h
    cases h
    exact ⟨rfl, hfresh, hsmall, rfl, rfl⟩
  case isFalse hsuccess =>
  split at htaken
  case isTrue hmore =>
    cases htaken
    rw [if_neg hsuccess, if_pos hmore] at h
    obtain ⟨⟨t'', receipts⟩, hnotify, h⟩ := Option.bind_eq_some_iff.mp h
    cases h
    exact ⟨rfl, hfresh, hsmall, receipts, hnotify, rfl⟩
  case isFalse => cases htaken

theorem notifyReceipt_eq_some (h : notifyReceipt t sent = some (t', calls)) :
    if t.pktRcptNotifEnabled then
      if t.pktNotifTargetCnt - 1 = 0 then
        t' = { t with pktNotifTargetCnt := t.pktNotifTarget } ∧
          calls = [.pktsRcptNotify t.numOfFirmwareBytesRcvd]
      else t' = { t with pktNotifTargetCnt := t.pktNotifTargetCnt - 1 } ∧ calls = []
    else t' = t ∧ calls = [] := by
  unfold notifyReceipt at h
  split at h
  case isTrue henabled =>
    rw [if_pos henabled]
    dsimp only at h
    split at h
    case isTrue hlast =>
      rw [if_pos hlast]
      obtain ⟨-, -, h⟩ := Option.bind_eq_some_iff.mp h
      cases h
      exact ⟨rfl, rfl⟩
    case isFalse hmore =>
      rw [if_neg hmore]
      cases h
      exact ⟨rfl, rfl⟩
  case isFalse hdisabled =>
    rw [if_neg hdisabled]
    cases h
    exact ⟨rfl, rfl⟩

end

-- ---------------------------------------------------------------------------
-- What a step does to the data
-- ---------------------------------------------------------------------------

/-- The variables of the transfer. -/
structure DfuData where
  pool : RxPool
  bank : DfuBank
  numOfFirmwareBytesRcvd : UInt32
  finalPacket : Option RxBlock
  pktRcptNotifEnabled : Bool
  pktNotifTarget : UInt16
  pktNotifTargetCnt : UInt16

def DfuTransport.data (t : DfuTransport) : DfuData where
  pool := t.pool
  bank := t.bank
  numOfFirmwareBytesRcvd := t.numOfFirmwareBytesRcvd
  finalPacket := t.finalPacket
  pktRcptNotifEnabled := t.pktRcptNotifEnabled
  pktNotifTarget := t.pktNotifTarget
  pktNotifTargetCnt := t.pktNotifTargetCnt

section
variable {t t' : DfuTransport}

theorem quiet_nil : Quiet [] := ⟨rfl, rfl⟩

theorem dfuCheck_eq_some (h : dfuCheck errCode = some u) : errCode = nrfSuccess := by
  unfold dfuCheck appErrorCheckBool at h
  split at h
  case isTrue heq => exact eq_of_beq heq
  case isFalse => cases h

theorem sdBleGapAdvStart_success {g g' : Gap} (h : sdBleGapAdvStart g = (g', nrfSuccess)) :
    g' = { g with advertising := true } := by
  unfold sdBleGapAdvStart at h
  split at h
  · cases congrArg Prod.snd h
  · exact (congrArg Prod.fst h).symm

theorem sdBleGapAdvStop_success {g g' : Gap} (h : sdBleGapAdvStop g = (g', nrfSuccess)) :
    g.advertising = true ∧ g' = { g with advertising := false } := by
  unfold sdBleGapAdvStop at h
  split at h
  case isTrue hradio => exact ⟨hradio, (congrArg Prod.fst h).symm⟩
  · cases congrArg Prod.snd h

theorem advertisingStart_eq_some (h : advertisingStart t = some (t', calls)) :
    t.isAdvertising = true ∧ t' = t ∧ calls = [] ∨
      t.isAdvertising = false ∧ t' = { t with gap.advertising := true, isAdvertising := true } ∧
        calls = [.advStart (advParams t.blePeerData)] := by
  unfold advertisingStart at h
  split at h
  case isTrue hidle =>
    generalize hstart : sdBleGapAdvStart t.gap = started at h
    obtain ⟨gap, errCode⟩ := started
    obtain ⟨_, hcheck, h⟩ := Option.bind_eq_some_iff.mp h
    obtain ⟨rfl, rfl⟩ := Prod.mk.inj (Option.some.inj h)
    obtain rfl := dfuCheck_eq_some hcheck
    rw [sdBleGapAdvStart_success hstart]
    exact .inr ⟨Bool.not_eq_true' _ ▸ hidle, rfl, rfl⟩
  case isFalse hadvertises =>
    obtain ⟨rfl, rfl⟩ := Prod.mk.inj (Option.some.inj h)
    exact .inl ⟨Bool.not_eq_false _ ▸ fun hf => hadvertises (by rw [hf]; rfl), rfl, rfl⟩

theorem advertisingStop_eq_some (h : advertisingStop t = some (t', calls)) :
    t.isAdvertising = false ∧ t' = t ∧ calls = [] ∨
      t.isAdvertising = true ∧ t.gap.advertising = true ∧
        t' = { t with gap.advertising := false, isAdvertising := false } ∧ calls = [.advStop] := by
  unfold advertisingStop at h
  split at h
  case isTrue hadvertises =>
    generalize hstop : sdBleGapAdvStop t.gap = stopped at h
    obtain ⟨gap, errCode⟩ := stopped
    obtain ⟨_, hcheck, h⟩ := Option.bind_eq_some_iff.mp h
    obtain ⟨rfl, rfl⟩ := Prod.mk.inj (Option.some.inj h)
    obtain rfl := dfuCheck_eq_some hcheck
    obtain ⟨hradio, rfl⟩ := sdBleGapAdvStop_success hstop
    exact .inr ⟨hadvertises, hradio, rfl, rfl⟩
  case isFalse hidle =>
    obtain ⟨rfl, rfl⟩ := Prod.mk.inj (Option.some.inj h)
    exact .inl ⟨Bool.eq_false_iff.mpr hidle, rfl, rfl⟩

theorem advertisingStart_data (h : advertisingStart t = some (t', calls)) :
    t'.data = t.data ∧ Quiet calls := by
  obtain ⟨-, rfl, rfl⟩ | ⟨-, rfl, rfl⟩ := advertisingStart_eq_some h
  · exact ⟨rfl, quiet_nil⟩
  · exact ⟨rfl, rfl, rfl⟩

theorem advertisingStop_data (h : advertisingStop t = some (t', calls)) :
    t'.data = t.data ∧ Quiet calls := by
  obtain ⟨-, rfl, rfl⟩ | ⟨-, -, rfl, rfl⟩ := advertisingStop_eq_some h
  · exact ⟨rfl, quiet_nil⟩
  · exact ⟨rfl, rfl, rfl⟩

theorem dfuDisconnect_eq_some (h : dfuDisconnect t errCode = some calls) :
    calls = [.gapDisconnect t.connHandle] := by
  obtain ⟨-, -, h⟩ := Option.bind_eq_some_iff.mp h
  exact (Option.some.inj h).symm

theorem dfuTransportClose_cases (h : dfuTransportClose t sd = some (t', calls)) :
    t.isConnected = true ∧ t' = { t with tearDownInProgress := true } ∧
        calls = [.gapDisconnect t.connHandle] ∨
      t.isConnected = false ∧
        advertisingStop { t with tearDownInProgress := true } = some (t', calls) := by
  unfold dfuTransportClose at h
  dsimp only [Option.bind_eq_bind] at h
  split at h
  case isTrue hconnected =>
    refine .inl ⟨hconnected, ?_⟩
    obtain ⟨calls', hcalls, h⟩ := Option.bind_eq_some_iff.mp h
    simp only [Option.pure_def, Option.bind_some] at h
    obtain ⟨-, -, h⟩ := Option.bind_eq_some_iff.mp h
    cases h
    exact ⟨rfl, dfuDisconnect_eq_some hcalls⟩
  case isFalse hnot =>
    refine .inr ⟨Bool.eq_false_iff.mpr hnot, ?_⟩
    obtain ⟨r, hstop, h⟩ := Option.bind_eq_some_iff.mp h
    obtain ⟨-, -, h⟩ := Option.bind_eq_some_iff.mp h
    cases h
    exact hstop

theorem dfuTransportClose_data (h : dfuTransportClose t sd = some (t', calls)) :
    t'.data = t.data ∧ Quiet calls := by
  obtain ⟨-, rfl, rfl⟩ | ⟨-, hstop⟩ := dfuTransportClose_cases h
  · exact ⟨rfl, rfl, rfl⟩
  · have hdata := advertisingStop_data hstop
    exact hdata

theorem answered_data {answers : PacketAnswers} {call : DfuCall} (hcall : Quiet [call])
    (hprocedure : procedure ≠ .receiveApp)
    (h : (if answers.pktHandle ≠ nrfSuccess then
        (dfuResponseSend answers.sent procedure respVal).bind fun response =>
          some (t, call :: response)
      else some (t, [call])) = some (t', calls)) : t'.data = t.data ∧ Quiet calls := by
  split at h
  · obtain ⟨response, hresponse, h⟩ := Option.bind_eq_some_iff.mp h
    cases h
    rw [dfuResponseSend_eq_some hresponse]
    exact ⟨rfl, hcall.append (quiet_response fun heq => absurd heq hprocedure)⟩
  · cases h
    exact ⟨rfl, hcall⟩

theorem startDataProcess_data (h : startDataProcess t data answers = some (t', calls)) :
    t'.data = t.data ∧ Quiet calls := by
  unfold startDataProcess at h
  split at h
  · obtain ⟨calls', hcalls, h⟩ := Option.bind_eq_some_iff.mp h
    cases h
    rw [dfuResponseSend_eq_some hcalls]
    exact ⟨rfl, rfl, rfl⟩
  · exact answered_data (by exact ⟨rfl, rfl⟩) (by decide) h

theorem initDataProcess_data (h : initDataProcess t data beyond answers = some (t', calls)) :
    t'.data = t.data ∧ Quiet calls := by
  simp only [initDataProcess, Option.bind_eq_bind, Option.pure_def] at h
  split at h
  · obtain ⟨r, -, h⟩ := Option.bind_eq_some_iff.mp h
    exact answered_data (by exact ⟨rfl, rfl⟩) (by decide) h
  · obtain ⟨r, -, h⟩ := Option.bind_eq_some_iff.mp h
    exact answered_data (by exact ⟨rfl, rfl⟩) (by decide) h

theorem dfuOnBleEvt_disconnected (h : dfuOnBleEvt t sd .disconnected = some (t', calls)) :
    let t₁ := { t with directAdvCnt := appDirectedAdvTimeout }
    t.tearDownInProgress = true ∧ t' = { t₁ with connHandle := bleConnHandleInvalid } ∧
        calls = [] ∨
      t.tearDownInProgress = false ∧ ∃ t₂, advertisingStart t₁ = some (t₂, calls) ∧
        t' = { t₂ with connHandle := bleConnHandleInvalid } := by
  simp only [dfuOnBleEvt, Option.bind_eq_bind, Option.pure_def] at h
  obtain ⟨-, -, h⟩ := Option.bind_eq_some_iff.mp h
  split at h
  case isTrue hnot =>
    obtain ⟨⟨t₂, calls₂⟩, hstart, h⟩ := Option.bind_eq_some_iff.mp h
    cases h
    exact .inr ⟨Bool.not_eq_true' _ ▸ hnot, t₂, hstart, rfl⟩
  case isFalse htear =>
    cases h
    exact .inl ⟨Bool.not_eq_false _ ▸ fun hf => htear (by rw [hf]; rfl), rfl, rfl⟩

theorem dfuOnBleEvt_data (h : dfuOnBleEvt t sd evt = some (t', calls)) :
    t'.data = t.data ∧ Quiet calls := by
  cases evt with
  | connected role connHandle =>
    cases h
    exact ⟨rfl, quiet_nil⟩
  | disconnected =>
    obtain ⟨-, rfl, rfl⟩ | ⟨-, t₂, hstart, rfl⟩ := dfuOnBleEvt_disconnected h
    · exact ⟨rfl, quiet_nil⟩
    · have hdata := advertisingStart_data hstart
      exact hdata
  | timeout src =>
    simp only [dfuOnBleEvt] at h
    split at h
    · split at h
      · cases h
        exact ⟨rfl, rfl, rfl⟩
      · have hdata := advertisingStart_data h
        exact hdata
    · cases h
      exact ⟨rfl, quiet_nil⟩
  | advReport report =>
    cases h
    exact ⟨rfl, quiet_nil⟩

/-- The events that have to do with the transfer's variables. -/
def DfuEvent.transfers (t : DfuTransport) : DfuEvent → Bool
  | .service (.packetWrite _ _ _) => t.pktType == .firmwareData
  | .service (.pktRcptNotifEnabled _) => true
  | .service .pktRcptNotifDisabled => true
  | .flashed _ _ _ _ => true
  | _ => false

theorem onDfuEvt_data (hevt : DfuEvent.transfers t (.service evt) = false)
    (h : onDfuEvt t evt = some (t', calls)) : t'.data = t.data ∧ Quiet calls := by
  cases evt with
  | validate imageValidate sent =>
    obtain ⟨calls', hcalls, h⟩ := Option.bind_eq_some_iff.mp h
    cases h
    rw [dfuResponseSend_eq_some hcalls]
    exact ⟨rfl, rfl, rfl⟩
  | activateNReset sd imageActivate =>
    obtain ⟨⟨t₁, calls₁⟩, hclose, h⟩ := Option.bind_eq_some_iff.mp h
    cases h
    obtain ⟨hdata, hquiet⟩ := dfuTransportClose_data hclose
    refine ⟨hdata, hquiet.append ?_⟩
    split_ifs <;> exact ⟨rfl, rfl⟩
  | sysReset sd =>
    obtain ⟨⟨t₁, calls₁⟩, hclose, h⟩ := Option.bind_eq_some_iff.mp h
    cases h
    obtain ⟨hdata, hquiet⟩ := dfuTransportClose_data hclose
    exact ⟨hdata, hquiet.append ⟨rfl, rfl⟩⟩
  | start mode =>
    cases h
    exact ⟨rfl, quiet_nil⟩
  | receiveInitData complete initPktComplete sent =>
    unfold onDfuEvt at h
    dsimp only at h
    split at h
    · obtain ⟨calls', hcalls, h⟩ := Option.bind_eq_some_iff.mp h
      cases h
      rw [dfuResponseSend_eq_some hcalls]
      exact ⟨rfl, rfl, rfl⟩
    · cases h
      exact ⟨rfl, quiet_nil⟩
  | receiveAppData =>
    cases h
    exact ⟨rfl, quiet_nil⟩
  | packetWrite data beyond answers =>
    simp only [onDfuEvt, onDfuPktWrite] at h
    split at h
    · exact startDataProcess_data h
    · exact initDataProcess_data h
    case h_3 htype =>
      rw [DfuEvent.transfers, htype] at hevt
      cases hevt
    · cases h
      exact ⟨rfl, quiet_nil⟩
  | pktRcptNotifEnabled numOfPkts => cases hevt
  | pktRcptNotifDisabled => cases hevt
  | bytesReceivedSend sent =>
    obtain ⟨-, -, h⟩ := Option.bind_eq_some_iff.mp h
    cases h
    exact ⟨rfl, rfl, rfl⟩

theorem dfuStep_data (hevent : event.transfers t = false)
    (h : dfuStep t event = some (t', calls)) : t'.data = t.data ∧ Quiet calls := by
  cases event with
  | service evt => exact onDfuEvt_data hevent h
  | flashed result sd rxConsume sent => cases hevent
  | prepared result sent =>
    obtain ⟨calls', hcalls, h⟩ := Option.bind_eq_some_iff.mp h
    cases h
    rw [dfuResponseSend_eq_some hcalls]
    exact ⟨rfl, rfl, rfl⟩
  | deliver sd =>
    simp only [dfuStep] at h
    split at h
    · cases h
      exact ⟨rfl, quiet_nil⟩
    · have hdata := dfuOnBleEvt_data h
      exact hdata
  | gattsTimeout sd =>
    obtain ⟨calls', hcalls, h⟩ := Option.bind_eq_some_iff.mp h
    cases h
    rw [dfuDisconnect_eq_some hcalls]
    exact ⟨rfl, rfl, rfl⟩
  | close sd => exact dfuTransportClose_data h
  | air change =>
    cases h
    exact ⟨rfl, quiet_nil⟩

/-- A packet has been taken: it waits in a block that was free. -/
structure DataTaken (t : DfuTransport) (p : Packet) (t' : DfuTransport) (calls : List DfuCall) :
    Prop where
  words : p.data.length % 4 = 0
  fresh : p.block ∉ t.pool.inUse
  small : p.block < rxBufQueueSize
  pool : t'.pool = (t.produced p.block p.data).pool
  bank : t'.bank = { t.bank with queue := t.bank.queue ++ [(p.block, p.data.length / 4)] }
  rcvd : t'.numOfFirmwareBytesRcvd = t.numOfFirmwareBytesRcvd + UInt32.ofNat p.data.length
  final : t'.finalPacket = if p.final then some p.block else t.finalPacket
  silent : calls.filter DfuCall.success = []
  enabled : t'.pktRcptNotifEnabled = t.pktRcptNotifEnabled
  target : t'.pktNotifTarget = t.pktNotifTarget
  counted : (t'.pktNotifTargetCnt, calls.filterMap DfuCall.receipt?) =
    if p.final ∨ t.pktRcptNotifEnabled = false then (t.pktNotifTargetCnt, [])
    else if t.pktNotifTargetCnt - 1 = 0 then
      (t.pktNotifTarget, [t.numOfFirmwareBytesRcvd + UInt32.ofNat p.data.length])
    else (t.pktNotifTargetCnt - 1, [])

/-- A write has ended. Only after a good one the block is free again. -/
structure DataWritten (t : DfuTransport) (block : RxBlock) (packetLength : Nat)
    (rest : List (RxBlock × Nat)) (ok : Bool) (t' : DfuTransport) (calls : List DfuCall) :
    Prop where
  waited : t.bank.queue = (block, packetLength) :: rest
  pool : t'.pool = if ok then { t.pool with inUse := t.pool.inUse.erase block } else t.pool
  bank : t'.bank =
    { queue := rest
      image :=
        if ok then t.bank.image ++ (t.pool.memory block).take (4 * packetLength)
        else t.bank.image }
  rcvd : t'.numOfFirmwareBytesRcvd = t.numOfFirmwareBytesRcvd
  final : t'.finalPacket = t.finalPacket
  success : (calls.filter DfuCall.success).length =
    if ok ∧ t.finalPacket = some block then 1 else 0
  receipts : calls.filterMap DfuCall.receipt? = []
  counter : (t'.pktRcptNotifEnabled, t'.pktNotifTarget, t'.pktNotifTargetCnt) =
    (t.pktRcptNotifEnabled, t.pktNotifTarget, t.pktNotifTargetCnt)

/-- Is it a request for receipts, or for none? -/
def DfuEvent.setsReceipts : DfuEvent → Bool
  | .service (.pktRcptNotifEnabled _) => true
  | .service .pktRcptNotifDisabled => true
  | _ => false

structure DataKept (t : DfuTransport) (event : DfuEvent) (t' : DfuTransport)
    (calls : List DfuCall) : Prop where
  inUse : t'.pool.inUse = t.pool.inUse
  memory : ∀ block ∈ t.pool.inUse, t'.pool.memory block = t.pool.memory block
  bank : t'.bank = t.bank
  rcvd : t'.numOfFirmwareBytesRcvd = t.numOfFirmwareBytesRcvd
  final : t'.finalPacket = t.finalPacket
  quiet : Quiet calls
  counter : event.setsReceipts = false →
    (t'.pktRcptNotifEnabled, t'.pktNotifTarget, t'.pktNotifTargetCnt) =
      (t.pktRcptNotifEnabled, t.pktNotifTarget, t.pktNotifTargetCnt)

theorem DataKept.of_data (h : t'.data = t.data ∧ Quiet calls) : DataKept t event t' calls := by
  obtain ⟨hdata, hquiet⟩ := h
  simp only [DfuTransport.data, DfuData.mk.injEq] at hdata
  obtain ⟨hpool, hbank, hrcvd, hfinal, henabled, htarget, hcounter⟩ := hdata
  exact
    { inUse := congrArg RxPool.inUse hpool
      memory := fun block _ => by rw [hpool]
      bank := hbank
      rcvd := hrcvd
      final := hfinal
      quiet := hquiet
      counter := fun _ => by rw [henabled, htarget, hcounter] }

theorem appDataProcess_kept (hhonest : answers.Honest t data)
    (htaken : answers.taken data = none) (h : appDataProcess t data answers = some (t', calls)) :
    DataKept t event t' calls := by
  obtain ⟨⟨memory, rfl, hmemory⟩, hquiet⟩ := appDataProcess_refused hhonest htaken h
  exact
    { inUse := rfl
      memory := hmemory
      bank := rfl
      rcvd := rfl
      final := rfl
      quiet := hquiet
      counter := fun _ => rfl }

theorem DataTaken.of_queued (hwords : p.data.length % 4 = 0) (hfresh : p.block ∉ t.pool.inUse)
    (hsmall : p.block < rxBufQueueSize)
    (hqueued : t' =
      { (t.produced p.block p.data).queued p.block (p.data.length / 4) p.data.length with
        finalPacket := t'.finalPacket
        pktNotifTargetCnt := t'.pktNotifTargetCnt })
    (hfinal : t'.finalPacket = if p.final then some p.block else t.finalPacket)
    (hsilent : calls.filter DfuCall.success = [])
    (hcounted : (t'.pktNotifTargetCnt, calls.filterMap DfuCall.receipt?) =
      if p.final ∨ t.pktRcptNotifEnabled = false then (t.pktNotifTargetCnt, [])
      else if t.pktNotifTargetCnt - 1 = 0 then
        (t.pktNotifTarget, [t.numOfFirmwareBytesRcvd + UInt32.ofNat p.data.length])
      else (t.pktNotifTargetCnt - 1, [])) : DataTaken t p t' calls where
  words := hwords
  fresh := hfresh
  small := hsmall
  pool := (congrArg DfuTransport.pool hqueued :)
  bank := (congrArg DfuTransport.bank hqueued :)
  rcvd := (congrArg DfuTransport.numOfFirmwareBytesRcvd hqueued :)
  final := hfinal
  silent := hsilent
  enabled := (congrArg DfuTransport.pktRcptNotifEnabled hqueued :)
  target := (congrArg DfuTransport.pktNotifTarget hqueued :)
  counted := hcounted

theorem appDataProcess_dataTaken (hhonest : answers.Honest t data)
    (htaken : answers.taken data = some p) (h : appDataProcess t data answers = some (t', calls)) :
    DataTaken t p t' calls := by
  obtain ⟨hwords, rfl, hfresh, hsmall, hnext⟩ := appDataProcess_taken hhonest htaken h
  dsimp only at hnext
  split at hnext
  case isTrue hfinal =>
    obtain ⟨rfl, rfl⟩ := hnext
    exact .of_queued hwords hfresh hsmall rfl (if_pos hfinal).symm rfl
      (if_pos (Or.inl hfinal)).symm
  case isFalse hmore =>
    obtain ⟨receipts, hnotify, rfl⟩ := hnext
    have hreceipts := notifyReceipt_eq_some hnotify
    split at hreceipts
    case isTrue henabled =>
      have hcounts : ¬ (p.final = true ∨ t.pktRcptNotifEnabled = false) := by
        rintro (hfinal | hdisabled)
        · exact hmore hfinal
        · exact Bool.false_ne_true (hdisabled.symm.trans henabled)
      split at hreceipts
      case isTrue hlast =>
        obtain ⟨rfl, rfl⟩ := hreceipts
        exact .of_queued hwords hfresh hsmall rfl (if_neg hmore).symm rfl
          ((if_neg hcounts).trans (if_pos hlast)).symm
      case isFalse hgoes =>
        obtain ⟨rfl, rfl⟩ := hreceipts
        exact .of_queued hwords hfresh hsmall rfl (if_neg hmore).symm rfl
          ((if_neg hcounts).trans (if_neg hgoes)).symm
    case isFalse hdisabled =>
      obtain ⟨rfl, rfl⟩ := hreceipts
      exact .of_queued hwords hfresh hsmall rfl (if_neg hmore).symm rfl
        (if_pos (Or.inr (Bool.eq_false_iff.mpr hdisabled))).symm

theorem dfuCbData_written {bank : DfuBank} (hqueue : t.bank.queue = (block, packetLength) :: rest)
    (hbank : bank = t.bank.flash t.pool.memory block packetLength rest result)
    (h : dfuCbData { t with bank } result block sd rxConsume sent = some (t', calls)) :
    DataWritten t block packetLength rest (result == nrfSuccess) t' calls := by
  subst hbank
  unfold dfuCbData at h
  by_cases hresult : result = nrfSuccess
  case neg =>
    have hfail : (result == nrfSuccess) = false := beq_eq_false_iff_ne.mpr hresult
    have hdone : t' = { t with bank := ⟨rest, t.bank.image⟩ } ∧ Quiet calls := by
      rw [if_pos hresult, DfuBank.flash, if_neg hresult] at h
      split at h
      · obtain ⟨calls', hcalls, h⟩ := Option.bind_eq_some_iff.mp h
        cases h
        rw [dfuDisconnect_eq_some hcalls]
        exact ⟨rfl, rfl, rfl⟩
      · cases h
        exact ⟨rfl, quiet_nil⟩
    obtain ⟨rfl, hquiet⟩ := hdone
    rw [hfail]
    exact
      { waited := hqueue
        pool := rfl
        bank := rfl
        rcvd := rfl
        final := rfl
        success := by rw [hquiet.1]; rfl
        receipts := hquiet.2
        counter := rfl }
  case pos =>
    subst hresult
    have hdone : t' = { t with
          bank := ⟨rest, t.bank.image ++ (t.pool.memory block).take (4 * packetLength)⟩
          pool.inUse := t.pool.inUse.erase block } ∧
        calls =
          if t.finalPacket = some block then [.responseSend .receiveApp .success] else [] := by
      rw [if_neg (not_not_intro rfl), DfuBank.flash, if_pos rfl] at h
      obtain ⟨-, -, h⟩ := Option.bind_eq_some_iff.mp h
      dsimp only at h
      split at h
      case isTrue hfinal =>
        obtain ⟨calls', hcalls, h⟩ := Option.bind_eq_some_iff.mp h
        cases h
        rw [dfuResponseSend_eq_some hcalls]
        exact ⟨rfl, (if_pos hfinal).symm⟩
      case isFalse hother =>
        cases h
        exact ⟨rfl, (if_neg hother).symm⟩
    obtain ⟨rfl, rfl⟩ := hdone
    exact
      { waited := hqueue
        pool := rfl
        bank := rfl
        rcvd := rfl
        final := rfl
        success := by
          by_cases hfinal : t.finalPacket = some block
          · rw [if_pos hfinal, if_pos ⟨rfl, hfinal⟩]
            rfl
          · rw [if_neg hfinal, if_neg fun h => hfinal h.2]
            rfl
        receipts := by split_ifs <;> rfl
        counter := rfl }

theorem dfuStep_cases (hhonest : event.Honest t) (h : dfuStep t event = some (t', calls)) :
    (∃ p, event.taken t = some p ∧ event.written t = none ∧ DataTaken t p t' calls) ∨
    (∃ block packetLength rest ok, event.written t = some (block, ok) ∧ event.taken t = none ∧
      DataWritten t block packetLength rest ok t' calls) ∨
    (event.taken t = none ∧ event.written t = none ∧ DataKept t event t' calls) := by
  by_cases htransfers : event.transfers t = true
  case neg =>
    have hkept : DataKept t event t' calls :=
      .of_data (dfuStep_data (Bool.eq_false_iff.mpr htransfers) h)
    refine .inr (.inr ⟨?_, ?_, hkept⟩)
    · cases event with
      | service evt =>
        cases evt with
        | packetWrite data beyond answers =>
          exact if_neg fun htype => htransfers (beq_iff_eq.mpr htype)
        | _ => rfl
      | _ => rfl
    · cases event with
      | flashed => exact absurd rfl htransfers
      | _ => rfl
  case pos =>
  cases event with
  | service evt =>
    cases evt with
    | packetWrite data beyond answers =>
      have htype : t.pktType = .firmwareData := beq_iff_eq.mp htransfers
      have hprocess : appDataProcess t data answers = some (t', calls) := by
        simp only [dfuStep, onDfuEvt, onDfuPktWrite, htype] at h
        exact h
      have htaken : DfuEvent.taken t (.service (.packetWrite data beyond answers)) =
          answers.taken data := if_pos htype
      rw [htaken]
      cases hp : answers.taken data with
      | none => exact .inr (.inr ⟨rfl, rfl, appDataProcess_kept hhonest hp hprocess⟩)
      | some p => exact .inl ⟨p, rfl, rfl, appDataProcess_dataTaken hhonest hp hprocess⟩
    | pktRcptNotifEnabled numOfPkts =>
      cases h
      exact .inr (.inr ⟨rfl, rfl, rfl, fun _ _ => rfl, rfl, rfl, rfl, quiet_nil, nofun⟩)
    | pktRcptNotifDisabled =>
      cases h
      exact .inr (.inr ⟨rfl, rfl, rfl, fun _ _ => rfl, rfl, rfl, rfl, quiet_nil, nofun⟩)
    | _ => cases htransfers
  | flashed result sd rxConsume sent =>
    simp only [dfuStep] at h
    split at h
    case h_1 hqueue =>
      cases h
      refine .inr (.inr ⟨rfl, ?_, .of_data ⟨rfl, quiet_nil⟩⟩)
      rw [DfuEvent.written, hqueue]
      rfl
    case h_2 block packetLength rest hqueue =>
      refine .inr (.inl ⟨block, packetLength, rest, result == nrfSuccess, ?_, rfl,
        dfuCbData_written hqueue rfl h⟩)
      rw [DfuEvent.written, hqueue]
      rfl
  | _ => cases htransfers

end

def openTransport : DfuTransport :=
  { dfuTransportReset with
    isAdvertising := true
    gap := ⟨true, false, none, false, false, []⟩ }

theorem openTransport_start : dfuTransportUpdateStart dfuTransportReset none =
    some (openTransport, [.advStart (advParams none)]) := rfl

end WaterBall
