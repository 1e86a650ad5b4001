import WaterBall.Support.Region
import WaterBall.Support.Runs
import WaterBall.Radio.Driver
import WaterBall.Bootloader.PeerData

/-!
# The transport of an update

`dfu_transport_ble_custom.c`: the peer writes requests and packets, the SDK's
update module puts the data of the packets into the flash, and the transport
answers the peer. Packets wait for the flash in blocks of the SDK's memory
pool, and the update module calls back when it is done with one.

What the SDK answers is in the events, and beside the module's variables stand
the SoftDevice's radio, the blocks that are in use with what they hold, and
the update module's queue with what it has written. A failed `APP_ERROR_CHECK`
resets the device.
-/

namespace WaterBall

open Support

def nrfErrorNotSupported : UInt32 := 6

def nrfErrorInvalidLength : UInt32 := 9

def nrfErrorDataSize : UInt32 := 12

inductive DfuProcedure
  | start
  | init
  | receiveApp
  | validate
  deriving DecidableEq, Repr

inductive DfuRespVal
  | success
  | invalidState
  | notSupported
  | dataSize
  | crcError
  | operFailed
  deriving DecidableEq, Repr

inductive PktType
  | invalid
  | start
  | init
  | firmwareData
  deriving DecidableEq, Repr

abbrev RxBlock := Nat

structure PeerData where
  addr : GapAddr
  irk : List UInt8
  deriving DecidableEq

inductive AdvFlags
  | limitedDisc
  | generalDisc
  | brEdrNotSupported
  deriving DecidableEq, Repr

inductive AdvType
  | ind
  | directInd
  deriving DecidableEq, Repr

inductive AdvFilter
  | any
  | connReq
  deriving DecidableEq, Repr

structure AdvParams where
  flags : AdvFlags
  type : AdvType
  peerAddr : Option GapAddr
  whitelist : Option PeerData
  filter : AdvFilter
  interval : UInt16
  timeout : UInt16
  deriving DecidableEq

inductive DfuCall
  | responseSend (procedure : DfuProcedure) (respVal : DfuRespVal)
  | pktsRcptNotify (numOfBytes : UInt32)
  | bytesRcvdReport (numOfBytes : UInt32)
  | startPktHandle (updateMode : UInt8) (sdImageSize blImageSize appImageSize : UInt32)
  | initPktHandle (data : List UInt8) (packetLength : Nat)
  | initPktComplete
  | dataPktHandle (block : RxBlock) (packetLength : Nat)
  | imageValidate
  | imageActivate
  | dfuReset
  | advStart (params : AdvParams)
  | advStop
  | gapDisconnect (connHandle : UInt16)
  | updateTimeout
  deriving DecidableEq

structure RxPool where
  inUse : List RxBlock
  memory : RxBlock → List UInt8

/-- The update module: the blocks that it has still to write, with their lengths in words, and
what it has written. `image` is the list of the good writes in their order, not the flash with
the offsets that they go to. -/
structure DfuBank where
  queue : List (RxBlock × Nat)
  image : List UInt8

/-- `m_ble_peer_data` counts only while it is valid. -/
structure DfuTransport where
  pktType : PktType
  updateMode : UInt8
  numOfFirmwareBytesRcvd : UInt32
  pktNotifTarget : UInt16
  pktNotifTargetCnt : UInt16
  tearDownInProgress : Bool
  pktRcptNotifEnabled : Bool
  connHandle : UInt16
  isAdvertising : Bool
  blePeerData : Option PeerData
  directAdvCnt : UInt32
  finalPacket : Option RxBlock
  gap : Gap
  pool : RxPool
  bank : DfuBank

def dfuCheck (errCode : UInt32) : Option Unit := appErrorCheckBool (errCode == nrfSuccess)

-- ---------------------------------------------------------------------------
-- Responses
-- ---------------------------------------------------------------------------

def nrfErrCodeTranslate (errCode : UInt32) (currentDfuProc : DfuProcedure) : DfuRespVal :=
  if errCode = nrfSuccess then .success
  else if errCode = nrfErrorInvalidState then .invalidState
  else if errCode = nrfErrorNotSupported then .notSupported
  else if errCode = nrfErrorDataSize then .dataSize
  else if errCode = nrfErrorInvalidData then
    if currentDfuProc = .validate then .crcError else .operFailed
  else .operFailed

def dfuResponseSend (sent : UInt32) (procedure : DfuProcedure) (respVal : DfuRespVal) :
    Option (List DfuCall) := do
  dfuCheck sent
  return [.responseSend procedure respVal]

def dfuErrorNotify (sent errCode : UInt32) : Option (List DfuCall) :=
  dfuResponseSend sent .receiveApp (nrfErrCodeTranslate errCode .receiveApp)

-- ---------------------------------------------------------------------------
-- Packets
-- ---------------------------------------------------------------------------

/-- The SDK's answers while a packet is processed: of the memory pool, of the
update module, and of the sending of responses, all of which are checked. -/
structure PacketAnswers where
  rxProduce : Except UInt32 RxBlock
  rxDataSizeSet : UInt32
  rxExtract : Except UInt32 (RxBlock × Nat)
  rxConsume : UInt32
  pktHandle : UInt32
  sent : UInt32

section
variable (t : DfuTransport) (data beyond : List UInt8) (answers : PacketAnswers)

def startDataProcess : Option (DfuTransport × List DfuCall) :=
  if data.length ≠ 12 then do
    return (t, ← dfuResponseSend answers.sent .start .notSupported)
  else do
    let call := .startPktHandle t.updateMode (LittleEndian.word data)
      (LittleEndian.word (data.drop 4)) (LittleEndian.word (data.drop 8))
    if answers.pktHandle ≠ nrfSuccess then
      let response ←
        dfuResponseSend answers.sent .start (nrfErrCodeTranslate answers.pktHandle .start)
      return (t, call :: response)
    return (t, [call])

/-- `p_data[pkt_length++] = 0`, as often as there is padding left. -/
def padPacket (buffer : List UInt8) (pktLength : UInt8) : Nat → Option (List UInt8 × UInt8)
  | 0 => some (buffer, pktLength)
  | padding + 1 => do
    let buffer ← Region.write buffer pktLength.toNat [0]
    padPacket buffer (pktLength + 1) padding

def initDataProcess : Option (DfuTransport × List DfuCall) := do
  let (buffer, len) ←
    if data.length % 4 ≠ 0 then do
      let (buffer, pktLength) ←
        padPacket (data ++ beyond) (UInt8.ofNat data.length) (4 - data.length % 4)
      pure (buffer, pktLength.toNat)
    else pure (data ++ beyond, data.length)
  let packetLength := len / 4
  let call := .initPktHandle (buffer.take (4 * packetLength)) packetLength
  if answers.pktHandle ≠ nrfSuccess then
    let response ← dfuResponseSend answers.sent .init (nrfErrCodeTranslate answers.pktHandle .init)
    return (t, call :: response)
  return (t, [call])

def notifyReceipt (sent : UInt32) : Option (DfuTransport × List DfuCall) :=
  if t.pktRcptNotifEnabled then
    let t := { t with pktNotifTargetCnt := t.pktNotifTargetCnt - 1 }
    if t.pktNotifTargetCnt = 0 then do
      dfuCheck sent
      return ({ t with pktNotifTargetCnt := t.pktNotifTarget },
        [.pktsRcptNotify t.numOfFirmwareBytesRcvd])
    else some (t, [])
  else some (t, [])

/-- `dfu_data_pkt_handle` has taken a block to write it. -/
def DfuTransport.queued (block : RxBlock) (packetLength length : Nat) : DfuTransport :=
  { t with
    bank.queue := t.bank.queue ++ [(block, packetLength)]
    numOfFirmwareBytesRcvd := t.numOfFirmwareBytesRcvd + UInt32.ofNat length }

def DfuTransport.consumed (block : RxBlock) : DfuTransport :=
  { t with pool.inUse := t.pool.inUse.erase block }

def appDataProcess : Option (DfuTransport × List DfuCall) :=
  if data.length % 4 ≠ 0 then do
    return (t, ← dfuResponseSend answers.sent .receiveApp .notSupported)
  else
    match answers.rxProduce with
    | .error errCode => do return (t, ← dfuErrorNotify answers.sent errCode)
    | .ok rxBuffer =>
      let t := { t with pool :=
        { inUse := t.pool.inUse ++ [rxBuffer]
          memory := Function.update t.pool.memory rxBuffer
            (Region.splice (t.pool.memory rxBuffer) 0 data) } }
      if answers.rxDataSizeSet ≠ nrfSuccess then do
        return (t, ← dfuErrorNotify answers.sent answers.rxDataSizeSet)
      else
        match answers.rxExtract with
        | .error errCode => do return (t, ← dfuErrorNotify answers.sent errCode)
        | .ok (rxBuffer, length) =>
          let packetLength := length / 4
          let call := .dataPktHandle rxBuffer packetLength
          if answers.pktHandle = nrfSuccess then
            -- The response is sent when the flash operation is completed.
            let t := t.queued rxBuffer packetLength data.length
            some ({ t with finalPacket := some rxBuffer }, [call])
          else if answers.pktHandle = nrfErrorInvalidLength then do
            let (t, calls) ← notifyReceipt (t.queued rxBuffer packetLength data.length) answers.sent
            return (t, call :: calls)
          else if answers.rxConsume ≠ nrfSuccess then do
            let refused ← dfuErrorNotify answers.sent answers.rxConsume
            return (t, call :: (refused ++ (← dfuErrorNotify answers.sent answers.pktHandle)))
          else do
            return (t.consumed rxBuffer,
              call :: (← dfuErrorNotify answers.sent answers.pktHandle))

def onDfuPktWrite : Option (DfuTransport × List DfuCall) :=
  match t.pktType with
  | .start => startDataProcess t data answers
  | .init => initDataProcess t data beyond answers
  | .firmwareData => appDataProcess t data answers
  | .invalid => some (t, [])

end

-- ---------------------------------------------------------------------------
-- Advertising
-- ---------------------------------------------------------------------------

def appAdvInterval : UInt16 := 40

def appDirectedAdvTimeout : UInt32 := 50

/-- To the peer that has handed over its address, to the one that has handed
over its key, or to everybody. -/
def advParams (blePeerData : Option PeerData) : AdvParams :=
  match blePeerData with
  | some peer =>
    if peer.irk = List.replicate 16 0 then
      { flags := .limitedDisc
        type := .directInd
        peerAddr := some peer.addr
        whitelist := none
        filter := .any
        interval := 0
        timeout := 0 }
    else
      { flags := .brEdrNotSupported
        type := .ind
        peerAddr := none
        whitelist := some peer
        filter := .connReq
        interval := appAdvInterval
        timeout := 0 }
  | none =>
    { flags := .generalDisc
      type := .ind
      peerAddr := none
      whitelist := none
      filter := .any
      interval := appAdvInterval
      timeout := 0 }

section
variable (t : DfuTransport)

def DfuTransport.isConnected : Bool := t.connHandle != bleConnHandleInvalid

def advertisingStart : Option (DfuTransport × List DfuCall) :=
  if !t.isAdvertising then do
    let (gap, errCode) := sdBleGapAdvStart t.gap
    dfuCheck errCode
    return ({ t with gap, isAdvertising := true }, [.advStart (advParams t.blePeerData)])
  else some (t, [])

def advertisingStop : Option (DfuTransport × List DfuCall) :=
  if t.isAdvertising then do
    let (gap, errCode) := sdBleGapAdvStop t.gap
    dfuCheck errCode
    return ({ t with gap, isAdvertising := false }, [.advStop])
  else some (t, [])

def dfuDisconnect (errCode : UInt32) : Option (List DfuCall) := do
  dfuCheck errCode
  return [.gapDisconnect t.connHandle]

/-- `sd` is what the disconnect and `ble_conn_params_stop` return. -/
def dfuTransportClose (sd : UInt32) : Option (DfuTransport × List DfuCall) := do
  let t := { t with tearDownInProgress := true }
  let (t, calls) ←
    if t.isConnected then do
      pure (t, ← dfuDisconnect t sd)
    else advertisingStop t
  dfuCheck sd
  return (t, calls)

def dfuTransportReset : DfuTransport where
  pktType := .invalid
  updateMode := 0
  numOfFirmwareBytesRcvd := 0
  pktNotifTarget := 0
  pktNotifTargetCnt := 0
  tearDownInProgress := false
  pktRcptNotifEnabled := false
  connHandle := bleConnHandleInvalid
  isAdvertising := false
  blePeerData := none
  directAdvCnt := appDirectedAdvTimeout
  finalPacket := none
  gap := ⟨false, false, none, false, false, []⟩
  pool := ⟨[], fun _ => []⟩
  bank := ⟨[], []⟩

/-- With the peer's data when there are any. The calls that set the SoftDevice
up are always the same. -/
def dfuTransportUpdateStart (blePeerData : Option PeerData) :
    Option (DfuTransport × List DfuCall) :=
  advertisingStart
    { t with
      tearDownInProgress := false
      pktType := .invalid
      blePeerData := blePeerData.or t.blePeerData }

-- ---------------------------------------------------------------------------
-- Requests and callbacks
-- ---------------------------------------------------------------------------

inductive DfuEvt
  | validate (imageValidate sent : UInt32)
  | activateNReset (sd imageActivate : UInt32)
  | sysReset (sd : UInt32)
  | start (mode : UInt8)
  | receiveInitData (complete : Bool) (initPktComplete sent : UInt32)
  | receiveAppData
  | packetWrite (data beyond : List UInt8) (answers : PacketAnswers)
  | pktRcptNotifEnabled (numOfPkts : UInt16)
  | pktRcptNotifDisabled
  | bytesReceivedSend (sent : UInt32)

def onDfuEvt : DfuEvt → Option (DfuTransport × List DfuCall)
  | .validate imageValidate sent => do
    let response ← dfuResponseSend sent .validate (nrfErrCodeTranslate imageValidate .validate)
    return (t, .imageValidate :: response)
  | .activateNReset sd imageActivate => do
    let (t, calls) ← dfuTransportClose t sd
    let reset := if imageActivate ≠ nrfSuccess then [.dfuReset] else []
    return (t, calls ++ .imageActivate :: reset)
  | .sysReset sd => do
    let (t, calls) ← dfuTransportClose t sd
    return (t, calls ++ [.dfuReset])
  | .start mode => some ({ t with pktType := .start, updateMode := mode }, [])
  | .receiveInitData complete initPktComplete sent =>
    let t := { t with pktType := .init }
    if complete then do
      let response ← dfuResponseSend sent .init (nrfErrCodeTranslate initPktComplete .init)
      return (t, .initPktComplete :: response)
    else some (t, [])
  | .receiveAppData => some ({ t with pktType := .firmwareData }, [])
  | .packetWrite data beyond answers => onDfuPktWrite t data beyond answers
  | .pktRcptNotifEnabled numOfPkts =>
    some ({ t with
      pktRcptNotifEnabled := true
      pktNotifTarget := numOfPkts
      pktNotifTargetCnt := numOfPkts }, [])
  | .pktRcptNotifDisabled =>
    some ({ t with pktRcptNotifEnabled := false, pktNotifTarget := 0 }, [])
  | .bytesReceivedSend sent => do
    dfuCheck sent
    return (t, [.bytesRcvdReport t.numOfFirmwareBytesRcvd])

/-- `DATA_PACKET`: the block at `pData` has been written, or could not be. -/
def dfuCbData (result : UInt32) (pData : RxBlock) (sd rxConsume sent : UInt32) :
    Option (DfuTransport × List DfuCall) :=
  if result ≠ nrfSuccess then
    if t.isConnected then do return (t, ← dfuDisconnect t sd) else some (t, [])
  else do
    dfuCheck rxConsume
    let t := t.consumed pData
    if t.finalPacket = some pData then
      return (t, ← dfuResponseSend sent .receiveApp .success)
    return (t, [])

def dfuCbStart (result sent : UInt32) : Option (DfuTransport × List DfuCall) := do
  return (t, ← dfuResponseSend sent .start (nrfErrCodeTranslate result .start))

/-- The event that the radio has delivered. `sd` is what reading the system
attributes returns. -/
def dfuOnBleEvt (sd : UInt32) : GapEvt → Option (DfuTransport × List DfuCall)
  | .connected _ connHandle => some ({ t with connHandle, isAdvertising := false }, [])
  | .disconnected => do
    let t := { t with directAdvCnt := appDirectedAdvTimeout }
    dfuCheck sd
    let (t, calls) ← if !t.tearDownInProgress then advertisingStart t else pure (t, [])
    return ({ t with connHandle := bleConnHandleInvalid }, calls)
  | .timeout src =>
    if src = .advertising then
      let t := { t with isAdvertising := false, directAdvCnt := t.directAdvCnt - 1 }
      if t.directAdvCnt = 0 then some (t, [.updateTimeout]) else advertisingStart t
    else some (t, [])
  | .advReport _ => some (t, [])

-- ---------------------------------------------------------------------------
-- Steps
-- ---------------------------------------------------------------------------

/-- What happens in a bootloader: an event of the service, the end of the
update module's next write or of its preparations, an event that the radio
delivers, one of the ATT protocol's time-outs, and what the radio does. -/
inductive DfuEvent
  | service (evt : DfuEvt)
  | flashed (result sd rxConsume sent : UInt32)
  | prepared (result sent : UInt32)
  | deliver (sd : UInt32)
  | gattsTimeout (sd : UInt32)
  | close (sd : UInt32)
  | air (change : GapChange)

def DfuBank.flash (bank : DfuBank) (memory : RxBlock → List UInt8) (block : RxBlock)
    (packetLength : Nat) (rest : List (RxBlock × Nat)) (result : UInt32) : DfuBank where
  queue := rest
  image :=
    if result = nrfSuccess then bank.image ++ (memory block).take (4 * packetLength)
    else bank.image

def dfuStep : DfuEvent → Option (DfuTransport × List DfuCall)
  | .service evt => onDfuEvt t evt
  | .flashed result sd rxConsume sent =>
    match t.bank.queue with
    | [] => some (t, [])
    | (block, packetLength) :: rest =>
      let bank := t.bank.flash t.pool.memory block packetLength rest result
      dfuCbData { t with bank } result block sd rxConsume sent
  | .prepared result sent => dfuCbStart t result sent
  | .deliver sd =>
    match t.gap.events with
    | [] => some (t, [])
    | evt :: events => dfuOnBleEvt { t with gap.events := events } sd evt
  | .gattsTimeout sd => do return (t, ← dfuDisconnect t sd)
  | .close sd => dfuTransportClose t sd
  | .air change => some ({ t with gap := gapStep t.gap change }, [])

end

end WaterBall
