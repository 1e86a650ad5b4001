import WaterBall.Support.Region
import WaterBall.Service.Events

/-!
# The GATT server

`service_server.c`: nine characteristics, reached through a table of rows with
a read and a write callback each. Reads and writes are authorised one by one,
so every one of them ends in a callback.

Handlers give the calls they make to the SoftDevice beside the new state. The
SoftDevice takes a call (an indication may also be refused with
`NRF_ERROR_INVALID_STATE`, which is passed over); a busy one is asked again.
-/

namespace WaterBall

open Support

inductive ServiceServerState
  | init
  | ready
  | connecting
  | connected
  | error
  deriving DecidableEq, Repr

structure ServiceServer where
  state : ServiceServerState
  connHandle : UInt16
  info : ServiceInfo
  serverScore : UInt32
  clientScore : UInt32
  currentTime : UInt32
  gameState : UInt32
  gameTime : UInt32
  vibration : UInt32
  hole : UInt32
  targetScore : UInt32
  cycleCount : Nat
  deriving DecidableEq

def serviceServerReset : ServiceServer where
  state := .init
  connHandle := 0
  info := .zero
  serverScore := 0
  clientScore := 0
  currentTime := 0
  gameState := 0
  gameTime := 60000
  vibration := 1
  hole := 0xFFFFFFFF
  targetScore := 0
  cycleCount := 0

/-- A reply to an authorised read. The data is what the pointer it carries has
behind it, `none` where these bytes are not all of the value. -/
structure ReadReply where
  gattStatus : GattStatus
  update : Bool
  offset : UInt16
  len : UInt16
  data : Option (List UInt8)
  deriving DecidableEq

inductive ServerCall
  | gattsCharacteristicAdd (uuid : UInt16) (properties : UInt8) (cccd : Bool) (maxLen : Nat)
  | gattsHvx (connHandle handle : UInt16) (type : HvxType) (data : List UInt8)
  | gattsReplyRead (connHandle : UInt16) (reply : ReadReply)
  | gattsReplyWrite (connHandle : UInt16) (gattStatus : GattStatus) (update : Bool)
  | gattsSysAttrSet (connHandle : UInt16)
  | gapDisconnect (connHandle : UInt16)
  deriving DecidableEq

-- ---------------------------------------------------------------------------
-- Indications
-- ---------------------------------------------------------------------------

def serviceServerIsConnected (s : ServiceServer) : Bool := s.state == .connected

def serviceServerHvxSend (s : ServiceServer) (type : HvxType) (handle : UInt16)
    (value : List UInt8) : List ServerCall :=
  if s.connHandle = bleConnHandleInvalid then []
  else [.gattsHvx s.connHandle handle type value]

def serviceServerIndicateServerScore (s : ServiceServer) (score : UInt32) :
    ServiceServer × List ServerCall :=
  let s := { s with serverScore := score }
  (s, serviceServerHvxSend s .indication s.info.serverScoreHandle
    (LittleEndian.wordBytes s.serverScore))

def serviceServerIndicateGameTime (s : ServiceServer) (msRemaining : UInt32) : List ServerCall :=
  serviceServerHvxSend s .indication s.info.gameTimeHandle (LittleEndian.wordBytes msRemaining)

def serviceServerIndicateGameState (s : ServiceServer) (state : UInt32) : List ServerCall :=
  serviceServerHvxSend s .indication s.info.gameStateHandle (LittleEndian.wordBytes state)

-- ---------------------------------------------------------------------------
-- Reads
-- ---------------------------------------------------------------------------

def serviceServerReadRequestResponse (s : ServiceServer) (offset : UInt16) (value : List UInt8) :
    List ServerCall :=
  let len := UInt16.ofNat value.length - offset
  [.gattsReplyRead s.connHandle
    { gattStatus := .success
      update := true
      offset
      len
      data := Region.read value offset.toNat len.toNat }]

def serviceServerReadInfo (s : ServiceServer) (offset : UInt16) : ServiceServer × List ServerCall :=
  let calls := serviceServerReadRequestResponse s offset s.info.bytes
  ({ s with state := .connected }, calls)

/-- The read callbacks of the four-byte characteristics. -/
def serviceServerReadWord (value : ServiceServer → UInt32) (s : ServiceServer) (offset : UInt16) :
    ServiceServer × List ServerCall :=
  (s, serviceServerReadRequestResponse s offset (LittleEndian.wordBytes (value s)))

def serviceServerReadServerScore := serviceServerReadWord (·.serverScore)
def serviceServerReadClientScore := serviceServerReadWord (·.clientScore)
def serviceServerReadGameTime := serviceServerReadWord (·.gameTime)
def serviceServerReadVibration := serviceServerReadWord (·.vibration)
def serviceServerReadHole := serviceServerReadWord (·.hole)
def serviceServerReadCurrentTime := serviceServerReadWord (·.currentTime)
def serviceServerReadTargetScore := serviceServerReadWord (·.targetScore)
def serviceServerReadGameState := serviceServerReadWord (·.gameState)

-- ---------------------------------------------------------------------------
-- Writes
-- ---------------------------------------------------------------------------

def serviceServerWriteRequestResponse (s : ServiceServer) (gattStatus : GattStatus) :
    List ServerCall :=
  [.gattsReplyWrite s.connHandle gattStatus true]

/-- The write callbacks. They read a word at the data, undefined when the event
buffer ends before. -/
def serviceServerWriteWord (set : ServiceServer → UInt32 → ServiceServer) (s : ServiceServer)
    (data : List UInt8) : Option (ServiceServer × List ServerCall) := do
  let bytes ← Region.read data 0 4
  let s := set s (LittleEndian.word bytes)
  return (s, serviceServerWriteRequestResponse s .success)

def serviceServerWriteClientScore := serviceServerWriteWord fun s v => { s with clientScore := v }
def serviceServerWriteGameTime := serviceServerWriteWord fun s v => { s with gameTime := v }
def serviceServerWriteVibration := serviceServerWriteWord fun s v => { s with vibration := v }
def serviceServerWriteHole := serviceServerWriteWord fun s v => { s with hole := v }
def serviceServerWriteCurrentTime := serviceServerWriteWord fun s v => { s with currentTime := v }
def serviceServerWriteTargetScore := serviceServerWriteWord fun s v => { s with targetScore := v }

def serviceServerGetClientScore (s : ServiceServer) : UInt32 := s.clientScore
def serviceServerGetCurrentTime (s : ServiceServer) : UInt32 := s.currentTime
def serviceServerGetGameTime (s : ServiceServer) : UInt32 := s.gameTime
def serviceServerGetVibration (s : ServiceServer) : UInt32 := s.vibration
def serviceServerGetHole (s : ServiceServer) : UInt32 := s.hole
def serviceServerGetTargetScore (s : ServiceServer) : UInt32 := s.targetScore

-- ---------------------------------------------------------------------------
-- The table of characteristics
-- ---------------------------------------------------------------------------

def propertyRead : UInt8 := 0x02
def propertyWrite : UInt8 := 0x08
def propertyNotify : UInt8 := 0x10
def propertyIndicate : UInt8 := 0x20

/-- A row of the table; `characterHandle` puts the handle into the handle table. -/
structure ServiceServerCharacteristic where
  uuid : UInt16
  maxLength : Nat
  readCallback : Option (ServiceServer → UInt16 → ServiceServer × List ServerCall)
  writeCallback : Option (ServiceServer → List UInt8 → Option (ServiceServer × List ServerCall))
  characterHandle : Option (ServiceInfo → UInt16 → ServiceInfo)
  properties : UInt8

def characteristics : List ServiceServerCharacteristic :=
  [ { uuid := serviceInfoUuid, maxLength := 16
      readCallback := some serviceServerReadInfo
      writeCallback := none
      characterHandle := none
      properties := propertyRead },
    { uuid := serviceServerScoreUuid, maxLength := 4
      readCallback := some serviceServerReadServerScore
      writeCallback := none
      characterHandle := some fun i h => { i with serverScoreHandle := h }
      properties := propertyRead ||| propertyIndicate },
    { uuid := serviceClientScoreUuid, maxLength := 4
      readCallback := some serviceServerReadClientScore
      writeCallback := some serviceServerWriteClientScore
      characterHandle := some fun i h => { i with clientScoreHandle := h }
      properties := propertyRead ||| propertyWrite },
    { uuid := serviceGameStateUuid, maxLength := 4
      readCallback := some serviceServerReadGameState
      writeCallback := none
      characterHandle := some fun i h => { i with gameStateHandle := h }
      properties := propertyRead ||| propertyIndicate },
    { uuid := serviceCurrentTimeUuid, maxLength := 4
      readCallback := some serviceServerReadCurrentTime
      writeCallback := some serviceServerWriteCurrentTime
      characterHandle := some fun i h => { i with currentTimeHandle := h }
      properties := propertyRead ||| propertyWrite ||| propertyIndicate },
    { uuid := serviceGameTimeUuid, maxLength := 4
      readCallback := some serviceServerReadGameTime
      writeCallback := some serviceServerWriteGameTime
      characterHandle := some fun i h => { i with gameTimeHandle := h }
      properties := propertyRead ||| propertyWrite },
    { uuid := serviceVibrationUuid, maxLength := 4
      readCallback := some serviceServerReadVibration
      writeCallback := some serviceServerWriteVibration
      characterHandle := some fun i h => { i with vibrationHandle := h }
      properties := propertyRead ||| propertyWrite },
    { uuid := serviceHoleUuid, maxLength := 4
      readCallback := some serviceServerReadHole
      writeCallback := some serviceServerWriteHole
      characterHandle := some fun i h => { i with holeHandle := h }
      properties := propertyRead ||| propertyWrite },
    { uuid := serviceTargetScoreUuid, maxLength := 4
      readCallback := some serviceServerReadTargetScore
      writeCallback := some serviceServerWriteTargetScore
      characterHandle := some fun i h => { i with targetScoreHandle := h }
      properties := propertyRead ||| propertyWrite } ]

/-- The loop over the rows; the first with the UUID is taken. -/
def serviceServerGetCharacteristic (uuid : UInt16) : Option ServiceServerCharacteristic :=
  characteristics.find? fun characteristic => characteristic.uuid == uuid

/-- `valueHandle` is the handle that the SoftDevice gives the value. -/
def serviceServerCharacteristicAdd (s : ServiceServer)
    (characteristic : ServiceServerCharacteristic) (valueHandle : UInt16) :
    ServiceServer × List ServerCall :=
  let properties := characteristic.properties
  let cccd := properties &&& propertyNotify != 0 || properties &&& propertyIndicate != 0
  let info := match characteristic.characterHandle with
    | some setHandle => setHandle s.info valueHandle
    | none => s.info
  ({ s with info },
    [.gattsCharacteristicAdd characteristic.uuid properties cccd characteristic.maxLength])

def serviceServerInit (s : ServiceServer) (valueHandles : List UInt16) :
    ServiceServer × List ServerCall :=
  let s := { s with connHandle := bleConnHandleInvalid }
  let (s, calls) := (characteristics.zip valueHandles).foldl
    (fun (s, calls) (characteristic, valueHandle) =>
      let (s, added) := serviceServerCharacteristicAdd s characteristic valueHandle
      (s, calls ++ added))
    (s, [])
  ({ s with state := .init }, calls)

def maxConnectingCycles : Nat := 8

def serviceServerTasks (s : ServiceServer) : ServiceServer :=
  match s.state with
  | .init => { s with state := .ready }
  | .ready => { s with cycleCount := 0 }
  | .connecting =>
    let s := { s with cycleCount := s.cycleCount + 1 }
    if maxConnectingCycles < s.cycleCount then { s with state := .ready } else s
  | .connected => s
  | .error => s

-- ---------------------------------------------------------------------------
-- Events
-- ---------------------------------------------------------------------------

/-- An authorised read. A characteristic that cannot be read gets no reply. -/
def serviceServerAuthorizeRead (s : ServiceServer) (uuid offset : UInt16) :
    ServiceServer × List ServerCall :=
  match (serviceServerGetCharacteristic uuid).bind (·.readCallback) with
  | some readCallback => readCallback s offset
  | none => (s, [])

def serviceServerAuthorizeWrite (s : ServiceServer) (uuid : UInt16) (data : List UInt8) :
    Option (ServiceServer × List ServerCall) :=
  match (serviceServerGetCharacteristic uuid).bind (·.writeCallback) with
  | some writeCallback => writeCallback s data
  | none => some (s, [])

def serviceServerOnBleEvt (s : ServiceServer) : BleEvt → Option (ServiceServer × List ServerCall)
  | .gapConnected connHandle => some ({ s with connHandle }, [])
  | .gapDisconnected => some ({ s with connHandle := bleConnHandleInvalid, state := .ready }, [])
  | .gattsAuthorizeRead uuid offset => some (serviceServerAuthorizeRead s uuid offset)
  | .gattsAuthorizeWrite uuid data beyond => serviceServerAuthorizeWrite s uuid (data ++ beyond)
  | .gattsSysAttrMissing => some (s, [.gattsSysAttrSet s.connHandle])
  | .gattsTimeout => some (s, [.gapDisconnect s.connHandle])
  | _ => some (s, [])

theorem serviceServerOnBleEvt_read (s : ServiceServer) (uuid offset : UInt16) :
    serviceServerOnBleEvt s (.gattsAuthorizeRead uuid offset) =
      some (serviceServerAuthorizeRead s uuid offset) := rfl

theorem serviceServerOnBleEvt_write (s : ServiceServer) (uuid : UInt16) (data beyond : List UInt8) :
    serviceServerOnBleEvt s (.gattsAuthorizeWrite uuid data beyond) =
      serviceServerAuthorizeWrite s uuid (data ++ beyond) := rfl

end WaterBall
