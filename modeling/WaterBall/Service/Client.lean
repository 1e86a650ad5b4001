import WaterBall.Support.Region
import WaterBall.Service.Events

/-!
# The GATT client

`service_client.c`: finds the peer's service, reads its table of handles,
enables its indications and reads its configuration, each step from the
response to the one before.

Handlers give the calls they make beside the new state, those to the game
module included. The copies of received bytes go to variables of known size;
one that has a byte outside its variable is undefined. The results of the
SoftDevice calls are either passed over or checked; the model's SoftDevice
takes every call.
-/

namespace WaterBall

open Support

inductive ServiceClientState
  | init
  | ready
  | connecting
  | connected
  | error
  deriving DecidableEq, Repr

structure ServiceClient where
  state : ServiceClientState
  serviceHandle : UInt16
  connHandle : UInt16
  info : ServiceInfo
  serverScore : UInt32
  currentTime : UInt32
  gameTime : UInt32
  vibration : UInt32
  hole : UInt32
  targetScore : UInt32
  time : UInt32
  deriving DecidableEq

def serviceClientReset : ServiceClient where
  state := .init
  serviceHandle := 0
  connHandle := 0
  info := .zero
  serverScore := 0
  currentTime := 0
  gameTime := 0
  vibration := 0
  hole := 0
  targetScore := 0
  time := 0

inductive WriteOp
  | request
  | command
  deriving DecidableEq, Repr

inductive ClientCall
  | gattcPrimaryServicesDiscover (connHandle startHandle : UInt16)
  | gattcRead (connHandle handle offset : UInt16)
  | gattcWrite (connHandle : UInt16) (op : WriteOp) (handle : UInt16) (value : List UInt8)
  | gattcHvConfirm (connHandle handle : UInt16)
  | gapDisconnect (connHandle : UInt16)
  | gameSetState (state : UInt32)
  deriving DecidableEq

def serviceClientStartHandle : UInt16 := 1
def serviceInfoAttrOffset : Nat := 2

/-- `BLE_GATT_HVX_INDICATION`, as it is written to a configuration descriptor. -/
def bleGattHvxIndication : UInt16 := 2

-- ---------------------------------------------------------------------------
-- Calls
-- ---------------------------------------------------------------------------

def serviceClientInit (c : ServiceClient) : ServiceClient :=
  { c with connHandle := bleConnHandleInvalid, state := .init }

def serviceClientTasks (c : ServiceClient) : ServiceClient :=
  match c.state with
  | .init => { c with state := .ready }
  | _ => c

def serviceClientIsConnected (c : ServiceClient) : Bool := c.state == .connected

def serviceClientTryConnect (c : ServiceClient) : ServiceClient × List ClientCall :=
  if bleConnHandleInvalid = c.connHandle then (c, [])
  else
    ({ c with state := .connecting },
      [.gattcPrimaryServicesDiscover c.connHandle serviceClientStartHandle])

def serviceClientGetServerScore (c : ServiceClient) : UInt32 := c.serverScore
def serviceClientGetCurrentTime (c : ServiceClient) : UInt32 := c.currentTime
def serviceClientGetGameTime (c : ServiceClient) : UInt32 := c.gameTime
def serviceClientGetVibration (c : ServiceClient) : UInt32 := c.vibration
def serviceClientGetHole (c : ServiceClient) : UInt32 := c.hole
def serviceClientGetTargetScore (c : ServiceClient) : UInt32 := c.targetScore

def serviceClientWrite (c : ServiceClient) (op : WriteOp) (handle : UInt16)
    (value : List UInt8) : List ClientCall :=
  if value.length = 0 then [] else [.gattcWrite c.connHandle op handle value]

def serviceClientWriteClientScore (c : ServiceClient) (score : UInt32) : List ClientCall :=
  serviceClientWrite c .request c.info.clientScoreHandle (LittleEndian.wordBytes score)

-- ---------------------------------------------------------------------------
-- Events
-- ---------------------------------------------------------------------------

/-- A `memcpy` of `data` into a word, to the byte `start` of it. -/
def copyToWord (value : UInt32) (start : Nat) (data : List UInt8) : Option UInt32 :=
  (Region.copy (LittleEndian.wordBytes value) start data).map LittleEndian.word

def copyToInfo (info : ServiceInfo) (start : Nat) (data : List UInt8) : Option ServiceInfo :=
  (Region.copy info.bytes start data).map ServiceInfo.ofBytes

def serviceClientOnPrimSrvcDiscRsp (c : ServiceClient) (status : GattStatus)
    (startHandles : List UInt16) : ServiceClient × List ClientCall :=
  match status with
  | .success =>
    -- Save the handle and search again, to make sure to get the last one.
    match startHandles.getLast? with
    | none => (c, [])
    | some startHandle =>
      ({ c with serviceHandle := startHandle },
        [.gattcPrimaryServicesDiscover c.connHandle (startHandle + 1)])
  | .attributeNotFound =>
    if bleConnHandleInvalid ≠ c.serviceHandle then
      (c, [.gattcRead c.connHandle (c.serviceHandle + UInt16.ofNat serviceInfoAttrOffset) 0])
    else ({ c with state := .ready }, [])
  | .other => (c, [])

/-- The reads of the configuration are offset in words, since the pointer that
the offset is added to is one to a word. -/
def serviceClientOnReadRsp (c : ServiceClient) (handle offset : UInt16) (data : List UInt8) :
    Option (ServiceClient × List ClientCall) := do
  let (c, calls) ←
    if c.serviceHandle.toNat + serviceInfoAttrOffset = handle.toNat then do
      let info ← copyToInfo c.info offset.toNat data
      let c := { c with info }
      let value := LittleEndian.halfwordBytes bleGattHvxIndication
      pure (c, serviceClientWrite c .command (configHandle c.info.serverScoreHandle) value ++
        serviceClientWrite c .command (configHandle c.info.gameTimeHandle) value ++
        serviceClientWrite c .command (configHandle c.info.gameStateHandle) value ++
        [.gattcRead c.connHandle c.info.gameTimeHandle 0])
    else if c.info.gameTimeHandle = handle then do
      let gameTime ← copyToWord c.gameTime (4 * offset.toNat) data
      pure ({ c with gameTime }, [.gattcRead c.connHandle c.info.vibrationHandle 0])
    else if c.info.vibrationHandle = handle then do
      let vibration ← copyToWord c.vibration (4 * offset.toNat) data
      pure ({ c with vibration }, [.gattcRead c.connHandle c.info.holeHandle 0])
    else if c.info.holeHandle = handle then do
      let hole ← copyToWord c.hole (4 * offset.toNat) data
      pure ({ c with hole }, [.gattcRead c.connHandle c.info.targetScoreHandle 0])
    else if c.info.targetScoreHandle = handle then do
      let targetScore ← copyToWord c.targetScore (4 * offset.toNat) data
      pure ({ c with targetScore }, [])
    else pure (c, [])
  return ({ c with state := .connected }, calls)

/-- `uninit` is what the local variable for a received state starts with. -/
def serviceClientOnHvx (uninit : UInt32) (c : ServiceClient) (handle : UInt16) (type : HvxType)
    (data : List UInt8) : Option (ServiceClient × List ClientCall) := do
  let (c, calls) ←
    if handle = c.info.serverScoreHandle then do
      let serverScore ← copyToWord c.serverScore 0 data
      pure ({ c with serverScore }, [])
    else if handle = c.info.gameTimeHandle then do
      let time ← copyToWord c.time 0 data
      pure ({ c with time }, [])
    else if handle = c.info.gameStateHandle then do
      let state ← copyToWord uninit 0 data
      pure (c, [.gameSetState state])
    else pure (c, [])
  let confirm := if type = .indication then [.gattcHvConfirm c.connHandle handle] else []
  return (c, calls ++ confirm)

def serviceClientOnBleEvt (uninit : UInt32) (c : ServiceClient) :
    BleEvt → Option (ServiceClient × List ClientCall)
  | .gapConnected connHandle => some ({ c with connHandle }, [])
  | .gapDisconnected => some ({ c with connHandle := bleConnHandleInvalid, state := .ready }, [])
  | .gattcPrimSrvcDiscRsp status startHandles =>
    some (serviceClientOnPrimSrvcDiscRsp c status startHandles)
  | .gattcReadRsp handle offset data => serviceClientOnReadRsp c handle offset data
  | .gattcHvx handle type data => serviceClientOnHvx uninit c handle type data
  | .gattcTimeout => some (c, [.gapDisconnect c.connHandle])
  | _ => some (c, [])

theorem serviceClientOnBleEvt_discovery (uninit : UInt32) (c : ServiceClient) (status : GattStatus)
    (startHandles : List UInt16) :
    serviceClientOnBleEvt uninit c (.gattcPrimSrvcDiscRsp status startHandles) =
      some (serviceClientOnPrimSrvcDiscRsp c status startHandles) := rfl

end WaterBall
