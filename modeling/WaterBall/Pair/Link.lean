import WaterBall.Support.Runs
import WaterBall.Game.Device

/-!
# Two devices and their link

One device serves, the other is its client. Between them are two SoftDevices,
of which the model has what the modules see: the attribute table that answers
discoveries and reads, the two configuration descriptors that let indications
through, and a queue of messages for each direction. Messages stay in the air
for as long as the environment likes, and a disconnect loses them.
-/

namespace WaterBall

open Support

/-- A connection handle that the SoftDevice gives. -/
abbrev ConnHandle := {connHandle : UInt16 // connHandle ≠ bleConnHandleInvalid}

-- ---------------------------------------------------------------------------
-- The attribute table
-- ---------------------------------------------------------------------------

/-- The handles that the server's SoftDevice gives: `serviceHandle` for the
service, whose first value lies two behind it, and one for each other value. -/
structure Attributes where
  serviceHandle : UInt16
  info : ServiceInfo
  service_pos : 1 ≤ serviceHandle
  service_le : serviceHandle.toNat + serviceInfoAttrOffset < UInt16.size
  distinct : [serviceHandle + UInt16.ofNat serviceInfoAttrOffset, info.serverScoreHandle,
    info.clientScoreHandle, info.gameStateHandle, info.currentTimeHandle, info.gameTimeHandle,
    info.vibrationHandle, info.holeHandle, info.targetScoreHandle].Nodup

/-- A service at handle 16, its attributes one after another. -/
def attributesAt16 : Attributes where
  serviceHandle := 0x10
  info := ⟨0x14, 0x17, 0x19, 0x1C, 0x1F, 0x21, 0x23, 0x25⟩
  service_pos := by decide
  service_le := by decide
  distinct := by decide

section
variable (a : Attributes)

def Attributes.infoHandle : UInt16 := a.serviceHandle + UInt16.ofNat serviceInfoAttrOffset

def Attributes.valueHandles : List UInt16 :=
  [a.infoHandle, a.info.serverScoreHandle, a.info.clientScoreHandle, a.info.gameStateHandle,
    a.info.currentTimeHandle, a.info.gameTimeHandle, a.info.vibrationHandle, a.info.holeHandle,
    a.info.targetScoreHandle]

def Attributes.uuidAt (handle : UInt16) : Option UInt16 :=
  ((characteristics.zip a.valueHandles).find? fun row => row.2 == handle).map fun row => row.1.uuid

end

-- ---------------------------------------------------------------------------
-- Messages
-- ---------------------------------------------------------------------------

inductive ToServer
  | discover (startHandle : UInt16)
  | read (handle offset : UInt16)
  | writeRequest (handle : UInt16) (data : List UInt8)
  | writeCommand (handle : UInt16) (data : List UInt8)
  | confirm (handle : UInt16)
  deriving DecidableEq

inductive ToClient
  | services (status : GattStatus) (startHandles : List UInt16)
  | value (handle offset : UInt16) (data : List UInt8)
  | written
  | handleValue (handle : UInt16) (type : HvxType) (data : List UInt8)
  deriving DecidableEq

def DeviceCall.request : DeviceCall → Option ToServer
  | client (.gattcPrimaryServicesDiscover _ startHandle) => some (.discover startHandle)
  | client (.gattcRead _ handle offset) => some (.read handle offset)
  | client (.gattcWrite _ .request handle value) => some (.writeRequest handle value)
  | client (.gattcWrite _ .command handle value) => some (.writeCommand handle value)
  | client (.gattcHvConfirm _ handle) => some (.confirm handle)
  | _ => none

/-- The answer to a request for `handle`. -/
def DeviceCall.answer (handle : UInt16) : DeviceCall → Option ToClient
  | server (.gattsReplyRead _ reply) => reply.data.map (.value handle reply.offset)
  | server (.gattsReplyWrite _ _ _) => some .written
  | _ => none

def ToClient.event : ToClient → BleEvt
  | services status startHandles => .gattcPrimSrvcDiscRsp status startHandles
  | value handle offset data => .gattcReadRsp handle offset data
  | written => .gattcWriteRsp
  | handleValue handle type data => .gattcHvx handle type data

-- ---------------------------------------------------------------------------
-- The pair
-- ---------------------------------------------------------------------------

/-- `scoreConfig` and `stateConfig` are the configuration descriptors of the
server's score and of the game state. -/
structure Pair where
  server : Device
  client : Device
  linked : Bool
  scoreConfig : Bool
  stateConfig : Bool
  toServer : List ToServer
  toClient : List ToClient
  deriving DecidableEq

def Pair.unlinked (server client : Device) : Pair where
  server
  client
  linked := false
  scoreConfig := false
  stateConfig := false
  toServer := []
  toClient := []

def pairBoot (a : Attributes) (clientHandles : List UInt16) : Pair :=
  .unlinked (deviceBoot a.valueHandles) (deviceBoot clientHandles)

section
variable (a : Attributes) (p : Pair)

def Pair.configured (handle : UInt16) : Bool :=
  handle == a.info.serverScoreHandle && p.scoreConfig ||
    handle == a.info.gameStateHandle && p.stateConfig

/-- The message that a call of the server's makes; without a link or a client
that wants it, `NRF_ERROR_INVALID_STATE` and none. -/
def Pair.indication : DeviceCall → Option ToClient
  | .server (.gattsHvx _ handle type data) =>
    if p.linked ∧ p.configured a handle then some (.handleValue handle type data) else none
  | _ => none

def Pair.request (call : DeviceCall) : Option ToServer := if p.linked then call.request else none

def Pair.configure (handle : UInt16) (data : List UInt8) : Pair :=
  let enabled := LittleEndian.halfword data &&& bleGattHvxIndication != 0
  if handle = configHandle a.info.serverScoreHandle then { p with scoreConfig := enabled }
  else if handle = configHandle a.info.gameStateHandle then { p with stateConfig := enabled }
  else p

/-- A message arrives at the server. Error responses are not in the model. -/
def Pair.serve : ToServer → Option (Pair × List DeviceCall)
  | .discover startHandle =>
    let services := if startHandle ≤ a.serviceHandle then .services .success [a.serviceHandle]
      else .services .attributeNotFound []
    some ({ p with toClient := p.toClient ++ [services] }, [])
  | .read handle offset => do
    let uuid ← a.uuidAt handle
    let (server, calls) ← serviceOnBleEvt 0 p.server (.gattsAuthorizeRead uuid offset)
    let answers := calls.filterMap (DeviceCall.answer handle)
    return ({ p with server, toClient := p.toClient ++ answers }, calls)
  | .writeRequest handle data => do
    let uuid ← a.uuidAt handle
    let (server, calls) ← serviceOnBleEvt 0 p.server (.gattsAuthorizeWrite uuid data [])
    let answers := calls.filterMap (DeviceCall.answer handle)
    return ({ p with server, toClient := p.toClient ++ answers }, calls)
  | .writeCommand handle data => some (p.configure a handle data, [])
  | .confirm _ => do
    let (server, calls) ← serviceOnBleEvt 0 p.server .gattsHvc
    return ({ p with server }, calls)

end

-- ---------------------------------------------------------------------------
-- Steps
-- ---------------------------------------------------------------------------

inductive Side
  | server
  | client
  deriving DecidableEq, Repr

/-- Deliveries take the message at a place in the queue, 0 for the oldest. -/
inductive PairEvent
  | atServer (event : DeviceEvent)
  | atClient (event : DeviceEvent)
  | deliverToServer (place : Nat)
  | deliverToClient (place : Nat) (uninit : UInt32)
  | connect (serverConn clientConn : ConnHandle)
  | disconnect
  deriving DecidableEq

def pairStep (t : AppTimer) (a : Attributes) (p : Pair) :
    PairEvent → Option (Pair × List (Side × DeviceCall))
  | .atServer event => do
    let (server, calls) ← deviceStep t p.server event
    return ({ p with server, toClient := p.toClient ++ calls.filterMap (p.indication a) },
      calls.map (Side.server, ·))
  | .atClient event => do
    let (client, calls) ← deviceStep t p.client event
    return ({ p with client, toServer := p.toServer ++ calls.filterMap p.request },
      calls.map (Side.client, ·))
  | .deliverToServer place => do
    let message ← p.toServer[place]?
    let (p, calls) ← { p with toServer := p.toServer.eraseIdx place }.serve a message
    return (p, calls.map (Side.server, ·))
  | .deliverToClient place uninit => do
    let message ← p.toClient[place]?
    let (client, calls) ← serviceOnBleEvt uninit p.client message.event
    let toServer := p.toServer ++ calls.filterMap p.request
    return ({ p with client, toServer, toClient := p.toClient.eraseIdx place },
      calls.map (Side.client, ·))
  | .connect serverConn clientConn =>
    if p.linked then none
    else do
      let (server, serverCalls) ← serviceOnBleEvt 0 p.server (.gapConnected serverConn)
      let (client, clientCalls) ← serviceOnBleEvt 0 p.client (.gapConnected clientConn)
      return ({ p with server, client, linked := true },
        serverCalls.map (Side.server, ·) ++ clientCalls.map (Side.client, ·))
  | .disconnect =>
    if p.linked then do
      let (server, serverCalls) ← serviceOnBleEvt 0 p.server .gapDisconnected
      let (client, clientCalls) ← serviceOnBleEvt 0 p.client .gapDisconnected
      return (Pair.unlinked server client,
        serverCalls.map (Side.server, ·) ++ clientCalls.map (Side.client, ·))
    else none

end WaterBall
