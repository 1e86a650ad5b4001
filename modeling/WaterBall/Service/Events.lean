import WaterBall.Support.LittleEndian

/-!
# What server and client share

`service.h`: the characteristics' UUIDs and the table of their handles, which
the server fills and the client reads. And the events of the SoftDevice that
the two modules look at, with the fields they read.
-/

namespace WaterBall

open Support

def serviceInfoUuid : UInt16 := 0x10F0
def serviceServerScoreUuid : UInt16 := 0x15C0
def serviceClientScoreUuid : UInt16 := 0x25C0
def serviceGameStateUuid : UInt16 := 0x57A7
def serviceCurrentTimeUuid : UInt16 := 0xCE77
def serviceGameTimeUuid : UInt16 := 0x7100
def serviceVibrationUuid : UInt16 := 0x1BA7
def serviceHoleUuid : UInt16 := 0x401E
def serviceTargetScoreUuid : UInt16 := 0x7AE7

def configHandle (handle : UInt16) : UInt16 := handle + 1

def bleConnHandleInvalid : UInt16 := 0xFFFF

-- ---------------------------------------------------------------------------
-- The table of handles
-- ---------------------------------------------------------------------------

structure ServiceInfo where
  serverScoreHandle : UInt16
  clientScoreHandle : UInt16
  gameStateHandle : UInt16
  currentTimeHandle : UInt16
  gameTimeHandle : UInt16
  vibrationHandle : UInt16
  holeHandle : UInt16
  targetScoreHandle : UInt16
  deriving DecidableEq, Repr

def ServiceInfo.zero : ServiceInfo := ⟨0, 0, 0, 0, 0, 0, 0, 0⟩

/-- The table as it lies in memory and goes over the air. -/
def ServiceInfo.bytes (i : ServiceInfo) : List UInt8 :=
  LittleEndian.halfwordBytes i.serverScoreHandle ++
  (LittleEndian.halfwordBytes i.clientScoreHandle ++
  (LittleEndian.halfwordBytes i.gameStateHandle ++
  (LittleEndian.halfwordBytes i.currentTimeHandle ++
  (LittleEndian.halfwordBytes i.gameTimeHandle ++
  (LittleEndian.halfwordBytes i.vibrationHandle ++
  (LittleEndian.halfwordBytes i.holeHandle ++
    LittleEndian.halfwordBytes i.targetScoreHandle))))))

def ServiceInfo.ofBytes (bytes : List UInt8) : ServiceInfo where
  serverScoreHandle := LittleEndian.halfword bytes
  clientScoreHandle := LittleEndian.halfword (bytes.drop 2)
  gameStateHandle := LittleEndian.halfword (bytes.drop 4)
  currentTimeHandle := LittleEndian.halfword (bytes.drop 6)
  gameTimeHandle := LittleEndian.halfword (bytes.drop 8)
  vibrationHandle := LittleEndian.halfword (bytes.drop 10)
  holeHandle := LittleEndian.halfword (bytes.drop 12)
  targetScoreHandle := LittleEndian.halfword (bytes.drop 14)

@[simp] theorem ServiceInfo.length_bytes (i : ServiceInfo) : i.bytes.length = 16 := by
  simp [ServiceInfo.bytes]

@[simp] theorem ServiceInfo.ofBytes_bytes (i : ServiceInfo) : ServiceInfo.ofBytes i.bytes = i := by
  have hlast : ∀ value, LittleEndian.halfword (LittleEndian.halfwordBytes value) = value := by
    intro value
    simpa using LittleEndian.halfword_halfwordBytes value []
  simp [ServiceInfo.ofBytes, ServiceInfo.bytes, List.drop_append, List.drop_of_length_le, hlast]

-- ---------------------------------------------------------------------------
-- Events of the SoftDevice
-- ---------------------------------------------------------------------------

/-- The status of a response, as far as the code tells one from another. -/
inductive GattStatus
  | success
  | attributeNotFound
  | other
  deriving DecidableEq, Repr

/-- `BLE_GATT_HVX_INDICATION` and its sibling. -/
inductive HvxType
  | invalid
  | notification
  | indication
  deriving DecidableEq, Repr

inductive BleEvt
  | gapConnected (connHandle : UInt16)
  | gapDisconnected
  | gattcPrimSrvcDiscRsp (status : GattStatus) (startHandles : List UInt16)
  | gattcReadRsp (handle offset : UInt16) (data : List UInt8)
  | gattcWriteRsp
  | gattcHvx (handle : UInt16) (type : HvxType) (data : List UInt8)
  | gattcTimeout
  | gattsAuthorizeRead (uuid offset : UInt16)
  | gattsAuthorizeWrite (uuid : UInt16) (data beyond : List UInt8)
  | gattsAuthorizeInvalid
  | gattsSysAttrMissing
  | gattsHvc
  | gattsTimeout
  | other
  deriving DecidableEq, Repr

end WaterBall
