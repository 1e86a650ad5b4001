import WaterBall.Radio.Roles
import WaterBall.Pair.Wiring

/-!
# The application

`main.c` and `ble_evt_dispatch`: a device with its radio. The SoftDevice's
events wait in one queue, those of the link between those of the attribute
protocol, and each goes to the service first and then to the radio's modules,
one of which calls the service back.
-/

namespace WaterBall

open Support

-- ---------------------------------------------------------------------------
-- Events
-- ---------------------------------------------------------------------------

inductive StackEvt
  | gap (evt : GapEvt)
  | gatt (evt : BleEvt)
  deriving DecidableEq

def StackEvt.service : StackEvt → BleEvt
  | gap (.connected _ connHandle) => .gapConnected connHandle
  | gap .disconnected => .gapDisconnected
  | gap _ => .other
  | gatt evt => evt

def StackEvt.gapEvt : StackEvt → Option GapEvt
  | gap evt => some evt
  | gatt _ => none

-- ---------------------------------------------------------------------------
-- The application
-- ---------------------------------------------------------------------------

/-- The radio has the events of the link in a queue of its own, too. -/
structure Application where
  radio : Radio
  device : Device
  waiting : List StackEvt
  deriving DecidableEq

def applicationBoot (valueHandles : List UInt16) : Application where
  radio := radioBoot
  device := deviceBoot valueHandles
  waiting := []

/-- The calls that the radio's modules make into the service. -/
def serviceTake (d : Device) : List RadioCall → Device × List DeviceCall
  | [] => (d, [])
  | .serviceTryConnect :: rest =>
    let (d, calls) := serviceTryConnect d
    let (d, more) := serviceTake d rest
    (d, calls ++ more)

def stackDispatch (uninit : UInt32) (s : Application) (evt : StackEvt) :
    Option (Application × List DeviceCall) := do
  let (device, calls) ← serviceOnBleEvt uninit s.device evt.service
  match evt with
  | .gatt _ => return ({ s with device }, calls)
  | .gap evt =>
    let (radio, radioCalls) ← (bleEvtDispatch s.radio evt).toOption
    let (device, more) := serviceTake device radioCalls
    return ({ s with radio, device }, calls ++ more)

inductive ApplicationEvent
  | main (task : RadioTask)
  | storageResume (refusal : UInt32)
  | own (event : DeviceEvent)
  | air (change : GapChange)
  | gatt (evt : BleEvt)
  | deliver (uninit : UInt32)
  deriving DecidableEq

/-- Buttons come by an interrupt, also while the main loop waits for a store. -/
def DeviceEvent.inLoop : DeviceEvent → Bool
  | button _ _ => false
  | _ => true

def applicationStep (t : AppTimer) (s : Application) :
    ApplicationEvent → Option (Application × List DeviceCall)
  | .main task => do
    let (radio, _) ← radioRun s.radio (.main task)
    return ({ s with radio }, [])
  | .storageResume refusal => do
    let (radio, _) ← radioRun s.radio (.storageResume refusal)
    return ({ s with radio }, [])
  | .own event => do
    if event.inLoop && s.radio.storing.isSome then return (s, [])
    let (device, calls) ← deviceStep t s.device event
    return ({ s with device }, calls)
  | .air change =>
    let gap := gapStep s.radio.gap change
    let arrived := (gap.events.drop s.radio.gap.events.length).map .gap
    some ({ s with radio.gap := gap, waiting := s.waiting ++ arrived }, [])
  | .gatt evt => some ({ s with waiting := s.waiting ++ [.gatt evt] }, [])
  | .deliver uninit =>
    match s.waiting with
    | [] => some (s, [])
    | evt :: waiting =>
      let events := waiting.filterMap StackEvt.gapEvt
      stackDispatch uninit { s with waiting, radio.gap.events := events } evt

/-- Events of the attribute protocol, with handles that it allows. -/
def BleEvt.OfAttributes : BleEvt → Prop
  | gapConnected _ => False
  | gapDisconnected => False
  | gattcPrimSrvcDiscRsp _ startHandles => 0 ∉ startHandles
  | _ => True

def GapChange.connHandle : GapChange → Option UInt16
  | linkCentral connHandle => some connHandle
  | linkPeripheral connHandle => some connHandle
  | _ => none

/-- What can happen to a device that starts with BUTTON_1 pushed or not. The
radio's modules alone call `service_try_connect`, and the attribute protocol
needs a link. -/
def ApplicationEvent.Real (button1 : Bool) (s : Application) : ApplicationEvent → Prop
  | main task => RadioEvent.InLoop button1 s.radio (.main task)
  | own event => event.isOwn = true ∧ event ≠ .tryConnect
  | air change => bleConnHandleInvalid ∉ change.connHandle
  | gatt evt => evt.OfAttributes ∧ s.radio.gap.linked = true
  | storageResume _ => True
  | deliver _ => True

instance : DecidablePred BleEvt.OfAttributes
  | .gapConnected _ | .gapDisconnected => isFalse id
  | .gattcPrimSrvcDiscRsp _ startHandles => inferInstanceAs (Decidable (0 ∉ startHandles))
  | .gattcReadRsp .. | .gattcWriteRsp | .gattcHvx .. | .gattcTimeout | .gattsAuthorizeRead ..
  | .gattsAuthorizeWrite .. | .gattsAuthorizeInvalid | .gattsSysAttrMissing | .gattsHvc
  | .gattsTimeout | .other => isTrue trivial

instance (button1 : Bool) (s : Application) :
    (event : ApplicationEvent) → Decidable (event.Real button1 s)
  | .main task => inferInstanceAs (Decidable (RadioEvent.InLoop button1 s.radio (.main task)))
  | .own event => inferInstanceAs (Decidable (event.isOwn = true ∧ event ≠ .tryConnect))
  | .air change => inferInstanceAs (Decidable (bleConnHandleInvalid ∉ change.connHandle))
  | .gatt evt => inferInstanceAs (Decidable (evt.OfAttributes ∧ s.radio.gap.linked = true))
  | .storageResume _ | .deliver _ => isTrue trivial

end WaterBall
