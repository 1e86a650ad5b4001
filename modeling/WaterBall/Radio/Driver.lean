import WaterBall.Service.Events
import WaterBall.Storage.Driver

/-!
# The radio

`status.c`, `advertise.c`, `discovery.c` and `connect.c`: four status bits say
what the radio does, and the modules set and clear them beside their calls to
the SoftDevice and in the handlers of its events.

The SoftDevice is modelled by what it does (`Gap`) and the events that it has
not delivered yet. A failed `APP_ERROR_CHECK` resets the device and is `error`
with the call that failed; calls whose result the code passes over leave the
SoftDevice alone when they fail.

A function or a handler runs to its end before the next event is delivered,
but for a store, which waits for the flash. The SoftDevice goes on between two
functions, and in `connect_cancel` also between the flag's test and the call:
what it does there is `meanwhile`, nothing unless a list is given.
-/

namespace WaterBall

-- ---------------------------------------------------------------------------
-- Status bits
-- ---------------------------------------------------------------------------

inductive Status
  | connected
  | advertising
  | discovering
  | connecting
  deriving DecidableEq, Repr

def Status.mask : Status → UInt32
  | connected => 0x01
  | advertising => 0x02
  | discovering => 0x04
  | connecting => 0x08

def statusSet (bits status : UInt32) : UInt32 := bits ||| status

def statusClear (bits status : UInt32) : UInt32 := bits &&& ~~~status

def statusIsSet (bits status : UInt32) : Bool := bits &&& status != 0

def statusIsClear (bits status : UInt32) : Bool := !statusIsSet bits status

-- ---------------------------------------------------------------------------
-- The SoftDevice
-- ---------------------------------------------------------------------------

inductive GapRole
  | invalid
  | periph
  | central
  deriving DecidableEq, Repr

inductive TimeoutSrc
  | advertising
  | securityRequest
  | scan
  | conn
  deriving DecidableEq, Repr

structure GapAddr where
  addrType : UInt8
  addr : Vector UInt8 6
  deriving DecidableEq

abbrev bleGapAdvMaxSize : Nat := 31

/-- The payload is the first `dlen` bytes at `data`, and `beyond` is what lies
behind them in the event buffer, which is long enough for every comparison. -/
structure AdvReport where
  peerAddr : GapAddr
  payload : List UInt8
  beyond : List UInt8
  dlen_le : payload.length ≤ bleGapAdvMaxSize
  le_length : bleGapAdvMaxSize + 15 ≤ (payload ++ beyond).length
  deriving DecidableEq

/-- The events that the four modules look at, with the fields they read. -/
inductive GapEvt
  | connected (role : GapRole) (connHandle : UInt16)
  | disconnected
  | timeout (src : TimeoutSrc)
  | advReport (report : AdvReport)
  deriving DecidableEq

/-- What the radio does, and the events that wait. `connecting` is the peer of
the pending attempt. -/
structure Gap where
  advertising : Bool
  scanning : Bool
  connecting : Option GapAddr
  centralLink : Bool
  peripheralLink : Bool
  events : List GapEvt
  deriving DecidableEq

def nrfErrorInvalidState : UInt32 := 8

/-- There is room for one link in each role. -/
def sdBleGapAdvStart (g : Gap) : Gap × UInt32 :=
  if g.advertising || g.peripheralLink then (g, nrfErrorInvalidState)
  else ({ g with advertising := true }, nrfSuccess)

def sdBleGapAdvStop (g : Gap) : Gap × UInt32 :=
  if g.advertising then ({ g with advertising := false }, nrfSuccess)
  else (g, nrfErrorInvalidState)

/-- `refusal` is the error that the call may return though it is legal. -/
def sdBleGapScanStart (g : Gap) (refusal : UInt32) : Gap × UInt32 :=
  if g.scanning || g.connecting.isSome then (g, nrfErrorInvalidState)
  else if refusal != nrfSuccess then (g, refusal)
  else ({ g with scanning := true }, nrfSuccess)

def sdBleGapScanStop (g : Gap) : Gap × UInt32 :=
  if g.scanning then ({ g with scanning := false }, nrfSuccess)
  else (g, nrfErrorInvalidState)

/-- An attempt takes the place of a scan. -/
def sdBleGapConnect (g : Gap) (address : GapAddr) : Gap × UInt32 :=
  if g.connecting.isSome || g.centralLink then (g, nrfErrorInvalidState)
  else ({ g with connecting := some address, scanning := false }, nrfSuccess)

def sdBleGapConnectCancel (g : Gap) : Gap × UInt32 :=
  if g.connecting.isSome then ({ g with connecting := none }, nrfSuccess)
  else (g, nrfErrorInvalidState)

/-- What the SoftDevice does on its own. -/
inductive GapChange
  | report (report : AdvReport)
  | linkCentral (connHandle : UInt16)
  | linkPeripheral (connHandle : UInt16)
  | unlinkCentral
  | unlinkPeripheral
  | timeout (src : TimeoutSrc)
  deriving DecidableEq

def Gap.queue (g : Gap) (evt : GapEvt) : Gap := { g with events := g.events ++ [evt] }

/-- A link ends the advertising or the attempt that it comes from, and a timeout
what it is about. A change that cannot be leaves all as it is. -/
def gapStep (g : Gap) : GapChange → Gap
  | .report report => if g.scanning then g.queue (.advReport report) else g
  | .linkCentral connHandle =>
    if g.connecting.isSome then
      { g with connecting := none, centralLink := true }.queue (.connected .central connHandle)
    else g
  | .linkPeripheral connHandle =>
    if g.advertising then
      { g with advertising := false, peripheralLink := true }.queue (.connected .periph connHandle)
    else g
  | .unlinkCentral =>
    if g.centralLink then { g with centralLink := false }.queue .disconnected else g
  | .unlinkPeripheral =>
    if g.peripheralLink then { g with peripheralLink := false }.queue .disconnected else g
  | .timeout src =>
    match src with
    | .advertising =>
      if g.advertising then { g with advertising := false }.queue (.timeout .advertising) else g
    | .scan => if g.scanning then { g with scanning := false }.queue (.timeout .scan) else g
    | .conn =>
      if g.connecting.isSome then { g with connecting := none }.queue (.timeout .conn) else g
    | .securityRequest => g.queue (.timeout .securityRequest)

-- ---------------------------------------------------------------------------
-- The modules' state
-- ---------------------------------------------------------------------------

inductive AdvertiseState
  | init
  | ready
  | advertising
  | error
  deriving DecidableEq, Repr

inductive DiscoveryState
  | init
  | ready
  | discovering
  | error
  deriving DecidableEq, Repr

inductive ConnectState
  | init
  | ready
  | error
  deriving DecidableEq, Repr

/-- The static variables of the modules with the SoftDevice. `storing` is set
while `storage_update_value` waits for the flash: it is `was_discovering`. -/
structure Radio where
  status : UInt32
  role : GapRole
  advertiseState : AdvertiseState
  discoveryState : DiscoveryState
  connectState : ConnectState
  connHandle : UInt16
  storing : Option Bool
  gap : Gap
  deriving DecidableEq

inductive GapCall
  | advStart
  | connect
  | connectCancel
  deriving DecidableEq, Repr

inductive RadioCall
  | serviceTryConnect
  deriving DecidableEq, Repr

abbrev Checked := Except GapCall

def appErrorCheck (call : GapCall) (errCode : UInt32) : Checked Unit :=
  if errCode != nrfSuccess then .error call else .ok ()

section
variable (r : Radio)

def Radio.isConnected : Bool := statusIsSet r.status Status.connected.mask

def Radio.isAdvertising : Bool := statusIsSet r.status Status.advertising.mask

def Radio.isDiscovering : Bool := statusIsSet r.status Status.discovering.mask

def Radio.isConnecting : Bool := statusIsSet r.status Status.connecting.mask

def Radio.isIdle : Bool :=
  statusIsClear r.status (Status.connected.mask ||| Status.advertising.mask |||
    Status.discovering.mask ||| Status.connecting.mask)

def Radio.isCentral : Bool := r.role == .central

def Radio.statusSet (s : Status) : Radio := { r with status := WaterBall.statusSet r.status s.mask }

def Radio.statusClear (s : Status) : Radio :=
  { r with status := WaterBall.statusClear r.status s.mask }

end

-- ---------------------------------------------------------------------------
-- Advertising
-- ---------------------------------------------------------------------------

def advertiseInit (r : Radio) : Radio := { r with advertiseState := .init }

def advertiseAdvertise (r : Radio) : Checked (Bool × Radio) := do
  if r.isConnecting then return (false, r)
  let r := if r.isAdvertising then { r with gap := (sdBleGapAdvStop r.gap).1 } else r
  let (gap, errCode) := sdBleGapAdvStart r.gap
  appErrorCheck .advStart errCode
  return (true, { r with gap }.statusSet .advertising)

def advertiseCancel (r : Radio) : Radio :=
  if !r.isAdvertising then r
  else
    let r := r.statusClear .advertising
    { r with gap := (sdBleGapAdvStop r.gap).1 }

/-- `button1` says whether BUTTON_1 is pushed. -/
def advertiseTasks (r : Radio) (button1 : Bool) : Checked Radio :=
  match r.advertiseState with
  | .init => return { r with advertiseState := if button1 then .advertising else .ready }
  | .ready => return r
  | .advertising => if r.isIdle then return (← advertiseAdvertise r).2 else return r
  | .error => return r

def advertiseOnBleEvt (r : Radio) : GapEvt → Radio
  | .connected _ _ => if r.isAdvertising then advertiseCancel r else r
  | .timeout src => if src = .advertising then r.statusClear .advertising else r
  | _ => r

-- ---------------------------------------------------------------------------
-- Discovery
-- ---------------------------------------------------------------------------

def discoveryInit (r : Radio) : Radio := { r with discoveryState := .init }

/-- The error code is kept in a local variable that nothing reads. -/
def discoveryDiscovery (r : Radio) (refusal : UInt32) : Bool × Radio :=
  if r.isDiscovering || r.isConnecting then (true, r)
  else (true, { r with gap := (sdBleGapScanStart r.gap refusal).1 }.statusSet .discovering)

def discoveryCancel (r : Radio) : Radio :=
  if !r.isDiscovering then r
  else
    let r := r.statusClear .discovering
    { r with gap := (sdBleGapScanStop r.gap).1 }

def discoveryTasks (r : Radio) (button1 : Bool) (refusal : UInt32) : Radio :=
  match r.discoveryState with
  | .init => { r with discoveryState := if !button1 then .discovering else .ready }
  | .ready => r
  | .discovering => if r.isIdle then (discoveryDiscovery r refusal).2 else r
  | .error => r

-- ---------------------------------------------------------------------------
-- Connecting
-- ---------------------------------------------------------------------------

def connectInit (r : Radio) : Radio := { r with connectState := .init }

/-- The default connection parameters are always the same. -/
def connectTasks (r : Radio) : Radio :=
  match r.connectState with
  | .init => { r with connectState := .ready }
  | .ready => r
  | .error => r

def connectCancel (r : Radio) (meanwhile : List GapChange := []) : Checked Radio := do
  if !r.isConnecting then return r
  let r := r.statusClear .connecting
  let (gap, errCode) := sdBleGapConnectCancel (meanwhile.foldl gapStep r.gap)
  appErrorCheck .connectCancel errCode
  return { r with gap }

def connectConnect (r : Radio) (address : GapAddr) (meanwhile : List GapChange := []) :
    Checked (Bool × Radio) := do
  if r.isConnected then return (true, r)
  -- Cancel all ongoing commands.
  let r := advertiseCancel r
  let r := discoveryCancel r
  let r ← connectCancel r meanwhile
  let (gap, errCode) := sdBleGapConnect r.gap address
  appErrorCheck .connect errCode
  return (true, { r with gap }.statusSet .connecting)

def connectOnBleEvt (r : Radio) : GapEvt → Radio × List RadioCall
  | .connected role connHandle =>
    let r := { { r with role }.statusClear .connecting |>.statusSet .connected with connHandle }
    (r, if r.isCentral then [.serviceTryConnect] else [])
  | .disconnected =>
    ({ r.statusClear .connected with role := .invalid, connHandle := bleConnHandleInvalid }, [])
  | .timeout src => (if src = .conn then r.statusClear .connecting else r, [])
  | _ => (r, [])

-- ---------------------------------------------------------------------------
-- Matching
-- ---------------------------------------------------------------------------

def serviceBaseUuid128 : List UInt8 :=
  [0x12, 0x9A, 0xF0, 0x11, 0xA1, 0x09, 0x2F, 0xF4, 0xE1, 0x00, 0x6A, 0x11, 0xBA, 0xE9, 0xA7, 0x44]

/-- The place of the first `byte`, counted from `place`, and the places that it
looks at: one after another, up to the one that it finds. -/
def memchr (byte : UInt8) (place : Nat) : List UInt8 → Option Nat × List Nat
  | [] => (none, [])
  | first :: bytes =>
    if first == byte then (some place, [place])
    else
      let (found, places) := memchr byte (place + 1) bytes
      (found, place :: places)

/-- Are the bytes from `place` those of `bytes`? It may look at all of them. -/
def memcmp (memory bytes : List UInt8) (place : Nat) : Bool × List Nat :=
  ((memory.drop place).take bytes.length == bytes, List.range' place bytes.length)

/-- Does the device that advertises have the service? With the places of the
event buffer that are looked at. -/
def discoveryMatches (report : AdvReport) : Bool × List Nat :=
  let (start, searched) := memchr 0x12 0 report.payload
  match start with
  | some start =>
    let (equal, compared) := memcmp (report.payload ++ report.beyond) serviceBaseUuid128 start
    (equal, searched ++ compared)
  | none => (false, searched)

def discoveryOnBleEvt (r : Radio) (evt : GapEvt) (meanwhile : List GapChange := []) :
    Checked Radio :=
  match evt with
  | .advReport report => do
    if (discoveryMatches report).1 then
      return (← connectConnect r report.peerAddr meanwhile).2
    else return r
  | .timeout src => return if src = .scan then r.statusClear .discovering else r
  | _ => return r

-- ---------------------------------------------------------------------------
-- Steps
-- ---------------------------------------------------------------------------

/-- `ble_evt_dispatch`. The service, which comes first, has its own model and
does not touch the radio. -/
def bleEvtDispatch (r : Radio) (evt : GapEvt) (meanwhile : List GapChange := []) :
    Checked (Radio × List RadioCall) := do
  let (r, calls) := connectOnBleEvt r evt
  let r := advertiseOnBleEvt r evt
  let r ← discoveryOnBleEvt r evt meanwhile
  return (r, calls)

/-- The start of the pause in `storage_update_value`. -/
def storagePause (r : Radio) (meanwhile : List GapChange := []) : Checked Radio := do
  let r ← if r.isConnecting then connectCancel r meanwhile else pure r
  let wasDiscovering := r.isDiscovering
  let r := if wasDiscovering then discoveryCancel r else r
  return { r with storing := some wasDiscovering }

def storageResume (r : Radio) (wasDiscovering : Bool) (refusal : UInt32) : Radio :=
  let r := if wasDiscovering then (discoveryDiscovery r refusal).2 else r
  { r with storing := none }

def radioReset : Radio where
  status := 0
  role := .invalid
  advertiseState := .init
  discoveryState := .init
  connectState := .init
  connHandle := bleConnHandleInvalid
  storing := none
  gap := ⟨false, false, none, false, false, []⟩

def radioBoot : Radio := connectInit (discoveryInit (advertiseInit radioReset))

/-- The functions that the main loop and its callers run. -/
inductive RadioTask
  | advertiseTasks (button1 : Bool)
  | discoveryTasks (button1 : Bool) (refusal : UInt32)
  | connectTasks
  | connectConnect (address : GapAddr)
  | advertiseCancel
  | discoveryCancel
  | connectCancel
  | storagePause
  deriving DecidableEq

def radioTask (r : Radio) (task : RadioTask) (meanwhile : List GapChange := []) : Checked Radio :=
  match task with
  | .advertiseTasks button1 => advertiseTasks r button1
  | .discoveryTasks button1 refusal => return discoveryTasks r button1 refusal
  | .connectTasks => return connectTasks r
  | .connectConnect address => return (← connectConnect r address meanwhile).2
  | .advertiseCancel => return advertiseCancel r
  | .discoveryCancel => return discoveryCancel r
  | .connectCancel => connectCancel r meanwhile
  | .storagePause => storagePause r meanwhile

inductive RadioEvent
  | main (task : RadioTask)
  | storageResume (refusal : UInt32)
  | deliver
  | air (change : GapChange)
  deriving DecidableEq

/-- The main loop waits while a store does, but events are delivered. -/
def radioStep (r : Radio) (event : RadioEvent) (meanwhile : List GapChange := []) :
    Checked (Radio × List RadioCall) :=
  match event with
  | .main task => do
    if r.storing.isSome then return (r, [])
    return (← radioTask r task meanwhile, [])
  | .storageResume refusal =>
    match r.storing with
    | some wasDiscovering => return (storageResume r wasDiscovering refusal, [])
    | none => return (r, [])
  | .deliver =>
    match r.gap.events with
    | [] => return (r, [])
    | evt :: events => bleEvtDispatch { r with gap.events := events } evt meanwhile
  | .air change => return ({ r with gap := gapStep r.gap change }, [])

/-- A reset ends a run. -/
def radioRun (r : Radio) (event : RadioEvent) : Option (Radio × List RadioCall) :=
  (radioStep r event).toOption

end WaterBall
