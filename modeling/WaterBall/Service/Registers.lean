import WaterBall.Support.Runs
import WaterBall.Service.Server

/-!
# The writable characteristics are registers

Six characteristics can be written. Each behaves as a register of its own:
reads and the getter give what was written to it last, and a write to one
leaves the others, the handles and the two indicated values alone.
-/

namespace WaterBall

open Support

inductive Register
  | clientScore
  | currentTime
  | gameTime
  | vibration
  | hole
  | targetScore
  deriving DecidableEq, Repr

namespace Register

def uuid : Register → UInt16
  | clientScore => serviceClientScoreUuid
  | currentTime => serviceCurrentTimeUuid
  | gameTime => serviceGameTimeUuid
  | vibration => serviceVibrationUuid
  | hole => serviceHoleUuid
  | targetScore => serviceTargetScoreUuid

def getter : Register → ServiceServer → UInt32
  | clientScore => serviceServerGetClientScore
  | currentTime => serviceServerGetCurrentTime
  | gameTime => serviceServerGetGameTime
  | vibration => serviceServerGetVibration
  | hole => serviceServerGetHole
  | targetScore => serviceServerGetTargetScore

def set : Register → ServiceServer → UInt32 → ServiceServer
  | clientScore => fun s v => { s with clientScore := v }
  | currentTime => fun s v => { s with currentTime := v }
  | gameTime => fun s v => { s with gameTime := v }
  | vibration => fun s v => { s with vibration := v }
  | hole => fun s v => { s with hole := v }
  | targetScore => fun s v => { s with targetScore := v }

def initial : Register → UInt32
  | clientScore => 0
  | currentTime => 0
  | gameTime => 60000
  | vibration => 1
  | hole => 0xFFFFFFFF
  | targetScore => 0

theorem uuid_injective : Function.Injective uuid := by
  intro a b h
  cases a <;> cases b <;> first | rfl | exact absurd h (by decide)

theorem getter_set (r r' : Register) (s : ServiceServer) (v : UInt32) :
    r'.getter (r.set s v) = if r' = r then v else r'.getter s := by
  cases r <;> cases r' <;> rfl

theorem set_frame (r : Register) (s : ServiceServer) (v : UInt32) :
    (r.set s v).info = s.info ∧ (r.set s v).serverScore = s.serverScore ∧
      (r.set s v).gameState = s.gameState ∧ (r.set s v).connHandle = s.connHandle := by
  cases r <;> exact ⟨rfl, rfl, rfl, rfl⟩

end Register

inductive ServerEvent
  | ble (evt : BleEvt)
  | indicateServerScore (score : UInt32)
  | indicateGameTime (msRemaining : UInt32)
  | indicateGameState (state : UInt32)
  | tasks
  deriving DecidableEq

def serverStep (s : ServiceServer) : ServerEvent → Option (ServiceServer × List ServerCall)
  | .ble evt => serviceServerOnBleEvt s evt
  | .indicateServerScore score => some (serviceServerIndicateServerScore s score)
  | .indicateGameTime msRemaining => some (s, serviceServerIndicateGameTime s msRemaining)
  | .indicateGameState state => some (s, serviceServerIndicateGameState s state)
  | .tasks => some (serviceServerTasks s, [])

/-- The peer's writes carry four bytes. -/
def ServerEvent.FourBytes : ServerEvent → Prop
  | .ble (.gattsAuthorizeWrite _ data _) => data.length = 4
  | _ => True

instance : DecidablePred ServerEvent.FourBytes := fun ev => by
  unfold ServerEvent.FourBytes
  split <;> infer_instance

/-- The value that the event writes to the register, if it writes to it. -/
def ServerEvent.written (r : Register) : ServerEvent → Option UInt32
  | .ble (.gattsAuthorizeWrite uuid data _) =>
    if uuid = r.uuid then some (LittleEndian.word data) else none
  | _ => none

/-- The value that was written to the register last, or its initial one. -/
def lastWritten (r : Register) (evs : List ServerEvent) : UInt32 :=
  evs.foldl (fun value ev => (ev.written r).getD value) r.initial

-- ---------------------------------------------------------------------------
-- The rows of the table
-- ---------------------------------------------------------------------------

theorem writeCallback_register (r : Register) :
    (serviceServerGetCharacteristic r.uuid).bind (·.writeCallback) =
      some (serviceServerWriteWord r.set) := by
  cases r <;> rfl

theorem readCallback_register (r : Register) :
    (serviceServerGetCharacteristic r.uuid).bind (·.readCallback) =
      some (serviceServerReadWord r.getter) := by
  cases r <;> rfl

theorem serviceServerGetCharacteristic_eq_some
    (h : serviceServerGetCharacteristic uuid = some row) :
    row.uuid = uuid ∧ row ∈ characteristics := by
  unfold serviceServerGetCharacteristic at h
  have huuid := List.find?_some h
  exact ⟨by simpa using huuid, List.mem_of_find?_eq_some h⟩

theorem writeCallback_eq_some
    (h : (serviceServerGetCharacteristic uuid).bind (·.writeCallback) = some callback) :
    ∃ r : Register, uuid = r.uuid := by
  obtain ⟨row, hrow, hcallback⟩ := Option.bind_eq_some_iff.mp h
  obtain ⟨huuid, hmem⟩ := serviceServerGetCharacteristic_eq_some hrow
  simp only [characteristics, List.mem_cons, List.not_mem_nil, or_false] at hmem
  rcases hmem with rfl | rfl | rfl | rfl | rfl | rfl | rfl | rfl | rfl
  · cases hcallback
  · cases hcallback
  · exact ⟨.clientScore, huuid.symm⟩
  · cases hcallback
  · exact ⟨.currentTime, huuid.symm⟩
  · exact ⟨.gameTime, huuid.symm⟩
  · exact ⟨.vibration, huuid.symm⟩
  · exact ⟨.hole, huuid.symm⟩
  · exact ⟨.targetScore, huuid.symm⟩

theorem serviceServerAuthorizeRead_ends (s : ServiceServer) (uuid offset : UInt16) :
    ∃ state calls, serviceServerAuthorizeRead s uuid offset = ({ s with state }, calls) ∧
      (state = s.state ∨ state = .connected) ∧
      ∀ call ∈ calls, ∃ reply, call = .gattsReplyRead s.connHandle reply ∧
        reply.offset = offset := by
  unfold serviceServerAuthorizeRead
  cases hread : (serviceServerGetCharacteristic uuid).bind (·.readCallback) with
  | none => exact ⟨s.state, [], rfl, .inl rfl, nofun⟩
  | some callback =>
    obtain ⟨row, hrow, hcallback⟩ := Option.bind_eq_some_iff.mp hread
    obtain ⟨-, hmem⟩ := serviceServerGetCharacteristic_eq_some hrow
    have hreply : ∀ value, ∀ call ∈ serviceServerReadRequestResponse s offset value,
        ∃ reply, call = .gattsReplyRead s.connHandle reply ∧ reply.offset = offset := by
      intro value call hcall
      rw [List.mem_singleton.mp hcall]
      exact ⟨_, rfl, rfl⟩
    simp only [characteristics, List.mem_cons, List.not_mem_nil, or_false] at hmem
    rcases hmem with rfl | rfl | rfl | rfl | rfl | rfl | rfl | rfl | rfl <;> cases hcallback
    · exact ⟨.connected, _, rfl, .inr rfl, hreply _⟩
    all_goals exact ⟨s.state, _, rfl, .inl rfl, hreply _⟩

-- ---------------------------------------------------------------------------
-- One event
-- ---------------------------------------------------------------------------

theorem word_append_of_length {data beyond : List UInt8} (h : data.length = 4) :
    Region.read (data ++ beyond) 0 4 = some data := by
  rw [Region.read_of_fits (by rw [List.length_append]; omega), Region.slice_zero_start,
    List.take_left' h]

theorem serviceServer_write (r : Register) (s : ServiceServer) {data : List UInt8}
    (hdata : data.length = 4) (beyond : List UInt8) :
    serverStep s (.ble (.gattsAuthorizeWrite r.uuid data beyond)) =
      some (r.set s (LittleEndian.word data), [.gattsReplyWrite s.connHandle .success true]) := by
  simp only [serverStep, serviceServerOnBleEvt_write, serviceServerAuthorizeWrite,
    writeCallback_register, serviceServerWriteWord, word_append_of_length hdata,
    serviceServerWriteRequestResponse, Option.bind_eq_bind, Option.bind_some, Option.pure_def,
    (r.set_frame s _).2.2.2]

theorem serviceServer_read (r : Register) (s : ServiceServer) {offset : UInt16}
    (hoffset : offset.toNat ≤ 4) :
    serverStep s (.ble (.gattsAuthorizeRead r.uuid offset)) =
      some (s, [.gattsReplyRead s.connHandle
        { gattStatus := .success
          update := true
          offset
          len := 4 - offset
          data := some ((LittleEndian.wordBytes (r.getter s)).drop offset.toNat) }]) := by
  have hlen : (4 - offset).toNat = 4 - offset.toNat :=
    UInt16.toNat_sub_of_le 4 offset (UInt16.le_iff_toNat_le.mpr hoffset)
  have hdata : Region.read (LittleEndian.wordBytes (r.getter s)) offset.toNat (4 - offset).toNat =
      some ((LittleEndian.wordBytes (r.getter s)).drop offset.toNat) := by
    rw [hlen, Region.read_of_fits (by rw [LittleEndian.length_wordBytes]; omega), Region.slice,
      List.take_of_length_le]
    exact Nat.le_of_eq List.length_drop
  simp only [serverStep, serviceServerOnBleEvt_read, serviceServerAuthorizeRead,
    readCallback_register, serviceServerReadWord, serviceServerReadRequestResponse,
    LittleEndian.length_wordBytes]
  exact congrArg (fun d => some (s, [ServerCall.gattsReplyRead s.connHandle
    { gattStatus := .success, update := true, offset, len := 4 - offset, data := d }])) hdata

theorem Register.getter_state (r : Register) (s : ServiceServer) (state : ServiceServerState) :
    r.getter { s with state } = r.getter s := by
  cases r <;> rfl

theorem serviceServerTasks_getter (r : Register) (s : ServiceServer) :
    r.getter (serviceServerTasks s) = r.getter s := by
  unfold serviceServerTasks
  split
  case h_1 => exact r.getter_state s .ready
  case h_2 => cases r <;> rfl
  case h_3 =>
    dsimp only
    split <;> cases r <;> rfl
  case h_4 => rfl
  case h_5 => rfl

/-- What one event does to the registers. -/
theorem serverStep_registers (s : ServiceServer) {ev : ServerEvent} (hev : ev.FourBytes) :
    ∃ s' calls, serverStep s ev = some (s', calls) ∧
      ∀ r, r.getter s' = (ev.written r).getD (r.getter s) := by
  cases ev with
  | indicateServerScore score => exact ⟨_, _, rfl, fun r => by cases r <;> rfl⟩
  | indicateGameTime msRemaining => exact ⟨_, _, rfl, fun r => rfl⟩
  | indicateGameState state => exact ⟨_, _, rfl, fun r => rfl⟩
  | tasks => exact ⟨_, _, rfl, fun r => serviceServerTasks_getter r s⟩
  | ble evt =>
    cases evt with
    | gapConnected connHandle => exact ⟨_, _, rfl, fun r => by cases r <;> rfl⟩
    | gapDisconnected => exact ⟨_, _, rfl, fun r => by cases r <;> rfl⟩
    | gattsAuthorizeRead uuid offset =>
      obtain ⟨state, calls, hread, -, -⟩ := serviceServerAuthorizeRead_ends s uuid offset
      refine ⟨_, _, congrArg some hread, fun r => ?_⟩
      exact r.getter_state s state
    | gattsAuthorizeWrite uuid data beyond =>
      by_cases hreg : ∃ r : Register, uuid = r.uuid
      · obtain ⟨r, rfl⟩ := hreg
        refine ⟨_, _, serviceServer_write r s hev beyond, fun r' => ?_⟩
        rw [r.getter_set r', ServerEvent.written]
        by_cases hr : r' = r
        · rw [if_pos hr, if_pos (by rw [hr])]
          rfl
        · rw [if_neg hr, if_neg fun h => hr (Register.uuid_injective h).symm]
          rfl
      · -- A UUID that cannot be written.
        have hnone : (serviceServerGetCharacteristic uuid).bind (·.writeCallback) = none :=
          Option.eq_none_iff_forall_ne_some.mpr fun _ h => hreg (writeCallback_eq_some h)
        refine ⟨s, [], ?_, fun r => ?_⟩
        · simp only [serverStep, serviceServerOnBleEvt_write, serviceServerAuthorizeWrite, hnone]
        · rw [ServerEvent.written, if_neg fun h => hreg ⟨r, h⟩]
          rfl
    | _ => exact ⟨_, _, rfl, fun r => rfl⟩

-- ---------------------------------------------------------------------------
-- Whole runs
-- ---------------------------------------------------------------------------

theorem serverRun_registers (s : ServiceServer) (evs : List ServerEvent)
    (hevs : ∀ ev ∈ evs, ev.FourBytes) :
    ∃ t calls, Runs.run serverStep s evs = some (t, calls) ∧
      ∀ r : Register, r.getter t =
        evs.foldl (fun value ev => (ev.written r).getD value) (r.getter s) := by
  induction evs generalizing s with
  | nil => exact ⟨s, [], rfl, fun r => rfl⟩
  | cons ev evs ih =>
    obtain ⟨s', out, hstep, hreg⟩ := serverStep_registers s (hevs ev List.mem_cons_self)
    obtain ⟨t, rest, hrun, hregs⟩ := ih s' fun e he => hevs e (List.mem_cons_of_mem ev he)
    have hcons := Runs.run_cons_eq_some.mpr ⟨s', out, rest, hstep, hrun, rfl⟩
    refine ⟨t, out ++ rest, hcons, fun r => ?_⟩
    rw [hregs, hreg, List.foldl_cons]

/-- Adding the characteristics fills the handle table and does nothing else. -/
theorem serviceServerInit_keeps {α : Type} (value : ServiceServer → α)
    (hvalue : ∀ s info connHandle state, value { s with info, connHandle, state } = value s)
    (valueHandles : List UInt16) :
    value (serviceServerInit serviceServerReset valueHandles).1 = value serviceServerReset := by
  have hadd : ∀ (rows : List (ServiceServerCharacteristic × UInt16))
      (x : ServiceServer × List ServerCall),
      value (rows.foldl (fun x row =>
        ((serviceServerCharacteristicAdd x.1 row.1 row.2).1,
          x.2 ++ (serviceServerCharacteristicAdd x.1 row.1 row.2).2)) x).1 = value x.1 := by
    intro rows x
    induction rows generalizing x with
    | nil => rfl
    | cons row rows ih =>
      rw [List.foldl_cons, ih]
      exact hvalue x.1 _ x.1.connHandle x.1.state
  have hinit := hvalue serviceServerReset .zero bleConnHandleInvalid .init
  refine (hvalue _ _ _ .init).trans ((hadd _ _).trans hinit)

theorem serviceServerInit_registers (valueHandles : List UInt16) (r : Register) :
    r.getter (serviceServerInit serviceServerReset valueHandles).1 = r.initial := by
  have hreset : r.getter serviceServerReset = r.initial := by
    cases r <;> rfl
  refine (serviceServerInit_keeps r.getter ?_ valueHandles).trans hreset
  intro s info connHandle state
  cases r <;> rfl

/-- After any run in which the peer writes four bytes at a time: the getter has
what was written to the characteristic last, a read at any offset up to the
length is answered with its bytes from there, and a further write changes no
other register, no handle and neither of the indicated values. -/
theorem serviceServer_registers (valueHandles : List UInt16) (evs : List ServerEvent)
    (hevs : ∀ ev ∈ evs, ev.FourBytes) :
    ∃ t calls, Runs.run serverStep (serviceServerInit serviceServerReset valueHandles).1 evs =
        some (t, calls) ∧
      ∀ r : Register, r.getter t = lastWritten r evs ∧
        (∀ offset : UInt16, offset.toNat ≤ 4 →
          serverStep t (.ble (.gattsAuthorizeRead r.uuid offset)) =
            some (t, [.gattsReplyRead t.connHandle
              { gattStatus := .success
                update := true
                offset
                len := 4 - offset
                data := some ((LittleEndian.wordBytes (lastWritten r evs)).drop offset.toNat) }])) ∧
        ∀ data beyond : List UInt8, data.length = 4 →
          ∃ u, serverStep t (.ble (.gattsAuthorizeWrite r.uuid data beyond)) =
              some (u, [.gattsReplyWrite t.connHandle .success true]) ∧
            r.getter u = LittleEndian.word data ∧
            (∀ r' : Register, r' ≠ r → r'.getter u = r'.getter t) ∧
            u.info = t.info ∧ u.serverScore = t.serverScore ∧ u.gameState = t.gameState := by
  obtain ⟨t, calls, hrun, hregs⟩ := serverRun_registers
    (serviceServerInit serviceServerReset valueHandles).1 evs hevs
  have hregs : ∀ r : Register, r.getter t = lastWritten r evs := by
    intro r
    rw [hregs, serviceServerInit_registers, lastWritten]
  refine ⟨t, calls, hrun, fun r => ⟨hregs r, fun offset hoffset => ?_, fun data beyond hdata => ?_⟩⟩
  · rw [← hregs r]
    exact serviceServer_read r t hoffset
  · obtain ⟨hinfo, hscore, hstate, -⟩ := r.set_frame t (LittleEndian.word data)
    refine ⟨_, serviceServer_write r t hdata beyond, ?_, fun r' hr => ?_, hinfo, hscore, hstate⟩
    · rw [r.getter_set, if_pos rfl]
    · rw [r.getter_set, if_neg hr]

/-- A session of two writes, a score indication and a read. -/
def twoWrites : List ServerEvent :=
  [.ble (.gapConnected 3), .ble (.gattsAuthorizeWrite serviceHoleUuid [2, 0, 0, 0] []),
    .indicateServerScore 8, .ble (.gattsAuthorizeWrite serviceVibrationUuid [9, 1, 0, 0] []),
    .ble (.gattsAuthorizeRead serviceHoleUuid 1)]

theorem serviceServer_registers_twoWrites :
    ∃ t calls, Runs.run serverStep (serviceServerInit serviceServerReset []).1 twoWrites =
        some (t, calls) ∧
      serviceServerGetHole t = 2 ∧ serviceServerGetVibration t = 265 ∧
      serviceServerGetGameTime t = 60000 := by
  obtain ⟨t, calls, hrun, hregs⟩ := serviceServer_registers [] twoWrites (by decide)
  exact ⟨t, calls, hrun, (hregs .hole).1, (hregs .vibration).1, (hregs .gameTime).1⟩

end WaterBall
