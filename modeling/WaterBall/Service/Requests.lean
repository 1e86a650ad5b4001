import WaterBall.Service.Registers

/-!
# Requests that have to be authorised

The SoftDevice asks the server for every read and every write of a
characteristic and holds the peer back until it has the reply. This is what
the replies are: for which requests there is one, what a read discloses at
which offset, and what a write of any length does.
-/

namespace WaterBall

open Support

-- ---------------------------------------------------------------------------
-- Requests
-- ---------------------------------------------------------------------------

inductive GattsOp
  | writeReq
  | writeCmd
  | signWriteCmd
  | prepWriteReq
  | execWriteReqCancel
  | execWriteReqNow
  deriving DecidableEq, Repr

/-- A request to write, with the fields that the server passes over. The event
buffer has room for a word at the data, however short the data is. -/
structure GattsWrite where
  op : GattsOp
  offset : UInt16
  data : List UInt8
  beyond : List UInt8
  room : 4 ≤ data.length + beyond.length

inductive AuthorizeType
  | read
  | write
  deriving DecidableEq, Repr

inductive AuthorizeRequest
  | read (uuid offset : UInt16)
  | write (uuid : UInt16) (write : GattsWrite)

def AuthorizeRequest.type : AuthorizeRequest → AuthorizeType
  | read .. => .read
  | write .. => .write

def AuthorizeRequest.event : AuthorizeRequest → BleEvt
  | read uuid offset => .gattsAuthorizeRead uuid offset
  | write uuid w => .gattsAuthorizeWrite uuid w.data w.beyond

def ServerCall.authorizeReply : ServerCall → Option (UInt16 × AuthorizeType × GattStatus)
  | gattsReplyRead connHandle reply => some (connHandle, .read, reply.gattStatus)
  | gattsReplyWrite connHandle gattStatus _ => some (connHandle, .write, gattStatus)
  | _ => none

-- ---------------------------------------------------------------------------
-- The readable characteristics
-- ---------------------------------------------------------------------------

inductive Readable
  | info
  | serverScore
  | gameState
  | register (r : Register)
  deriving DecidableEq, Repr

namespace Readable

def uuid : Readable → UInt16
  | info => serviceInfoUuid
  | serverScore => serviceServerScoreUuid
  | gameState => serviceGameStateUuid
  | register r => r.uuid

/-- The bytes of the stored value. -/
def value : Readable → ServiceServer → List UInt8
  | info, s => s.info.bytes
  | serverScore, s => LittleEndian.wordBytes s.serverScore
  | gameState, s => LittleEndian.wordBytes s.gameState
  | register r, s => LittleEndian.wordBytes (r.getter s)

def length : Readable → Nat
  | info => 16
  | _ => 4

/-- Reading the table of handles makes the server a connected one. -/
def after : Readable → ServiceServer → ServiceServer
  | info, s => { s with state := .connected }
  | _, s => s

theorem length_value (c : Readable) (s : ServiceServer) : (c.value s).length = c.length := by
  cases c <;> simp [value, length]

theorem length_le (c : Readable) : c.length ≤ 16 := by
  cases c <;> simp [length]

theorem value_after (c c' : Readable) (s : ServiceServer) : c'.value (c.after s) = c'.value s := by
  cases c with
  | info =>
    cases c' with
    | register r => exact congrArg LittleEndian.wordBytes (r.getter_state s .connected)
    | _ => rfl
  | _ => rfl

end Readable

theorem serviceServer_readable (c : Readable) (s : ServiceServer) (offset : UInt16) :
    serviceServerOnBleEvt s (.gattsAuthorizeRead c.uuid offset) =
      some (c.after s, serviceServerReadRequestResponse s offset (c.value s)) := by
  cases c with
  | register r => cases r <;> rfl
  | _ => rfl

theorem readCallback_eq_some
    (h : (serviceServerGetCharacteristic uuid).bind (·.readCallback) = some callback) :
    ∃ c : Readable, uuid = c.uuid := by
  obtain ⟨row, hrow, -⟩ := Option.bind_eq_some_iff.mp h
  obtain ⟨huuid, hmem⟩ := serviceServerGetCharacteristic_eq_some hrow
  simp only [characteristics, List.mem_cons, List.not_mem_nil, or_false] at hmem
  rcases hmem with rfl | rfl | rfl | rfl | rfl | rfl | rfl | rfl | rfl
  · exact ⟨.info, huuid.symm⟩
  · exact ⟨.serverScore, huuid.symm⟩
  · exact ⟨.register .clientScore, huuid.symm⟩
  · exact ⟨.gameState, huuid.symm⟩
  · exact ⟨.register .currentTime, huuid.symm⟩
  · exact ⟨.register .gameTime, huuid.symm⟩
  · exact ⟨.register .vibration, huuid.symm⟩
  · exact ⟨.register .hole, huuid.symm⟩
  · exact ⟨.register .targetScore, huuid.symm⟩

-- ---------------------------------------------------------------------------
-- Which requests are answered
-- ---------------------------------------------------------------------------

def AuthorizeRequest.Supported : AuthorizeRequest → Prop
  | read uuid _ => ∃ c : Readable, uuid = c.uuid
  | write uuid _ => ∃ r : Register, uuid = r.uuid

/-- One reply of the request's type, which refuses what is not supported. -/
def ServiceServer.Answers (s : ServiceServer) (request : AuthorizeRequest) : Prop :=
  ∃ s' calls gattStatus, serviceServerOnBleEvt s request.event = some (s', calls) ∧
    calls.filterMap ServerCall.authorizeReply = [(s.connHandle, request.type, gattStatus)] ∧
    (¬ request.Supported → gattStatus ≠ .success)

/-- A write takes the first word of the buffer, whatever came from the peer. -/
theorem serviceServer_writeWord (r : Register) (s : ServiceServer) {data beyond : List UInt8}
    (hroom : 4 ≤ data.length + beyond.length) :
    serviceServerOnBleEvt s (.gattsAuthorizeWrite r.uuid data beyond) =
      some (r.set s (LittleEndian.word (data ++ beyond)),
        [.gattsReplyWrite s.connHandle .success true]) := by
  have hread : Region.read (data ++ beyond) 0 4 = some ((data ++ beyond).take 4) := by
    rw [Region.read_of_fits (by rw [List.length_append]; omega), Region.slice_zero_start]
  simp only [serviceServerOnBleEvt_write, serviceServerAuthorizeWrite, writeCallback_register,
    serviceServerWriteWord, hread, LittleEndian.word_take _ 4 (Nat.le_refl 4),
    serviceServerWriteRequestResponse, Option.bind_eq_bind, Option.bind_some, Option.pure_def,
    (r.set_frame s _).2.2.2]

theorem serviceServer_unsupported (s : ServiceServer) {request : AuthorizeRequest}
    (h : ¬ request.Supported) : serviceServerOnBleEvt s request.event = some (s, []) := by
  cases request with
  | read uuid offset =>
    have hnone : (serviceServerGetCharacteristic uuid).bind (·.readCallback) = none :=
      Option.eq_none_iff_forall_ne_some.mpr fun _ hsome => h (readCallback_eq_some hsome)
    simp only [AuthorizeRequest.event, serviceServerOnBleEvt_read, serviceServerAuthorizeRead,
      hnone]
  | write uuid w =>
    have hnone : (serviceServerGetCharacteristic uuid).bind (·.writeCallback) = none :=
      Option.eq_none_iff_forall_ne_some.mpr fun _ hsome => h (writeCallback_eq_some hsome)
    simp only [AuthorizeRequest.event, serviceServerOnBleEvt_write, serviceServerAuthorizeWrite,
      hnone]

/-- A request is answered exactly when the characteristic has the operation;
otherwise the peer waits for a reply that never comes. -/
theorem serviceServer_answers_iff (s : ServiceServer) (request : AuthorizeRequest) :
    s.Answers request ↔ request.Supported := by
  constructor
  · rintro ⟨s', calls, gattStatus, hevent, hreply, -⟩
    apply Classical.byContradiction
    intro hunsupported
    cases hevent.symm.trans (serviceServer_unsupported s hunsupported)
    cases hreply
  · intro hsupported
    cases request with
    | read uuid offset =>
      obtain ⟨c, rfl⟩ := hsupported
      exact ⟨_, _, .success, serviceServer_readable c s offset, rfl,
        fun hunsupported => absurd ⟨c, rfl⟩ hunsupported⟩
    | write uuid w =>
      obtain ⟨r, rfl⟩ := hsupported
      exact ⟨_, _, .success, serviceServer_writeWord r s w.room, rfl,
        fun hunsupported => absurd ⟨r, rfl⟩ hunsupported⟩

theorem serviceServer_leaves_pending :
    let write : GattsWrite := ⟨.writeReq, 0, [1, 0, 0, 0], [], by decide⟩
    let server := { serviceServerReset with connHandle := 0, state := .connected }
    serviceServerOnBleEvt server
        (AuthorizeRequest.write serviceServerScoreUuid write).event = some (server, []) ∧
      ¬ server.Answers (.write serviceServerScoreUuid write) := by
  intro write server
  have hevent : serviceServerOnBleEvt server
      (AuthorizeRequest.write serviceServerScoreUuid write).event = some (server, []) := rfl
  refine ⟨hevent, ?_⟩
  rintro ⟨s', calls, gattStatus, hreplied, hreply, -⟩
  cases hevent.symm.trans hreplied
  cases hreply

-- ---------------------------------------------------------------------------
-- What a read discloses
-- ---------------------------------------------------------------------------

/-- The reply is the value from the offset on, or none of success. -/
def ServiceServer.Discloses (s : ServiceServer) (c : Readable) (offset : UInt16) : Prop :=
  ∃ s' reply, serviceServerOnBleEvt s (.gattsAuthorizeRead c.uuid offset) =
      some (s', [.gattsReplyRead s.connHandle reply]) ∧
    (offset.toNat ≤ c.length → reply.gattStatus = .success ∧ reply.offset = offset ∧
      reply.len.toNat = c.length - offset.toNat ∧
      reply.data = some ((c.value s).drop offset.toNat)) ∧
    (c.length < offset.toNat → reply.gattStatus ≠ .success)

def ServerCall.readData : ServerCall → Option (List UInt8)
  | gattsReplyRead _ reply => reply.data
  | _ => none

/-- The number of bytes in some pieces. -/
def sizeOfPieces (ns : List Nat) : Nat := ns.foldr (· + ·) 0

/-- What the peer has after reads at increasing offsets, when it keeps the
first `n` bytes of the reply to each. -/
def readPieces (c : Readable) : ServiceServer → Nat → List Nat → Option (List UInt8)
  | _, _, [] => some []
  | s, start, n :: ns => do
    let (s, calls) ← serviceServerOnBleEvt s (.gattsAuthorizeRead c.uuid (UInt16.ofNat start))
    let data ← calls.findSome? ServerCall.readData
    let rest ← readPieces c s (start + n) ns
    return data.take n ++ rest

theorem toNat_ofNat_of_le (hn : n ≤ 16) : (UInt16.ofNat n).toNat = n := by
  rw [UInt16.toNat_ofNat']
  omega

/-- Up to the end of the value the subtraction in the reply is one of numbers. -/
theorem serviceServerReadRequestResponse_of_le (s : ServiceServer) {offset : UInt16}
    {value : List UInt8} (hlength : value.length ≤ 16) (hoffset : offset.toNat ≤ value.length) :
    serviceServerReadRequestResponse s offset value =
      [.gattsReplyRead s.connHandle
        { gattStatus := .success
          update := true
          offset
          len := UInt16.ofNat (value.length - offset.toNat)
          data := some (value.drop offset.toNat) }] := by
  have hle : offset ≤ UInt16.ofNat value.length := by
    rw [UInt16.le_iff_toNat_le, toNat_ofNat_of_le hlength]
    exact hoffset
  have hlen : UInt16.ofNat value.length - offset = UInt16.ofNat (value.length - offset.toNat) := by
    apply UInt16.toNat_inj.mp
    rw [UInt16.toNat_sub_of_le _ _ hle, toNat_ofNat_of_le hlength,
      toNat_ofNat_of_le (by omega)]
  have hdata : Region.read value offset.toNat (value.length - offset.toNat) =
      some (value.drop offset.toNat) := by
    rw [Region.read_of_fits (by omega), Region.slice, List.take_of_length_le]
    exact Nat.le_of_eq List.length_drop
  have hsize : (UInt16.ofNat (value.length - offset.toNat)).toNat = value.length - offset.toNat :=
    toNat_ofNat_of_le (by omega)
  simp only [serviceServerReadRequestResponse, hlen, hsize, hdata]

theorem Readable.read_of_le (c : Readable) (s : ServiceServer) {offset : UInt16}
    (hoffset : offset.toNat ≤ c.length) :
    serviceServerOnBleEvt s (.gattsAuthorizeRead c.uuid offset) =
      some (c.after s, [.gattsReplyRead s.connHandle
        { gattStatus := .success
          update := true
          offset
          len := UInt16.ofNat (c.length - offset.toNat)
          data := some ((c.value s).drop offset.toNat) }]) := by
  rw [serviceServer_readable, serviceServerReadRequestResponse_of_le, c.length_value]
  · rw [c.length_value]
    exact c.length_le
  · rw [c.length_value]
    exact hoffset

theorem Readable.readPieces_eq (c : Readable) (s : ServiceServer) (start : Nat) (ns : List Nat)
    (h : start + sizeOfPieces ns ≤ c.length) :
    readPieces c s start ns = some (Region.slice (c.value s) start (sizeOfPieces ns)) := by
  induction ns generalizing s start with
  | nil => simp [readPieces, sizeOfPieces, Region.slice]
  | cons n ns ih =>
    have hcons : sizeOfPieces (n :: ns) = n + sizeOfPieces ns := List.foldr_cons ..
    rw [hcons, ← Nat.add_assoc] at h
    have hle := c.length_le
    have hstart : (UInt16.ofNat start).toNat = start := toNat_ofNat_of_le (by omega)
    have hoffset : (UInt16.ofNat start).toNat ≤ c.length := by omega
    have hrest := ih (c.after s) (start + n) h
    rw [c.value_after] at hrest
    simp only [readPieces, c.read_of_le s hoffset, hstart, List.findSome?_cons,
      ServerCall.readData, Option.bind_eq_bind, Option.bind_some, hrest, Option.pure_def]
    rw [hcons, ← Region.slice_append_slice]
    rfl

/-- A read discloses the rest of the value exactly when its offset is not
behind the end; so reads at increasing offsets up to the end give the value. -/
theorem serviceServer_discloses_iff (s : ServiceServer) (c : Readable) :
    (∀ offset : UInt16, s.Discloses c offset ↔ offset.toNat ≤ c.length) ∧
      ∀ ns : List Nat, sizeOfPieces ns = c.length → readPieces c s 0 ns = some (c.value s) := by
  refine ⟨fun offset => ⟨?_, ?_⟩, fun ns hsum => ?_⟩
  · rintro ⟨s', reply, hevent, -, hrefused⟩
    apply Nat.le_of_not_lt
    intro hbehind
    rw [serviceServer_readable] at hevent
    cases hevent
    exact hrefused hbehind rfl
  · intro hoffset
    refine ⟨_, _, c.read_of_le s hoffset, fun _ => ⟨rfl, rfl, ?_, rfl⟩, fun hbehind => ?_⟩
    · exact toNat_ofNat_of_le (Nat.le_trans (Nat.sub_le _ _) c.length_le)
    · exact absurd hoffset (Nat.not_le_of_lt hbehind)
  · rw [c.readPieces_eq s 0 ns (by omega), hsum, Region.slice_zero_start,
      List.take_of_length_le (Nat.le_of_eq (c.length_value s))]

theorem serviceServer_discloses_beyond :
    serviceServerOnBleEvt serviceServerReset (.gattsAuthorizeRead serviceGameTimeUuid 5) =
        some (serviceServerReset, [.gattsReplyRead 0
          { gattStatus := .success, update := true, offset := 5, len := 65535, data := none }]) ∧
      ¬ serviceServerReset.Discloses (.register .gameTime) 5 := by
  have hevent : serviceServerOnBleEvt serviceServerReset
      (.gattsAuthorizeRead serviceGameTimeUuid 5) = some (serviceServerReset, [.gattsReplyRead 0
        { gattStatus := .success, update := true, offset := 5, len := 65535, data := none }]) := by
    decide
  refine ⟨hevent, ?_⟩
  rintro ⟨s', reply, hread, -, hrefused⟩
  cases hevent.symm.trans hread
  exact hrefused (by decide) rfl

-- ---------------------------------------------------------------------------
-- What a write takes
-- ---------------------------------------------------------------------------

/-- The write sets the characteristic to the bytes that were sent for its
start, or is refused and sets nothing; in neither case does the server need
more of the event buffer than these bytes. -/
def ServiceServer.TakesOrRefuses (s : ServiceServer) (r : Register) (w : GattsWrite) : Prop :=
  (∃ s' gattStatus update,
    serviceServerOnBleEvt s (AuthorizeRequest.write r.uuid w).event =
      some (s', [.gattsReplyWrite s.connHandle gattStatus update]) ∧
    ((gattStatus = .success ∧ w.offset = 0 ∧
        ∃ value, LittleEndian.wordBytes value = w.data ∧ s' = r.set s value) ∨
      (gattStatus ≠ .success ∧ s' = s))) ∧
  ∃ out, serviceServerOnBleEvt s (.gattsAuthorizeWrite r.uuid w.data []) = some out

/-- A write is handled exactly when it has the size and the place of the whole
characteristic; any other one is taken for such a write, too. -/
theorem serviceServer_takes_or_refuses_iff (s : ServiceServer) (r : Register) (w : GattsWrite) :
    s.TakesOrRefuses r w ↔ w.offset = 0 ∧ w.data.length = 4 := by
  have hevent := serviceServer_writeWord r s w.room
  constructor
  · rintro ⟨⟨s', gattStatus, update, hwrite, hends⟩, -⟩
    cases hevent.symm.trans hwrite
    rcases hends with ⟨-, hoffset, value, hdata, -⟩ | ⟨hrefused, -⟩
    · exact ⟨hoffset, hdata ▸ LittleEndian.length_wordBytes value⟩
    · exact absurd rfl hrefused
  · rintro ⟨hoffset, hlength⟩
    have hword : LittleEndian.word (w.data ++ w.beyond) = LittleEndian.word w.data := by
      rw [LittleEndian.word, List.take_left' hlength, LittleEndian.word,
        List.take_of_length_le (Nat.le_of_eq hlength)]
    refine ⟨⟨_, _, _, hevent, .inl ⟨rfl, hoffset, _, ?_, rfl⟩⟩, ?_⟩
    · rw [hword]
      exact LittleEndian.wordBytes_word hlength
    · exact ⟨_, serviceServer_writeWord r s (Nat.le_of_eq hlength.symm)⟩

/-- One byte sent for the target score comes with three from the event buffer. -/
theorem serviceServer_takes_short :
    let write : GattsWrite := ⟨.writeReq, 0, [7], [0xAA, 0xBB, 0xCC], by decide⟩
    serviceServerOnBleEvt serviceServerReset
        (AuthorizeRequest.write Register.targetScore.uuid write).event =
      some ({ serviceServerReset with targetScore := 0xCCBBAA07 },
        [.gattsReplyWrite 0 .success true]) ∧
      ¬ serviceServerReset.TakesOrRefuses .targetScore write := by
  intro write
  have hevent : serviceServerOnBleEvt serviceServerReset
      (AuthorizeRequest.write Register.targetScore.uuid write).event =
      some ({ serviceServerReset with targetScore := 0xCCBBAA07 },
        [.gattsReplyWrite 0 .success true]) := by
    decide
  refine ⟨hevent, ?_⟩
  rintro ⟨-, out, hdefined⟩
  cases hdefined

end WaterBall
