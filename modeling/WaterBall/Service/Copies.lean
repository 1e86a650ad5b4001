import WaterBall.Service.ClientLaws

/-!
# Where the client puts what it receives

A received value belongs to one variable of the client. The lengths are the
peer's and are not checked, and the words of the configuration are offset in
words where the table of handles is offset in bytes. The handler is defined
exactly when its copy stays in the variable, and then it is the variable's
place that the value goes to and all else is as it was.
-/

namespace WaterBall

open Support

inductive ClientObject
  | info
  | gameTime
  | vibration
  | hole
  | targetScore
  | serverScore
  | time
  | state
  deriving DecidableEq, Repr

def ClientObject.size : ClientObject → Nat
  | info => 16
  | gameTime | vibration | hole | targetScore | serverScore | time | state => 4

/-- The bytes of an object, with `uninit` in the local variable. -/
def ServiceClient.bytesOf (uninit : UInt32) (c : ServiceClient) : ClientObject → List UInt8
  | .info => c.info.bytes
  | .gameTime => LittleEndian.wordBytes c.gameTime
  | .vibration => LittleEndian.wordBytes c.vibration
  | .hole => LittleEndian.wordBytes c.hole
  | .targetScore => LittleEndian.wordBytes c.targetScore
  | .serverScore => LittleEndian.wordBytes c.serverScore
  | .time => LittleEndian.wordBytes c.time
  | .state => LittleEndian.wordBytes uninit

/-- The same after a handler, which gives the local variable to the game. -/
def ServiceClient.bytesAfter (uninit : UInt32) (c : ServiceClient) (calls : List ClientCall) :
    ClientObject → List UInt8 :=
  c.bytesOf ((calls.findSome? ClientCall.stateSet).getD uninit)

/-- A value for an object, from the byte `start` of it on. -/
structure Received where
  object : ClientObject
  start : Nat
  data : List UInt8
  deriving DecidableEq

/-- The value that an event brings. A read response has the part of it from
`offset` on, an indication all of it. -/
def ServiceClient.receives (c : ServiceClient) : BleEvt → Option Received
  | .gattcReadRsp handle offset data =>
    if c.serviceHandle.toNat + serviceInfoAttrOffset = handle.toNat then
      some ⟨.info, offset.toNat, data⟩
    else if c.info.gameTimeHandle = handle then some ⟨.gameTime, offset.toNat, data⟩
    else if c.info.vibrationHandle = handle then some ⟨.vibration, offset.toNat, data⟩
    else if c.info.holeHandle = handle then some ⟨.hole, offset.toNat, data⟩
    else if c.info.targetScoreHandle = handle then some ⟨.targetScore, offset.toNat, data⟩
    else none
  | .gattcHvx handle _ data =>
    if handle = c.info.serverScoreHandle then some ⟨.serverScore, 0, data⟩
    else if handle = c.info.gameTimeHandle then some ⟨.time, 0, data⟩
    else if handle = c.info.gameStateHandle then some ⟨.state, 0, data⟩
    else none
  | _ => none

/-- The value is in its object, at its place, and nothing else has changed. -/
structure Received.Stored (value : Received) (uninit : UInt32) (c c' : ServiceClient)
    (calls : List ClientCall) : Prop where
  fits : value.data = [] ∨ value.start + value.data.length ≤ value.object.size
  bytes : c'.bytesAfter uninit calls value.object =
    Region.splice (c.bytesOf uninit value.object) value.start value.data
  others : ∀ object ≠ value.object, c'.bytesAfter uninit calls object = c.bytesOf uninit object
  serviceHandle : c'.serviceHandle = c.serviceHandle
  connHandle : c'.connHandle = c.connHandle
  currentTime : serviceClientGetCurrentTime c' = serviceClientGetCurrentTime c

/-- The handler stores what the event brings in the variable that it belongs to. -/
def ServiceClient.StoresInside (uninit : UInt32) (c : ServiceClient) (evt : BleEvt) : Prop :=
  ∃ c' calls, serviceClientOnBleEvt uninit c evt = some (c', calls) ∧
    match c.receives evt with
    | some value => value.Stored uninit c c' calls
    | none => ∀ object, c'.bytesAfter uninit calls object = c.bytesOf uninit object

-- ---------------------------------------------------------------------------
-- Copies
-- ---------------------------------------------------------------------------

theorem copyToWord_eq_some : copyToWord value start data = some value' ↔
    (data = [] ∨ start + data.length ≤ 4) ∧
      LittleEndian.wordBytes value' = Region.splice (LittleEndian.wordBytes value) start data := by
  have hlen := LittleEndian.length_wordBytes value
  simp only [copyToWord, Option.map_eq_some_iff, Region.copy_eq_some, hlen]
  constructor
  · rintro ⟨_, ⟨hfits, rfl⟩, rfl⟩
    refine ⟨hfits, LittleEndian.wordBytes_word ?_⟩
    rw [Region.length_splice_of_copy (hlen ▸ hfits), hlen]
  · rintro ⟨hfits, heq⟩
    exact ⟨_, ⟨hfits, rfl⟩, by rw [← heq, LittleEndian.word_wordBytes_self]⟩

theorem ServiceInfo.bytes_ofBytes {bytes : List UInt8} (h : bytes.length = 16) :
    (ServiceInfo.ofBytes bytes).bytes = bytes := by
  have hhalf : ∀ n, n + 2 ≤ 16 → LittleEndian.halfwordBytes (LittleEndian.halfword (bytes.drop n)) =
      Region.slice bytes n 2 := by
    intro n hn
    exact LittleEndian.halfwordBytes_halfword (by rw [List.length_drop]; omega)
  have hfirst : LittleEndian.halfwordBytes (LittleEndian.halfword bytes) = Region.slice bytes 0 2 :=
    LittleEndian.halfwordBytes_halfword (by omega)
  simp only [ServiceInfo.bytes, ServiceInfo.ofBytes, hfirst, hhalf, Nat.reduceAdd, Nat.reduceLeDiff]
  simp only [← List.append_assoc, Region.slice_append_slice bytes 0, Nat.reduceAdd]
  rw [Region.slice_zero_start, List.take_of_length_le (Nat.le_of_eq h)]

theorem copyToInfo_eq_some : copyToInfo info start data = some info' ↔
    (data = [] ∨ start + data.length ≤ 16) ∧
      info'.bytes = Region.splice info.bytes start data := by
  have hlen := info.length_bytes
  simp only [copyToInfo, Option.map_eq_some_iff, Region.copy_eq_some, hlen]
  constructor
  · rintro ⟨_, ⟨hfits, rfl⟩, rfl⟩
    refine ⟨hfits, ServiceInfo.bytes_ofBytes ?_⟩
    rw [Region.length_splice_of_copy (hlen ▸ hfits), hlen]
  · rintro ⟨hfits, heq⟩
    exact ⟨_, ⟨hfits, rfl⟩, by rw [← heq, ServiceInfo.ofBytes_bytes]⟩

theorem copyToWord_isSome_iff (value : UInt32) (start : Nat) (data : List UInt8) :
    (∃ value', copyToWord value start data = some value') ↔
      data = [] ∨ start + data.length ≤ 4 := by
  constructor
  · rintro ⟨value', h⟩
    exact (copyToWord_eq_some.mp h).1
  · intro hfits
    have hlen := LittleEndian.length_wordBytes value
    have hcopy := Region.copy_eq_some (m := LittleEndian.wordBytes value).mpr
      ⟨hlen.symm ▸ hfits, rfl⟩
    exact ⟨_, congrArg (Option.map _) hcopy⟩

theorem copyToInfo_isSome_iff (info : ServiceInfo) (start : Nat) (data : List UInt8) :
    (∃ info', copyToInfo info start data = some info') ↔
      data = [] ∨ start + data.length ≤ 16 := by
  constructor
  · rintro ⟨info', h⟩
    exact (copyToInfo_eq_some.mp h).1
  · intro hfits
    have hlen := info.length_bytes
    have hcopy := Region.copy_eq_some (m := info.bytes).mpr ⟨hlen.symm ▸ hfits, rfl⟩
    exact ⟨_, congrArg (Option.map _) hcopy⟩

-- ---------------------------------------------------------------------------
-- Sites
-- ---------------------------------------------------------------------------

def ServiceClient.IsConfig (c : ServiceClient) (handle : UInt16) : Prop :=
  c.info.gameTimeHandle = handle ∨ c.info.vibrationHandle = handle ∨
    c.info.holeHandle = handle ∨ c.info.targetScoreHandle = handle

def ServiceClient.IsIndicated (c : ServiceClient) (handle : UInt16) : Prop :=
  handle = c.info.serverScoreHandle ∨ handle = c.info.gameTimeHandle ∨
    handle = c.info.gameStateHandle

/-- The lengths and offsets that the client's copies are made for. -/
def ServiceClient.WellSized (c : ServiceClient) : BleEvt → Prop
  | .gattcReadRsp handle offset data =>
    if c.serviceHandle.toNat + serviceInfoAttrOffset = handle.toNat then
      data = [] ∨ offset.toNat + data.length ≤ 16
    else c.IsConfig handle → data = [] ∨ offset = 0 ∧ data.length ≤ 4
  | .gattcHvx handle _ data => c.IsIndicated handle → data.length ≤ 4
  | _ => True

section
variable {uninit : UInt32} {c : ServiceClient} {evt : BleEvt}

theorem ServiceClient.storesInside_iff {α : Type} {copied : Option α} (value : Received)
    (make : α → ServiceClient × List ClientCall) (hreceives : c.receives evt = some value)
    (hrun : serviceClientOnBleEvt uninit c evt = copied.map make)
    (hstored : ∀ a, copied = some a → value.Stored uninit c (make a).1 (make a).2) :
    c.StoresInside uninit evt ↔ ∃ a, copied = some a := by
  rw [ServiceClient.StoresInside, hreceives, hrun]
  constructor
  · rintro ⟨c', calls, h, -⟩
    obtain ⟨a, ha, -⟩ := Option.map_eq_some_iff.mp h
    exact ⟨a, ha⟩
  · rintro ⟨a, ha⟩
    exact ⟨_, _, congrArg (Option.map make) ha, hstored a ha⟩

theorem config_fits_iff (offset : UInt16) (data : List UInt8) :
    data = [] ∨ 4 * offset.toNat + data.length ≤ 4 ↔
      data = [] ∨ offset = 0 ∧ data.length ≤ 4 := by
  refine or_congr_right' fun hdata => ?_
  have hpos : 0 < data.length := List.length_pos_iff.mpr hdata
  constructor
  · intro hfits
    exact ⟨UInt16.toNat_inj.mp (by show offset.toNat = 0; omega), by omega⟩
  · rintro ⟨rfl, hfits⟩
    simpa using hfits

def ServiceClient.setWord (c : ServiceClient) (value : UInt32) : ClientObject → ServiceClient
  | .gameTime => { c with gameTime := value }
  | .vibration => { c with vibration := value }
  | .hole => { c with hole := value }
  | .targetScore => { c with targetScore := value }
  | .serverScore => { c with serverScore := value }
  | .time => { c with time := value }
  | .info | .state => c

theorem ServiceClient.stored_setWord {object : ClientObject} (hinfo : object ≠ .info)
    (hlocal : object ≠ .state) {start : Nat} {data : List UInt8} {value : UInt32}
    {calls : List ClientCall} (state : ServiceClientState)
    (hcalls : calls.findSome? ClientCall.stateSet = none)
    (hfits : data = [] ∨ start + data.length ≤ 4)
    (hbytes : LittleEndian.wordBytes value = Region.splice (c.bytesOf uninit object) start data) :
    Received.Stored ⟨object, start, data⟩ uninit c { c.setWord value object with state } calls := by
  have hafter : ∀ c' : ServiceClient, c'.bytesAfter uninit calls = c'.bytesOf uninit := by
    intro c'
    rw [bytesAfter, hcalls]
    rfl
  cases object with
  | info => exact absurd rfl hinfo
  | state => exact absurd rfl hlocal
  | _ =>
    refine ⟨hfits, ?_, fun o hne => ?_, rfl, rfl, rfl⟩
    · rw [hafter]
      exact hbytes
    · rw [hafter]
      cases o <;> first | rfl | exact absurd rfl hne

/-- A word is stored where it belongs exactly when it starts at 0, if it has a
byte at all. -/
theorem ServiceClient.storesInside_word {word : UInt32} {offset : UInt16} {data : List UInt8}
    {object : ClientObject} (hinfo : object ≠ .info) (hlocal : object ≠ .state)
    (hword : c.bytesOf uninit object = LittleEndian.wordBytes word)
    (hreceives : c.receives evt = some ⟨object, offset.toNat, data⟩)
    (state : ServiceClientState) (calls : List ClientCall)
    (hcalls : calls.findSome? ClientCall.stateSet = none)
    (hrun : serviceClientOnBleEvt uninit c evt = (copyToWord word (4 * offset.toNat) data).map
      fun value => ({ c.setWord value object with state }, calls)) :
    c.StoresInside uninit evt ↔ data = [] ∨ offset = 0 ∧ data.length ≤ 4 := by
  rw [← config_fits_iff, ← copyToWord_isSome_iff word]
  refine storesInside_iff _ _ hreceives hrun fun value hcopy => ?_
  obtain ⟨hfits, hbytes⟩ := copyToWord_eq_some.mp hcopy
  rw [← hword] at hbytes
  rcases (config_fits_iff offset data).mp hfits with rfl | ⟨rfl, hlength⟩
  · refine stored_setWord hinfo hlocal state hcalls (.inl rfl) ?_
    rw [hbytes, Region.splice_nil, Region.splice_nil]
  · exact stored_setWord hinfo hlocal state hcalls (.inr (by simpa using hlength)) hbytes

theorem ServiceClient.storesInside_info
    (h : c.serviceHandle.toNat + serviceInfoAttrOffset = handle.toNat)
    (offset : UInt16) (data : List UInt8) :
    c.StoresInside uninit (.gattcReadRsp handle offset data) ↔
      data = [] ∨ offset.toNat + data.length ≤ 16 := by
  rw [← copyToInfo_isSome_iff c.info]
  refine storesInside_iff ⟨.info, offset.toNat, data⟩
    (fun info => ({ c with info, state := .connected }, configureCalls { c with info }))
    (if_pos h) ?_ fun info hcopy => ?_
  · show serviceClientOnReadRsp c handle offset data = _
    unfold serviceClientOnReadRsp
    rw [if_pos h]
    cases copyToInfo c.info offset.toNat data <;> rfl
  · obtain ⟨hfits, hbytes⟩ := copyToInfo_eq_some.mp hcopy
    exact ⟨hfits, hbytes, fun object hne => by cases object <;> first | rfl | exact absurd rfl hne,
      rfl, rfl, rfl⟩

theorem ServiceClient.storesInside_config
    (hinfo : ¬ c.serviceHandle.toNat + serviceInfoAttrOffset = handle.toNat) (offset : UInt16)
    (data : List UInt8) :
    c.StoresInside uninit (.gattcReadRsp handle offset data) ↔
      (c.IsConfig handle → data = [] ∨ offset = 0 ∧ data.length ≤ 4) := by
  have hrsp : serviceClientOnBleEvt uninit c (.gattcReadRsp handle offset data) =
      serviceClientOnReadRsp c handle offset data := rfl
  rw [serviceClientOnReadRsp, if_neg hinfo] at hrsp
  have hreceives : c.receives (.gattcReadRsp handle offset data) = _ := if_neg hinfo
  by_cases hgameTime : c.info.gameTimeHandle = handle
  · have hconfig : c.IsConfig handle := .inl hgameTime
    rw [if_pos hgameTime] at hrsp hreceives
    refine .trans ?_ (imp_iff_right hconfig).symm
    refine storesInside_word (by decide) (by decide) rfl hreceives .connected
      [.gattcRead c.connHandle c.info.vibrationHandle 0] rfl (hrsp.trans ?_)
    cases copyToWord c.gameTime (4 * offset.toNat) data <;> rfl
  rw [if_neg hgameTime] at hrsp hreceives
  by_cases hvibration : c.info.vibrationHandle = handle
  · have hconfig : c.IsConfig handle := .inr (.inl hvibration)
    rw [if_pos hvibration] at hrsp hreceives
    refine .trans ?_ (imp_iff_right hconfig).symm
    refine storesInside_word (by decide) (by decide) rfl hreceives .connected
      [.gattcRead c.connHandle c.info.holeHandle 0] rfl (hrsp.trans ?_)
    cases copyToWord c.vibration (4 * offset.toNat) data <;> rfl
  rw [if_neg hvibration] at hrsp hreceives
  by_cases hhole : c.info.holeHandle = handle
  · have hconfig : c.IsConfig handle := .inr (.inr (.inl hhole))
    rw [if_pos hhole] at hrsp hreceives
    refine .trans ?_ (imp_iff_right hconfig).symm
    refine storesInside_word (by decide) (by decide) rfl hreceives .connected
      [.gattcRead c.connHandle c.info.targetScoreHandle 0] rfl (hrsp.trans ?_)
    cases copyToWord c.hole (4 * offset.toNat) data <;> rfl
  rw [if_neg hhole] at hrsp hreceives
  by_cases htarget : c.info.targetScoreHandle = handle
  · have hconfig : c.IsConfig handle := .inr (.inr (.inr htarget))
    rw [if_pos htarget] at hrsp hreceives
    refine .trans ?_ (imp_iff_right hconfig).symm
    refine storesInside_word (by decide) (by decide) rfl hreceives .connected
      [] rfl (hrsp.trans ?_)
    cases copyToWord c.targetScore (4 * offset.toNat) data <;> rfl
  · rw [if_neg htarget] at hrsp hreceives
    refine iff_of_true ⟨_, _, hrsp, ?_⟩ ?_
    · rw [hreceives]
      exact fun object => by cases object <;> rfl
    · rintro (h | h | h | h) <;> contradiction

theorem confirmCalls_findSome (c : ServiceClient) (handle : UInt16) (type : HvxType) :
    (confirmCalls c handle type).findSome? ClientCall.stateSet = none := by
  unfold confirmCalls
  split <;> rfl

theorem nil_or_length_le (data : List UInt8) (n : Nat) :
    data = [] ∨ data.length ≤ n ↔ data.length ≤ n := by
  refine or_iff_right_of_imp ?_
  rintro rfl
  exact Nat.zero_le n

theorem ServiceClient.storesInside_state (handle : UInt16) (type : HvxType) (data : List UInt8)
    (hreceives : c.receives (.gattcHvx handle type data) = some ⟨.state, 0, data⟩)
    (hrun : serviceClientOnBleEvt uninit c (.gattcHvx handle type data) =
      (copyToWord uninit 0 data).map fun state =>
        (c, .gameSetState state :: confirmCalls c handle type)) :
    c.StoresInside uninit (.gattcHvx handle type data) ↔ data.length ≤ 4 := by
  rw [← nil_or_length_le, ← Nat.zero_add data.length, ← copyToWord_isSome_iff uninit]
  refine storesInside_iff _ _ hreceives hrun fun state hcopy => ?_
  obtain ⟨hfits, hbytes⟩ := copyToWord_eq_some.mp hcopy
  exact ⟨hfits, hbytes, fun object hne => by cases object <;> first | rfl | exact absurd rfl hne,
    rfl, rfl, rfl⟩

theorem ServiceClient.storesInside_hvx (handle : UInt16) (type : HvxType) (data : List UInt8) :
    c.StoresInside uninit (.gattcHvx handle type data) ↔
      (c.IsIndicated handle → data.length ≤ 4) := by
  have hhvx : serviceClientOnBleEvt uninit c (.gattcHvx handle type data) =
      serviceClientOnHvx uninit c handle type data := rfl
  rw [serviceClientOnHvx] at hhvx
  have hcalls := confirmCalls_findSome c handle type
  -- An indication starts at 0, in words as in bytes.
  have hfits : (data = [] ∨ (0 : UInt16) = 0 ∧ data.length ≤ 4) ↔ data.length ≤ 4 := by
    rw [eq_self, true_and]
    exact nil_or_length_le data 4
  by_cases hscore : handle = c.info.serverScoreHandle
  · have hindicated : c.IsIndicated handle := .inl hscore
    rw [if_pos hscore] at hhvx
    have hreceives : c.receives (.gattcHvx handle type data) = _ := if_pos hscore
    refine .trans ?_ (hfits.trans (imp_iff_right hindicated).symm)
    refine storesInside_word (by decide) (by decide) rfl hreceives c.state _ hcalls (hhvx.trans ?_)
    show _ = (copyToWord c.serverScore 0 data).map _
    cases copyToWord c.serverScore 0 data <;> rfl
  have hreceives : c.receives (.gattcHvx handle type data) = _ := if_neg hscore
  rw [if_neg hscore] at hhvx
  by_cases htime : handle = c.info.gameTimeHandle
  · have hindicated : c.IsIndicated handle := .inr (.inl htime)
    rw [if_pos htime] at hhvx hreceives
    refine .trans ?_ (hfits.trans (imp_iff_right hindicated).symm)
    refine storesInside_word (by decide) (by decide) rfl hreceives c.state _ hcalls (hhvx.trans ?_)
    show _ = (copyToWord c.time 0 data).map _
    cases copyToWord c.time 0 data <;> rfl
  rw [if_neg htime] at hhvx hreceives
  by_cases hstate : handle = c.info.gameStateHandle
  · have hindicated : c.IsIndicated handle := .inr (.inr hstate)
    rw [if_pos hstate] at hhvx hreceives
    refine (storesInside_state handle type data hreceives (hhvx.trans ?_)).trans
      (imp_iff_right hindicated).symm
    cases copyToWord uninit 0 data <;> rfl
  · rw [if_neg hstate] at hhvx hreceives
    refine iff_of_true ⟨_, _, hhvx, ?_⟩ ?_
    · rw [hreceives]
      intro object
      show c.bytesAfter uninit (confirmCalls c handle type) object = _
      rw [bytesAfter, hcalls]
      rfl
    · rintro (h | h | h) <;> contradiction

-- ---------------------------------------------------------------------------
-- Events
-- ---------------------------------------------------------------------------

/-- What a peer sends is stored in the variable that it belongs to, and nowhere
else, exactly when its length and offset are those of that variable. -/
theorem serviceClientOnBleEvt_stores_inside_iff (uninit : UInt32) (c : ServiceClient)
    (evt : BleEvt) : c.StoresInside uninit evt ↔ c.WellSized evt := by
  cases evt with
  | gattcReadRsp handle offset data =>
    unfold ServiceClient.WellSized
    dsimp only
    split
    case isTrue hinfo => exact c.storesInside_info hinfo offset data
    case isFalse hinfo => exact c.storesInside_config hinfo offset data
  | gattcHvx handle type data => exact c.storesInside_hvx handle type data
  | gattcPrimSrvcDiscRsp status startHandles =>
    refine iff_of_true ⟨_, _, rfl, fun object => ?_⟩ trivial
    cases status with
    | success =>
      dsimp only
      split <;> cases object <;> rfl
    | attributeNotFound =>
      dsimp only
      split <;> cases object <;> rfl
    | other => cases object <;> rfl
  | _ => exact iff_of_true ⟨_, _, rfl, fun object => by cases object <;> rfl⟩ trivial

end

def informedClient : ServiceClient :=
  { serviceClientReset with
    state := .connected
    serviceHandle := 0x10
    info := ⟨0x14, 0x17, 0x19, 0x1C, 0x1F, 0x21, 0x23, 0x25⟩ }

/-- A game time of five bytes goes one byte too far; one that starts at its
second byte goes behind the variable altogether. -/
theorem serviceClientOnBleEvt_stores_outside :
    informedClient.receives (.gattcReadRsp 0x1F 0 [1, 2, 3, 4, 5]) =
        some ⟨.gameTime, 0, [1, 2, 3, 4, 5]⟩ ∧
      serviceClientOnBleEvt 0 informedClient (.gattcReadRsp 0x1F 0 [1, 2, 3, 4, 5]) = none ∧
      ¬ informedClient.StoresInside 0 (.gattcReadRsp 0x1F 0 [1, 2, 3, 4, 5]) ∧
      informedClient.receives (.gattcReadRsp 0x1F 1 [2]) = some ⟨.gameTime, 1, [2]⟩ ∧
      serviceClientOnBleEvt 0 informedClient (.gattcReadRsp 0x1F 1 [2]) = none ∧
      ¬ informedClient.StoresInside 0 (.gattcReadRsp 0x1F 1 [2]) := by
  refine ⟨by decide, by decide, ?_, by decide, by decide, ?_⟩
  · rintro ⟨c', calls, h, -⟩
    cases h
  · rintro ⟨c', calls, h, -⟩
    cases h

end WaterBall
