import WaterBall.Service.Client

/-!
# How the client takes a response or an indication

One law for each of the two handlers that copy received bytes: which variable
they go to and which calls follow.
-/

namespace WaterBall

open Support

-- ---------------------------------------------------------------------------
-- Copies
-- ---------------------------------------------------------------------------

theorem copyToWord_whole (value : UInt32) {data : List UInt8} (h : data.length = 4) :
    copyToWord value 0 data = some (LittleEndian.word data) := by
  have hfits : 0 + data.length ≤ (LittleEndian.wordBytes value).length := by
    rw [LittleEndian.length_wordBytes]
    omega
  have hdrop : (LittleEndian.wordBytes value).drop data.length = [] :=
    List.drop_of_length_le (by rw [LittleEndian.length_wordBytes]; omega)
  rw [copyToWord, Region.copy_of_fits hfits, Option.map_some, Region.splice_zero, hdrop,
    List.append_nil]

@[simp] theorem copyToWord_wordBytes (value value' : UInt32) :
    copyToWord value 0 (LittleEndian.wordBytes value') = some value' := by
  rw [copyToWord_whole value (LittleEndian.length_wordBytes value'),
    LittleEndian.word_wordBytes_self]

@[simp] theorem copyToInfo_bytes (info info' : ServiceInfo) :
    copyToInfo info 0 info'.bytes = some info' := by
  have hlength : info'.bytes.length = info.bytes.length := by
    rw [ServiceInfo.length_bytes, ServiceInfo.length_bytes]
  have hfits : 0 + info'.bytes.length ≤ info.bytes.length := by omega
  have hdrop : info.bytes.drop info'.bytes.length = [] :=
    List.drop_of_length_le (Nat.le_of_eq hlength.symm)
  rw [copyToInfo, Region.copy_of_fits hfits, Option.map_some, Region.splice_zero, hdrop,
    List.append_nil, ServiceInfo.ofBytes_bytes]

-- ---------------------------------------------------------------------------
-- Read responses
-- ---------------------------------------------------------------------------

/-- The calls that enable the indications and start to read the configuration. -/
def configureCalls (c : ServiceClient) : List ClientCall :=
  let value := LittleEndian.halfwordBytes bleGattHvxIndication
  [.gattcWrite c.connHandle .command (configHandle c.info.serverScoreHandle) value,
    .gattcWrite c.connHandle .command (configHandle c.info.gameTimeHandle) value,
    .gattcWrite c.connHandle .command (configHandle c.info.gameStateHandle) value,
    .gattcRead c.connHandle c.info.gameTimeHandle 0]

inductive ReadRspEnds (c : ServiceClient) (handle offset : UInt16) (data : List UInt8) :
    ServiceClient → List ClientCall → Prop
  | info (hinfo : c.serviceHandle.toNat + serviceInfoAttrOffset = handle.toNat)
      (hcopy : copyToInfo c.info offset.toNat data = some info) :
      ReadRspEnds c handle offset data { c with info, state := .connected }
        (configureCalls { c with info })
  | config (gameTime vibration hole targetScore : UInt32) (next : Option UInt16)
      (hinfo : c.serviceHandle.toNat + serviceInfoAttrOffset ≠ handle.toNat)
      (hnext : ∀ h, next = some h → h = c.info.vibrationHandle ∨ h = c.info.holeHandle ∨
        h = c.info.targetScoreHandle) :
      ReadRspEnds c handle offset data
        { c with gameTime, vibration, hole, targetScore, state := .connected }
        (next.toList.map fun h => .gattcRead c.connHandle h 0)

theorem serviceClientOnReadRsp_ends
    (h : serviceClientOnReadRsp c handle offset data = some (c', calls)) :
    ReadRspEnds c handle offset data c' calls := by
  simp only [serviceClientOnReadRsp, Option.bind_eq_bind, Option.pure_def] at h
  split at h
  case isTrue hinfo =>
    obtain ⟨info, hinfo', h⟩ := Option.bind_eq_some_iff.mp h
    cases h
    exact .info hinfo hinfo'
  case isFalse hinfo =>
    split at h
    case isTrue =>
      obtain ⟨gameTime, -, h⟩ := Option.bind_eq_some_iff.mp h
      cases h
      exact .config gameTime c.vibration c.hole c.targetScore (some c.info.vibrationHandle) hinfo
        fun h heq => .inl (Option.some.inj heq).symm
    split at h
    case isTrue =>
      obtain ⟨vibration, -, h⟩ := Option.bind_eq_some_iff.mp h
      cases h
      exact .config c.gameTime vibration c.hole c.targetScore (some c.info.holeHandle) hinfo
        fun h heq => .inr (.inl (Option.some.inj heq).symm)
    split at h
    case isTrue =>
      obtain ⟨hole, -, h⟩ := Option.bind_eq_some_iff.mp h
      cases h
      exact .config c.gameTime c.vibration hole c.targetScore (some c.info.targetScoreHandle) hinfo
        fun h heq => .inr (.inr (Option.some.inj heq).symm)
    split at h
    case isTrue =>
      obtain ⟨targetScore, -, h⟩ := Option.bind_eq_some_iff.mp h
      cases h
      exact .config c.gameTime c.vibration c.hole targetScore none hinfo nofun
    case isFalse =>
      cases h
      exact .config c.gameTime c.vibration c.hole c.targetScore none hinfo nofun

-- ---------------------------------------------------------------------------
-- Indications
-- ---------------------------------------------------------------------------

def confirmCalls (c : ServiceClient) (handle : UInt16) (type : HvxType) : List ClientCall :=
  if type = .indication then [.gattcHvConfirm c.connHandle handle] else []

def ServiceClient.TakesState (c : ServiceClient) (handle : UInt16) : Prop :=
  handle ≠ c.info.serverScoreHandle ∧ handle ≠ c.info.gameTimeHandle ∧
    handle = c.info.gameStateHandle

instance (c : ServiceClient) (handle : UInt16) : Decidable (c.TakesState handle) :=
  inferInstanceAs (Decidable (_ ∧ _))

inductive HvxEnds (uninit : UInt32) (c : ServiceClient) (handle : UInt16) (type : HvxType)
    (data : List UInt8) : ServiceClient → List ClientCall → Prop
  | score (hhandle : handle = c.info.serverScoreHandle)
      (hcopy : copyToWord c.serverScore 0 data = some serverScore) :
      HvxEnds uninit c handle type data { c with serverScore } (confirmCalls c handle type)
  | time (time : UInt32) (hscore : handle ≠ c.info.serverScoreHandle)
      (htime : handle = c.info.gameTimeHandle) :
      HvxEnds uninit c handle type data { c with time } (confirmCalls c handle type)
  | state (hstate : c.TakesState handle) (hcopy : copyToWord uninit 0 data = some state) :
      HvxEnds uninit c handle type data c (.gameSetState state :: confirmCalls c handle type)
  | other (hscore : handle ≠ c.info.serverScoreHandle) (hstate : handle ≠ c.info.gameStateHandle) :
      HvxEnds uninit c handle type data c (confirmCalls c handle type)

theorem serviceClientOnHvx_ends
    (h : serviceClientOnHvx uninit c handle type data = some (c', calls)) :
    HvxEnds uninit c handle type data c' calls := by
  simp only [serviceClientOnHvx, Option.bind_eq_bind, Option.pure_def] at h
  split at h
  case isTrue hscore =>
    obtain ⟨serverScore, hscore', h⟩ := Option.bind_eq_some_iff.mp h
    cases h
    exact .score hscore hscore'
  case isFalse hscore =>
    split at h
    case isTrue htime =>
      obtain ⟨time, -, h⟩ := Option.bind_eq_some_iff.mp h
      cases h
      exact .time time hscore htime
    case isFalse htime =>
      split at h
      case isTrue hstate =>
        obtain ⟨state, hstate', h⟩ := Option.bind_eq_some_iff.mp h
        cases h
        exact .state ⟨hscore, htime, hstate⟩ hstate'
      case isFalse hstate =>
        cases h
        exact .other hscore hstate

-- ---------------------------------------------------------------------------
-- States that reach the game
-- ---------------------------------------------------------------------------

def ServiceClient.stateIndication (c : ServiceClient) : BleEvt → Option (List UInt8)
  | .gattcHvx handle _ data => if c.TakesState handle then some data else none
  | _ => none

def ClientCall.stateSet : ClientCall → Option UInt32
  | gameSetState state => some state
  | _ => none

theorem configureCalls_stateSet (c : ServiceClient) :
    (configureCalls c).filterMap ClientCall.stateSet = [] := rfl

theorem confirmCalls_stateSet (c : ServiceClient) (handle : UInt16) (type : HvxType) :
    (confirmCalls c handle type).filterMap ClientCall.stateSet = [] := by
  unfold confirmCalls
  split <;> rfl

/-- The client sets the game's state for a state indication only, and then once. -/
theorem serviceClientOnBleEvt_stateSet
    (h : serviceClientOnBleEvt uninit c evt = some (c', calls)) :
    (c.stateIndication evt = none ∧ calls.filterMap ClientCall.stateSet = []) ∨
      ∃ data state, c.stateIndication evt = some data ∧ copyToWord uninit 0 data = some state ∧
        calls.filterMap ClientCall.stateSet = [state] := by
  cases evt with
  | gattcPrimSrvcDiscRsp status startHandles =>
    refine .inl ⟨rfl, ?_⟩
    have hcalls : (serviceClientOnPrimSrvcDiscRsp c status startHandles).2 = calls :=
      congrArg Prod.snd (Option.some.inj h)
    rw [← hcalls]
    cases status with
    | success =>
      simp only [serviceClientOnPrimSrvcDiscRsp]
      split <;> rfl
    | attributeNotFound =>
      simp only [serviceClientOnPrimSrvcDiscRsp]
      split <;> rfl
    | other => rfl
  | gattcReadRsp handle offset data =>
    refine .inl ⟨rfl, ?_⟩
    cases serviceClientOnReadRsp_ends h with
    | info => exact configureCalls_stateSet _
    | config _ _ _ _ next => cases next <;> rfl
  | gattcHvx handle type data =>
    cases serviceClientOnHvx_ends h with
    | score hhandle =>
      refine .inl ⟨?_, confirmCalls_stateSet ..⟩
      exact if_neg fun hstate => hstate.1 hhandle
    | time _ _ htime =>
      refine .inl ⟨?_, confirmCalls_stateSet ..⟩
      exact if_neg fun hstate => hstate.2.1 htime
    | state hstate hcopy =>
      refine .inr ⟨data, _, if_pos hstate, hcopy, ?_⟩
      exact congrArg (List.cons _) (confirmCalls_stateSet ..)
    | other _ hne =>
      refine .inl ⟨?_, confirmCalls_stateSet ..⟩
      exact if_neg fun hstate => hne hstate.2.2
  | _ =>
    cases h
    exact .inl ⟨rfl, rfl⟩

end WaterBall
