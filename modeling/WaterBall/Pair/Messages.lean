import WaterBall.Service.ClientLaws
import WaterBall.Service.Registers
import WaterBall.Game.OwnSteps
import WaterBall.Pair.Link

/-!
# The messages between two devices

Which messages the two devices have in flight, and how each of them reacts to
one. What makes a message proper is what the client knows of its server, and
the client does not forget.
-/

namespace WaterBall

open Support

-- ---------------------------------------------------------------------------
-- Handles
-- ---------------------------------------------------------------------------

section
variable (a : Attributes)

theorem Attributes.toNat_infoHandle :
    a.infoHandle.toNat = a.serviceHandle.toNat + serviceInfoAttrOffset := by
  unfold Attributes.infoHandle
  rw [UInt16.toNat_add]
  exact Nat.mod_eq_of_lt a.service_le

theorem Attributes.serviceHandle_ne_invalid : bleConnHandleInvalid ≠ a.serviceHandle := by
  intro h
  have hle := a.service_le
  rw [← h] at hle
  revert hle
  decide

/-- A search that goes on behind the service finds nothing. -/
theorem Attributes.not_succ_serviceHandle_le : ¬ a.serviceHandle + 1 ≤ a.serviceHandle := by
  have hsucc : (a.serviceHandle + 1).toNat = a.serviceHandle.toNat + 1 := by
    rw [UInt16.toNat_add]
    exact Nat.mod_eq_of_lt (Nat.lt_of_succ_lt a.service_le)
  rw [UInt16.le_iff_toNat_le, hsucc]
  exact Nat.not_succ_le_self _

def Attributes.Configuration (handle : UInt16) : Prop :=
  handle = a.info.gameTimeHandle ∨ handle = a.info.vibrationHandle ∨
    handle = a.info.holeHandle ∨ handle = a.info.targetScoreHandle

theorem Attributes.info_not_configuration : ¬ a.Configuration a.infoHandle := by
  have h := a.distinct
  simp only [List.nodup_cons, List.mem_cons, not_or] at h
  obtain ⟨⟨-, -, -, -, htime, hvibration, hhole, htarget, -⟩, -⟩ := h
  rintro (h | h | h | h)
  · exact htime h
  · exact hvibration h
  · exact hhole h
  · exact htarget h

theorem Attributes.gameState_ne_serverScore :
    a.info.gameStateHandle ≠ a.info.serverScoreHandle := by
  have h := a.distinct
  simp only [List.nodup_cons, List.mem_cons, not_or] at h
  exact Ne.symm h.2.1.2.1

theorem Attributes.gameState_ne_gameTime : a.info.gameStateHandle ≠ a.info.gameTimeHandle := by
  have h := a.distinct
  simp only [List.nodup_cons, List.mem_cons, not_or] at h
  exact h.2.2.2.1.2.1

theorem Attributes.uuidAt_info : a.uuidAt a.infoHandle = some serviceInfoUuid := by
  simp [Attributes.uuidAt, Attributes.valueHandles, characteristics]

theorem Attributes.uuidAt_clientScore :
    a.uuidAt a.info.clientScoreHandle = some serviceClientScoreUuid := by
  have h := a.distinct
  simp only [List.nodup_cons, List.mem_cons, not_or] at h
  have hinfo : a.infoHandle ≠ a.info.clientScoreHandle := h.1.2.1
  have hscore : a.info.serverScoreHandle ≠ a.info.clientScoreHandle := h.2.1.1
  simp [Attributes.uuidAt, Attributes.valueHandles, characteristics, hinfo, hscore]

end

-- ---------------------------------------------------------------------------
-- Proper messages
-- ---------------------------------------------------------------------------

/-- The client has found the service and read its table of handles. -/
structure Informed (a : Attributes) (c : ServiceClient) : Prop where
  serviceHandle : c.serviceHandle = a.serviceHandle
  info : c.info = a.info

def ToServer.Proper (a : Attributes) (c : ServiceClient) : ToServer → Prop
  | discover startHandle => startHandle = serviceClientStartHandle ∨
      startHandle = a.serviceHandle + 1 ∧ c.serviceHandle = a.serviceHandle
  | read handle offset => offset = 0 ∧
      (handle = a.infoHandle ∧ c.serviceHandle = a.serviceHandle ∨
        a.Configuration handle ∧ Informed a c)
  | writeRequest handle data => handle = a.info.clientScoreHandle ∧
      (∃ score, data = LittleEndian.wordBytes score) ∧ Informed a c
  | writeCommand _ _ => Informed a c
  | confirm _ => True

def ToClient.Proper (a : Attributes) (c : ServiceClient) : ToClient → Prop
  | services status startHandles =>
      status = .success ∧ startHandles = [a.serviceHandle] ∨
      status = .attributeNotFound ∧ c.serviceHandle = a.serviceHandle
  | value handle offset data => offset = 0 ∧
      (handle = a.infoHandle ∧ data = a.info.bytes ∧ c.serviceHandle = a.serviceHandle ∨
        a.Configuration handle ∧ Informed a c)
  | written => True
  | handleValue handle _ data => Informed a c ∧
      ((handle = a.info.serverScoreHandle ∧ ∃ score, data = LittleEndian.wordBytes score) ∨
        handle = a.info.gameStateHandle ∧
          (data = indicated .init ∨ data = indicated .initializingGame))

/-- The score that a message carries. -/
def ToServer.score (a : Attributes) : ToServer → Option UInt32
  | writeRequest handle data =>
    if handle = a.info.clientScoreHandle then some (LittleEndian.word data) else none
  | _ => none

def ToClient.score (a : Attributes) : ToClient → Option UInt32
  | handleValue handle _ data =>
    if handle = a.info.serverScoreHandle then some (LittleEndian.word data) else none
  | _ => none

def Pair.scoresToServer (a : Attributes) (p : Pair) : List UInt32 :=
  p.toServer.filterMap (ToServer.score a)

def Pair.scoresToClient (a : Attributes) (p : Pair) : List UInt32 :=
  p.toClient.filterMap (ToClient.score a)

structure Learns (a : Attributes) (c c' : ServiceClient) : Prop where
  serviceHandle : c.serviceHandle = a.serviceHandle → c'.serviceHandle = a.serviceHandle
  info : Informed a c → Informed a c'

theorem Learns.of_eq (hservice : c'.serviceHandle = c.serviceHandle) (hinfo : c'.info = c.info) :
    Learns a c c' :=
  ⟨hservice.trans, fun h => ⟨hservice.trans h.serviceHandle, hinfo.trans h.info⟩⟩

theorem ToServer.Proper.mono {m : ToServer} (hm : m.Proper a c) (h : Learns a c c') :
    m.Proper a c' := by
  cases m with
  | discover startHandle => exact hm.imp_right (And.imp_right h.serviceHandle)
  | read handle offset =>
    exact ⟨hm.1, hm.2.imp (And.imp_right h.serviceHandle) (And.imp_right h.info)⟩
  | writeRequest handle data => exact ⟨hm.1, hm.2.1, h.info hm.2.2⟩
  | writeCommand handle data => exact h.info hm
  | confirm => trivial

theorem ToClient.Proper.mono {m : ToClient} (hm : m.Proper a c) (h : Learns a c c') :
    m.Proper a c' := by
  cases m with
  | services status startHandles => exact hm.imp_right (And.imp_right h.serviceHandle)
  | value handle offset data =>
    refine ⟨hm.1, hm.2.imp ?_ (And.imp_right h.info)⟩
    exact And.imp_right (And.imp_right h.serviceHandle)
  | written => trivial
  | handleValue handle type data => exact ⟨h.info hm.1, hm.2⟩

-- ---------------------------------------------------------------------------
-- The client's reaction
-- ---------------------------------------------------------------------------

/-- A proper message teaches the client, brings a score or not, and is
followed by proper requests, none of them with a score. -/
structure Taken (a : Attributes) (c c' : ServiceClient) (m : ToClient) (calls : List ClientCall) :
    Prop where
  learns : Learns a c c'
  serverScore : c'.serverScore = (m.score a).getD c.serverScore
  connected : c'.state = .connected → c.state = .connected ∨ Informed a c'
  stays : c.state = .connected → c'.state = .connected
  requests : ∀ call ∈ calls, ∀ request, DeviceCall.request (.client call) = some request →
    request.Proper a c' ∧ request.score a = none

theorem configureCalls_proper (hc : Informed a c) :
    ∀ call ∈ configureCalls c, ∀ request, DeviceCall.request (.client call) = some request →
      request.Proper a c ∧ request.score a = none := by
  unfold configureCalls
  simp only [List.forall_mem_cons]
  refine ⟨?_, ?_, ?_, ?_, nofun⟩
  all_goals
    intro request h
    cases h
  · exact ⟨hc, rfl⟩
  · exact ⟨hc, rfl⟩
  · exact ⟨hc, rfl⟩
  · exact ⟨⟨rfl, .inr ⟨.inl (by rw [hc.info]), hc⟩⟩, rfl⟩

theorem confirmCalls_proper (c : ServiceClient) (handle : UInt16) (type : HvxType) :
    ∀ call ∈ confirmCalls c handle type, ∀ request,
      DeviceCall.request (.client call) = some request →
        request.Proper a c' ∧ request.score a = none := by
  unfold confirmCalls
  split
  · simp only [List.forall_mem_cons]
    refine ⟨?_, nofun⟩
    intro request h
    cases h
    exact ⟨trivial, rfl⟩
  · nofun

theorem taken_services (hm : (ToClient.services status startHandles).Proper a c) :
    Taken a c (serviceClientOnPrimSrvcDiscRsp c status startHandles).1
      (.services status startHandles) (serviceClientOnPrimSrvcDiscRsp c status startHandles).2 := by
  rcases hm with ⟨rfl, rfl⟩ | ⟨rfl, hservice⟩
  · refine ⟨⟨fun _ => rfl, fun h => ⟨rfl, h.info⟩⟩, rfl, .inl, id, ?_⟩
    refine List.forall_mem_cons.mpr ⟨?_, nofun⟩
    intro request h
    cases h
    exact ⟨.inr ⟨rfl, rfl⟩, rfl⟩
  · have hfound : bleConnHandleInvalid ≠ c.serviceHandle := by
      rw [hservice]
      exact a.serviceHandle_ne_invalid
    have hread : serviceClientOnPrimSrvcDiscRsp c .attributeNotFound startHandles =
        (c, [.gattcRead c.connHandle
          (c.serviceHandle + UInt16.ofNat serviceInfoAttrOffset) 0]) := if_pos hfound
    rw [hread]
    refine ⟨.of_eq rfl rfl, rfl, .inl, id, List.forall_mem_cons.mpr ⟨?_, nofun⟩⟩
    intro request h
    cases h
    exact ⟨⟨rfl, .inl ⟨by rw [hservice]; rfl, hservice⟩⟩, rfl⟩

theorem taken_value (hm : (ToClient.value handle offset data).Proper a c)
    (h : serviceClientOnReadRsp c handle offset data = some (c', calls)) :
    Taken a c c' (.value handle offset data) calls := by
  obtain ⟨rfl, ⟨rfl, rfl, hservice⟩ | ⟨hhandle, hc⟩⟩ := hm
  · cases serviceClientOnReadRsp_ends h with
    | info _ hcopy =>
      have hcopy' : copyToInfo c.info 0 a.info.bytes = some a.info := copyToInfo_bytes ..
      cases hcopy.symm.trans hcopy'
      have hinformed : Informed a { c with info := a.info, state := .connected } := ⟨hservice, rfl⟩
      exact ⟨⟨id, fun _ => hinformed⟩, rfl, fun _ => .inr hinformed, fun _ => rfl,
        configureCalls_proper hinformed⟩
    | config _ _ _ _ _ hinfo =>
      rw [hservice] at hinfo
      exact absurd a.toNat_infoHandle.symm hinfo
  · cases serviceClientOnReadRsp_ends h with
    | info hinfo =>
      rw [hc.serviceHandle, ← a.toNat_infoHandle] at hinfo
      cases UInt16.toNat_inj.mp hinfo
      exact absurd hhandle a.info_not_configuration
    | config _ _ _ _ next _ hnext =>
      refine ⟨.of_eq rfl rfl, rfl, fun _ => .inr ⟨hc.serviceHandle, hc.info⟩, fun _ => rfl, ?_⟩
      intro call hcall request hrequest
      obtain ⟨nextHandle, hmem, rfl⟩ := List.mem_map.mp hcall
      have hnext' := hnext nextHandle (Option.mem_toList.mp hmem)
      rw [hc.info] at hnext'
      cases hrequest
      exact ⟨⟨rfl, .inr ⟨.inr hnext', hc.serviceHandle, hc.info⟩⟩, rfl⟩

theorem taken_handleValue (hm : (ToClient.handleValue handle type data).Proper a c)
    (h : serviceClientOnHvx uninit c handle type data = some (c', calls)) :
    Taken a c c' (.handleValue handle type data) calls := by
  obtain ⟨hc, ⟨rfl, score, rfl⟩ | ⟨rfl, -⟩⟩ := hm
  · cases serviceClientOnHvx_ends h with
    | score _ hcopy =>
      rw [copyToWord_wordBytes] at hcopy
      cases hcopy
      refine ⟨.of_eq rfl rfl, ?_, .inl, id, confirmCalls_proper c _ type⟩
      simp [ToClient.score]
    | time _ hscore => exact absurd (congrArg _ hc.info).symm hscore
    | state hstate => exact absurd (congrArg _ hc.info).symm hstate.1
    | other hscore => exact absurd (congrArg _ hc.info).symm hscore
  · have hnone : (ToClient.handleValue a.info.gameStateHandle type data).score a = none :=
      if_neg a.gameState_ne_serverScore
    cases serviceClientOnHvx_ends h with
    | score hhandle =>
      rw [hc.info] at hhandle
      exact absurd hhandle a.gameState_ne_serverScore
    | time _ _ htime =>
      rw [hc.info] at htime
      exact absurd htime a.gameState_ne_gameTime
    | state =>
      refine ⟨.of_eq rfl rfl, by rw [hnone]; rfl, .inl, id,
        List.forall_mem_cons.mpr ⟨nofun, ?_⟩⟩
      exact confirmCalls_proper c _ type
    | other _ hne => exact absurd (congrArg _ hc.info).symm hne

theorem ToClient.Proper.taken {m : ToClient} (hm : m.Proper a c)
    (h : serviceClientOnBleEvt uninit c m.event = some (c', calls)) : Taken a c c' m calls := by
  cases m with
  | services status startHandles =>
    have hends : serviceClientOnPrimSrvcDiscRsp c status startHandles = (c', calls) :=
      Option.some.inj h
    have htaken := taken_services hm
    rw [hends] at htaken
    exact htaken
  | value handle offset data => exact taken_value hm h
  | written =>
    cases h
    exact ⟨.of_eq rfl rfl, rfl, .inl, id, nofun⟩
  | handleValue handle type data => exact taken_handleValue hm h

end WaterBall
