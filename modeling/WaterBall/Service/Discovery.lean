import WaterBall.Support.Runs
import WaterBall.Service.Client

/-!
# Service discovery

The client asks for services from a start handle on, moves the start handle
behind the last one of each answer and, when there are no more, reads the INFO
characteristic of the last service it saw. Whether it saw any is taken from
`m_service_handle`, which nothing ever resets: a peer without the service is
told from one with it only when the variable happens to be the invalid handle.
-/

namespace WaterBall

open Support

/-- The start handles of the services with the client's UUID, in table order.
No attribute has handle 0. -/
structure PeerServices where
  starts : List UInt16
  ascending : starts.Pairwise (· < ·)
  positive : ∀ start ∈ starts, 0 < start

inductive Answer
  | found (batch : List UInt16)
  | notFound
  deriving DecidableEq

/-- What the SoftDevice may answer to a discovery from `handle` on. -/
def Answer.Legal (services : PeerServices) (handle : UInt16) : Answer → Prop
  | found batch => batch ≠ [] ∧ batch.Pairwise (· < ·) ∧
      ∀ start ∈ batch, start ∈ services.starts ∧ handle ≤ start
  | notFound => ∀ start ∈ services.starts, start < handle

instance (services : PeerServices) (handle : UInt16) :
    DecidablePred (Answer.Legal services handle)
  | .found _ => @instDecidableAnd _ _ _ (@instDecidableAnd _ _ _ (List.decidableBAll _ _))
  | .notFound => List.decidableBAll _ _

def Answer.evt : Answer → BleEvt
  | found batch => .gattcPrimSrvcDiscRsp .success batch
  | notFound => .gattcPrimSrvcDiscRsp .attributeNotFound []

structure Exchange where
  client : ServiceClient
  request : Option UInt16

def ClientCall.discovered : ClientCall → Option UInt16
  | gattcPrimaryServicesDiscover _ startHandle => some startHandle
  | _ => none

def ClientCall.read : ClientCall → Option UInt16
  | gattcRead _ handle _ => some handle
  | _ => none

def exchangeStart (c : ServiceClient) : Exchange :=
  let (client, calls) := serviceClientTryConnect c
  { client, request := calls.findSome? ClientCall.discovered }

def exchangeStep (services : PeerServices) (x : Exchange) (a : Answer) :
    Option (Exchange × List ClientCall) := do
  let handle ← x.request
  if a.Legal services handle then
    let (client, calls) ← serviceClientOnBleEvt 0 x.client a.evt
    return ({ client, request := calls.findSome? ClientCall.discovered }, calls)
  else none

/-- What the exchange has to end with: one read, of the INFO value of the last
matching service, or none, and a client that is ready again. -/
def Concluded (services : PeerServices) (c : ServiceClient) (calls : List ClientCall) : Prop :=
  match services.starts.getLast? with
  | some last => ∃ handle, calls.filterMap ClientCall.read = [handle] ∧
      handle.toNat = last.toNat + serviceInfoAttrOffset
  | none => calls.filterMap ClientCall.read = [] ∧ c.state = .ready

/-- The exchange that `service_client_try_connect` starts is over after a
bounded number of answers and concludes as it should; until then it has read
nothing, and there is an answer to its request. -/
def FindsOrGivesUp (services : PeerServices) (c : ServiceClient) : Prop :=
  ∃ bound, ∀ answers x calls,
    Runs.run (exchangeStep services) (exchangeStart c) answers = some (x, calls) →
    answers.length ≤ bound ∧
    match x.request with
    | some handle => calls.filterMap ClientCall.read = [] ∧
        ∃ a : Answer, a.Legal services handle
    | none => Concluded services x.client calls

-- ---------------------------------------------------------------------------
-- One answer
-- ---------------------------------------------------------------------------

section
variable {services : PeerServices} {c : ServiceClient} {x x' : Exchange}
variable {calls past : List ClientCall} {handle : UInt16}

theorem Answer.exists_legal (services : PeerServices) (handle : UInt16) :
    ∃ a : Answer, a.Legal services handle := by
  by_cases h : ∃ start ∈ services.starts, handle ≤ start
  · obtain ⟨start, hmem, hle⟩ := h
    refine ⟨.found [start], List.cons_ne_nil _ _, List.pairwise_singleton _ _, ?_⟩
    intro s hs
    obtain rfl := List.mem_singleton.mp hs
    exact ⟨hmem, hle⟩
  · refine ⟨.notFound, fun start hmem => UInt16.not_le.mp fun hle => h ⟨start, hmem, hle⟩⟩

theorem exchangeStart_eq (hconn : c.connHandle ≠ bleConnHandleInvalid) :
    exchangeStart c =
      { client := { c with state := .connecting }, request := some serviceClientStartHandle } := by
  rw [exchangeStart, serviceClientTryConnect, if_neg (Ne.symm hconn)]
  rfl

/-- How an answer moves the exchange. -/
inductive AnswerStep (services : PeerServices) (handle : UInt16) (c : ServiceClient) :
    Answer → Exchange → List ClientCall → Prop
  | found (start : UInt16) (hmem : start ∈ services.starts) (hle : handle ≤ start) :
      AnswerStep services handle c (.found batch)
        { client := { c with serviceHandle := start }, request := some (start + 1) }
        [.gattcPrimaryServicesDiscover c.connHandle (start + 1)]
  | read (hnone : ∀ start ∈ services.starts, start < handle)
      (hsaw : c.serviceHandle ≠ bleConnHandleInvalid) :
      AnswerStep services handle c .notFound { client := c, request := none }
        [.gattcRead c.connHandle (c.serviceHandle + 2) 0]
  | giveUp (hnone : ∀ start ∈ services.starts, start < handle)
      (hsaw : c.serviceHandle = bleConnHandleInvalid) :
      AnswerStep services handle c .notFound
        { client := { c with state := .ready }, request := none } []

theorem exchangeStep_eq_some (h : exchangeStep services x a = some (x', calls)) :
    ∃ handle, x.request = some handle ∧ AnswerStep services handle x.client a x' calls := by
  obtain ⟨handle, hrequest, h⟩ := Option.bind_eq_some_iff.mp h
  refine ⟨handle, hrequest, ?_⟩
  split at h
  case isFalse => cases h
  case isTrue hlegal =>
    cases a with
    | found batch =>
      obtain ⟨hne, -, hbatch⟩ := hlegal
      obtain ⟨hmem, hle⟩ := hbatch _ (List.getLast_mem hne)
      have hlast : batch.getLast? = some (batch.getLast hne) := List.getLast?_eq_some_getLast hne
      simp only [Answer.evt, serviceClientOnBleEvt_discovery, serviceClientOnPrimSrvcDiscRsp, hlast,
        Option.bind_eq_bind, Option.bind_some, Option.pure_def] at h
      cases h
      exact .found _ hmem hle
    | notFound =>
      simp only [Answer.evt, serviceClientOnBleEvt_discovery, serviceClientOnPrimSrvcDiscRsp,
        Option.bind_eq_bind, Option.bind_some, Option.pure_def] at h
      split at h
      case isTrue hsaw =>
        cases h
        exact .read hlegal (Ne.symm hsaw)
      case isFalse hsaw =>
        cases h
        exact .giveUp hlegal (not_not.mp hsaw).symm

-- ---------------------------------------------------------------------------
-- The exchange with a table that fits
-- ---------------------------------------------------------------------------

theorem PeerServices.le_last (hlast : services.starts.getLast? = some last) :
    last ∈ services.starts ∧ ∀ start ∈ services.starts, start ≤ last := by
  obtain ⟨front, hfront⟩ := List.getLast?_eq_some_iff.mp hlast
  have hsorted := services.ascending
  rw [hfront, List.pairwise_append] at hsorted
  rw [hfront]
  refine ⟨List.mem_append_right _ List.mem_cons_self, fun start hmem => ?_⟩
  rcases List.mem_append.mp hmem with hmem | hmem
  · exact UInt16.le_of_lt (hsorted.2.2 start hmem last List.mem_cons_self)
  · obtain rfl := List.mem_singleton.mp hmem
    exact UInt16.le_refl _

/-- Every INFO handle is one, and an empty table comes with the sentinel set. -/
structure Findable (services : PeerServices) (c : ServiceClient) : Prop where
  fits : ∀ start ∈ services.starts, start.toNat + serviceInfoAttrOffset < UInt16.size
  sentinel : services.starts = [] → c.serviceHandle = bleConnHandleInvalid

theorem Findable.succ_toNat (hf : Findable services c) (hmem : start ∈ services.starts) :
    (start + 1).toNat = start.toNat + 1 := by
  have hfits : start.toNat + 2 < 65536 := hf.fits start hmem
  rw [UInt16.toNat_add]
  exact Nat.mod_eq_of_lt (by simp only [UInt16.reduceToNat]; omega)

/-- The request asks from the first handle on, or from behind the last service seen. -/
def Searching (services : PeerServices) (c : ServiceClient) (x : Exchange) : Prop :=
  ∀ handle, x.request = some handle →
    (handle = serviceClientStartHandle ∧ x.client.serviceHandle = c.serviceHandle) ∨
    (x.client.serviceHandle ∈ services.starts ∧ handle = x.client.serviceHandle + 1)

theorem Searching.no_service (hs : Searching services c x) (hrequest : x.request = some handle)
    (hf : Findable services c) (hnone : ∀ start ∈ services.starts, start < handle) :
    (services.starts = [] ∧ x.client.serviceHandle = bleConnHandleInvalid) ∨
      services.starts.getLast? = some x.client.serviceHandle := by
  rcases hs handle hrequest with ⟨rfl, hsame⟩ | ⟨hmem, rfl⟩
  · left
    have hempty : services.starts = [] := by
      refine List.eq_nil_iff_forall_not_mem.mpr fun start hmem => ?_
      have hpos := UInt16.lt_iff_toNat_lt.mp (services.positive start hmem)
      have hlt := UInt16.lt_iff_toNat_lt.mp (hnone start hmem)
      simp only [serviceClientStartHandle, UInt16.reduceToNat] at hpos hlt
      omega
    exact ⟨hempty, hsame.trans (hf.sentinel hempty)⟩
  · right
    obtain ⟨last, hlast⟩ : ∃ last, services.starts.getLast? = some last :=
      ⟨_, List.getLast?_eq_some_getLast (List.ne_nil_of_mem hmem)⟩
    obtain ⟨hin, hle⟩ := PeerServices.le_last hlast
    have hlt := UInt16.lt_iff_toNat_lt.mp (hnone last hin)
    have hge := UInt16.le_iff_toNat_le.mp (hle _ hmem)
    rw [hf.succ_toNat hmem] at hlt
    rw [hlast, UInt16.toNat_inj.mp (Nat.le_antisymm hge (Nat.lt_succ_iff.mp hlt))]

theorem AnswerStep.searching (h : AnswerStep services handle x.client a x' calls) :
    Searching services c x' := by
  intro handle' hrequest
  cases h with
  | found start hmem hle =>
    cases hrequest
    exact .inr ⟨hmem, rfl⟩
  | read => cases hrequest
  | giveUp => cases hrequest

/-- The handles that the request can still find, and one for the answer that
there are none. -/
def Exchange.left (x : Exchange) : Nat :=
  match x.request with
  | some handle => UInt16.size + 1 - handle.toNat
  | none => 0

theorem AnswerStep.left_lt (h : AnswerStep services handle x.client a x' calls)
    (hrequest : x.request = some handle) (hf : Findable services c) : x'.left < x.left := by
  have hlt : handle.toNat < 65536 := handle.toNat_lt
  cases h with
  | found start hmem hle =>
    have hle := UInt16.le_iff_toNat_le.mp hle
    simp only [Exchange.left, hrequest, hf.succ_toNat hmem]
    show 65537 - (start.toNat + 1) < 65537 - handle.toNat
    omega
  | read =>
    simp only [Exchange.left, hrequest]
    show 0 < 65537 - handle.toNat
    omega
  | giveUp =>
    simp only [Exchange.left, hrequest]
    show 0 < 65537 - handle.toNat
    omega

/-- Nothing is read while the exchange goes on, and its end is as it should be. -/
def Proper (services : PeerServices) (x : Exchange) (past : List ClientCall) : Prop :=
  match x.request with
  | some _ => past.filterMap ClientCall.read = []
  | none => Concluded services x.client past

theorem AnswerStep.proper (h : AnswerStep services handle x.client a x' calls)
    (hrequest : x.request = some handle) (hf : Findable services c) (hs : Searching services c x)
    (hp : Proper services x past) : Proper services x' (past ++ calls) := by
  have hp : past.filterMap ClientCall.read = [] := by
    rw [Proper, hrequest] at hp
    exact hp
  cases h with
  | found =>
    show (past ++ _).filterMap ClientCall.read = []
    rw [List.filterMap_append, hp]
    rfl
  | read hnone hsaw =>
    rcases hs.no_service hrequest hf hnone with ⟨-, hsentinel⟩ | hlast
    · exact absurd hsentinel hsaw
    · show Concluded services x.client _
      have hmem := (PeerServices.le_last hlast).1
      have hfits : x.client.serviceHandle.toNat + 2 < 65536 := hf.fits _ hmem
      rw [Concluded, hlast]
      refine ⟨x.client.serviceHandle + 2, ?_, ?_⟩
      · rw [List.filterMap_append, hp]
        rfl
      · rw [UInt16.toNat_add]
        exact Nat.mod_eq_of_lt (by simp only [UInt16.reduceToNat]; omega)
  | giveUp hnone hsaw =>
    rcases hs.no_service hrequest hf hnone with ⟨hempty, -⟩ | hlast
    · show Concluded services { x.client with state := .ready } _
      rw [Concluded, hempty, List.append_nil]
      exact ⟨hp, rfl⟩
    · have hfits := hf.fits _ (PeerServices.le_last hlast).1
      rw [hsaw] at hfits
      exact absurd hfits (by decide)

theorem Findable.findsOrGivesUp (hf : Findable services c)
    (hconn : c.connHandle ≠ bleConnHandleInvalid) : FindsOrGivesUp services c := by
  have hstart : Searching services c (exchangeStart c) := by
    intro handle hrequest
    rw [exchangeStart_eq hconn] at hrequest ⊢
    cases hrequest
    exact .inl ⟨rfl, rfl⟩
  refine ⟨(exchangeStart c).left, fun answers x calls hrun => ⟨?_, ?_⟩⟩
  · have hlen := Runs.length_le (P := Searching services c) (μ := Exchange.left)
      (fun y a y' out _ hstep => by
        obtain ⟨handle, hrequest, hanswer⟩ := exchangeStep_eq_some hstep
        exact ⟨hanswer.searching, hanswer.left_lt hrequest hf⟩) hstart hrun
    exact Nat.le_trans (Nat.le_add_right ..) hlen
  · have hproper : Searching services c x ∧ Proper services x calls := by
      refine Runs.invariant (P := fun y past => Searching services c y ∧ Proper services y past)
        (fun y past a y' out hy hstep => ?_) ⟨hstart, ?_⟩ hrun
      · obtain ⟨handle, hrequest, hanswer⟩ := exchangeStep_eq_some hstep
        exact ⟨hanswer.searching, hanswer.proper hrequest hf hy.1 hy.2⟩
      · rw [exchangeStart_eq hconn]
        rfl
    have hp := hproper.2
    unfold Proper at hp
    split at hp
    case h_1 handle hrequest => exact ⟨hp, Answer.exists_legal services handle⟩
    case h_2 => exact hp

-- ---------------------------------------------------------------------------
-- What goes wrong otherwise
-- ---------------------------------------------------------------------------

theorem exchangeStep_found (hrequest : x.request = some handle) (hmem : start ∈ services.starts)
    (hle : handle ≤ start) : exchangeStep services x (.found [start]) =
      some ({ client := { x.client with serviceHandle := start }, request := some (start + 1) },
        [.gattcPrimaryServicesDiscover x.client.connHandle (start + 1)]) := by
  have hlegal : (Answer.found [start]).Legal services handle := by
    refine ⟨List.cons_ne_nil _ _, List.pairwise_singleton _ _, fun s hs => ?_⟩
    obtain rfl := List.mem_singleton.mp hs
    exact ⟨hmem, hle⟩
  simp only [exchangeStep, hrequest, Option.bind_eq_bind, Option.bind_some, if_pos hlegal]
  rfl

/-- With the last handle of all in the table the start handle wraps to 0, and
the same service is found again and again. -/
theorem exchange_endless (hmem : bleConnHandleInvalid ∈ services.starts)
    (hrequest : x.request = some handle) (n : Nat) :
    ∃ x' calls, Runs.run (exchangeStep services) x
      (List.replicate n (.found [bleConnHandleInvalid])) = some (x', calls) := by
  induction n generalizing x handle with
  | zero => exact ⟨x, [], rfl⟩
  | succ n ih =>
    have hle : handle ≤ bleConnHandleInvalid := by
      rw [UInt16.le_iff_toNat_le]
      exact Nat.le_of_lt_succ handle.toNat_lt
    have hstep := exchangeStep_found hrequest hmem hle
    obtain ⟨x', calls, hrun⟩ := ih (x := { client := _, request := some _ }) rfl
    exact ⟨x', _, Runs.run_cons_eq_some.mpr ⟨_, _, calls, hstep, hrun, rfl⟩⟩

theorem exchangeStep_notFound (hrequest : x.request = some handle)
    (hnone : ∀ start ∈ services.starts, start < handle)
    (hsaw : x.client.serviceHandle ≠ bleConnHandleInvalid) :
    exchangeStep services x .notFound = some ({ client := x.client, request := none },
      [.gattcRead x.client.connHandle (x.client.serviceHandle + 2) 0]) := by
  have hlegal : Answer.notFound.Legal services handle := hnone
  simp only [exchangeStep, hrequest, Option.bind_eq_bind, Option.bind_some, if_pos hlegal,
    Answer.evt, serviceClientOnBleEvt_discovery, serviceClientOnPrimSrvcDiscRsp,
    if_pos hsaw.symm]
  rfl

theorem FindsOrGivesUp.fits (h : FindsOrGivesUp services c)
    (hconn : c.connHandle ≠ bleConnHandleInvalid) (hlast : services.starts.getLast? = some last) :
    last.toNat + serviceInfoAttrOffset < UInt16.size := by
  obtain ⟨bound, h⟩ := h
  obtain ⟨hmem, hle⟩ := PeerServices.le_last hlast
  have hstart : (exchangeStart c).request = some serviceClientStartHandle := by
    rw [exchangeStart_eq hconn]
  refine Nat.lt_of_not_le fun hge => ?_
  have hlt : last.toNat < 65536 := last.toNat_lt
  have hge : 65536 ≤ last.toNat + 2 := hge
  obtain hend | hend : last.toNat = 0xFFFF ∨ last.toNat = 0xFFFE := by omega
  · obtain rfl : last = bleConnHandleInvalid := UInt16.toNat_inj.mp hend
    obtain ⟨x, calls, hrun⟩ := exchange_endless hmem hstart (bound + 1)
    have hlen := (h _ x calls hrun).1
    rw [List.length_replicate] at hlen
    exact Nat.not_succ_le_self bound hlen
  · -- The INFO handle wraps to 0.
    obtain rfl : last = 0xFFFE := UInt16.toNat_inj.mp hend
    let seen : Exchange :=
      { client := { (exchangeStart c).client with serviceHandle := 0xFFFE },
        request := some (0xFFFE + 1) }
    have hfound := exchangeStep_found hstart hmem (by decide)
    have hread : exchangeStep services seen .notFound =
        some ({ client := seen.client, request := none },
          [.gattcRead seen.client.connHandle (0xFFFE + 2) 0]) :=
      exchangeStep_notFound rfl
        (fun start hin => UInt16.lt_of_le_of_lt (hle start hin) (by decide))
        (show (0xFFFE : UInt16) ≠ bleConnHandleInvalid by decide)
    have hrun := Runs.run_cons_eq_some.mpr ⟨_, _, _, hfound,
      Runs.run_cons_eq_some.mpr ⟨_, _, _, hread, Runs.run_nil _, rfl⟩, rfl⟩
    have hconcluded : Concluded services _ _ := (h _ _ _ hrun).2
    rw [Concluded, hlast] at hconcluded
    obtain ⟨handle, hreads, hhandle⟩ := hconcluded
    cases hreads
    exact absurd hhandle (by decide)

theorem exchange_stale (hconn : c.connHandle ≠ bleConnHandleInvalid)
    (hempty : services.starts = []) (hsaw : c.serviceHandle ≠ bleConnHandleInvalid) :
    Runs.run (exchangeStep services) (exchangeStart c) [.notFound] =
      some ({ client := { c with state := .connecting }, request := none },
        [.gattcRead c.connHandle (c.serviceHandle + 2) 0]) := by
  rw [exchangeStart_eq hconn]
  let asked : Exchange :=
    { client := { c with state := .connecting }, request := some serviceClientStartHandle }
  have hread : exchangeStep services asked .notFound = _ :=
    exchangeStep_notFound rfl (fun start hin => absurd hin (hempty ▸ List.not_mem_nil)) hsaw
  exact Runs.run_cons_eq_some.mpr ⟨_, _, _, hread, Runs.run_nil _, rfl⟩

theorem FindsOrGivesUp.sentinel (h : FindsOrGivesUp services c)
    (hconn : c.connHandle ≠ bleConnHandleInvalid) (hempty : services.starts = []) :
    c.serviceHandle = bleConnHandleInvalid := by
  obtain ⟨bound, h⟩ := h
  refine Decidable.byContradiction fun hsaw => ?_
  have hconcluded : Concluded services _ _ := (h _ _ _ (exchange_stale hconn hempty hsaw)).2
  rw [Concluded, hempty] at hconcluded
  exact List.cons_ne_nil _ _ hconcluded.1

/-- On a connection, for every peer and whatever the client has been through:
discovery does what it should exactly when the peer has a matching service
whose INFO handle exists, or has none and `m_service_handle` is the invalid
handle. -/
theorem serviceClient_discovery_iff (services : PeerServices) (c : ServiceClient)
    (hconn : c.connHandle ≠ bleConnHandleInvalid) :
    FindsOrGivesUp services c ↔
      (∃ last, services.starts.getLast? = some last ∧
        last.toNat + serviceInfoAttrOffset < UInt16.size) ∨
      (services.starts = [] ∧ c.serviceHandle = bleConnHandleInvalid) := by
  constructor
  · intro h
    cases hlast : services.starts.getLast? with
    | none =>
      have hempty := List.getLast?_eq_none_iff.mp hlast
      exact .inr ⟨hempty, h.sentinel hconn hempty⟩
    | some last => exact .inl ⟨last, rfl, h.fits hconn hlast⟩
  · rintro (⟨last, hlast, hfits⟩ | ⟨hempty, hsentinel⟩)
    · obtain ⟨hmem, hle⟩ := PeerServices.le_last hlast
      refine Findable.findsOrGivesUp ⟨fun start hin => ?_, fun hempty => ?_⟩ hconn
      · exact Nat.lt_of_le_of_lt
          (Nat.add_le_add_right (UInt16.le_iff_toNat_le.mp (hle start hin)) _) hfits
      · exact absurd hmem (hempty ▸ List.not_mem_nil)
    · refine Findable.findsOrGivesUp ⟨fun start hin => ?_, fun _ => hsentinel⟩ hconn
      exact absurd hin (hempty ▸ List.not_mem_nil)

end

-- ---------------------------------------------------------------------------
-- A peer without the service
-- ---------------------------------------------------------------------------

def firstConnection : ServiceClient :=
  { serviceClientInit serviceClientReset with connHandle := 3 }

def noServices : PeerServices where
  starts := []
  ascending := List.Pairwise.nil
  positive := nofun

/-- The client reads handle 2 of a peer that has nothing for it, and waits. -/
theorem serviceClient_discovery_stale :
    firstConnection.connHandle ≠ bleConnHandleInvalid ∧
      (Runs.run (exchangeStep noServices) (exchangeStart firstConnection) [.notFound]).map
        (fun (x, calls) => (x.request, x.client.state, calls)) =
          some (none, .connecting, [.gattcRead 3 2 0]) ∧
      ¬ FindsOrGivesUp noServices firstConnection := by
  refine ⟨by decide, ?_, fun h => ?_⟩
  · rw [exchange_stale (by decide) rfl (by decide)]
    rfl
  · exact absurd (h.sentinel (by decide) rfl) (by decide)

/-- Two matching services; the second one counts. -/
def twoServices : PeerServices where
  starts := [0x10, 0x30]
  ascending := by decide
  positive := List.forall_mem_cons.mpr ⟨by decide, List.forall_mem_cons.mpr ⟨by decide, nofun⟩⟩

theorem serviceClient_discovery_twoServices : FindsOrGivesUp twoServices firstConnection :=
  (serviceClient_discovery_iff twoServices firstConnection (by decide)).mpr
    (.inl ⟨0x30, rfl, by decide⟩)

end WaterBall
