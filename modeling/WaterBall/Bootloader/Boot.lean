import WaterBall.Bootloader.Handover

/-!
# Boots

`main.c` of the bootloader with the start of `dfu_transport_update_start`: a
retained register tells whether the application has asked for an update, and
the mailbox whom to advertise to. A boot ends in the application, or in a
reset and the next boot.

What the SDK answers in a boot is in the boot's event. A failed check resets
the device.
-/

namespace WaterBall

open Support

structure BootConfig where
  area : PeerDataArea
  bootloaderDfuStart : UInt32
  blePeerData : UInt32
  start_ne_zero : bootloaderDfuStart ≠ 0
  peer_ne_null : blePeerData ≠ 0
  apart : PeerDataEvent.Apart area (.peerDataGet blePeerData)

/-- The SDK's answers in one boot, in the order of the calls.
`transportOpens` is the first error of `dfu_transport_update_start` before it
looks for a peer. -/
structure BootAnswers where
  chipMatches : Bool
  sdInProgress : Bool
  sdUpdateContinue : UInt32
  bleStackInit : UInt32
  sdUpdateFinalize : UInt32
  appIsValid : Bool
  transportOpens : UInt32
  bootloaderDfuStart : UInt32
  appIsValidThen : Bool
  sdInProgressThen : Bool
  deriving DecidableEq

/-- What the power supply keeps over a reset. -/
structure BootState where
  noInit : NoInit
  gpregret : UInt32

/-- What a boot has done: the argument of `ble_stack_init`, the update with the
peer that it looks for, and whether it has started the application. -/
structure BootReport where
  initSoftdevice : Option Bool
  update : Option (Option (List UInt8))
  appStarted : Bool
  deriving DecidableEq

section
variable (c : BootConfig)

def dfuTransportPeer (s : NoInit) : NoInit × Option (List UInt8) :=
  let (s, errCode) := dfuBlePeerDataGet c.area s c.blePeerData
  (s, if errCode = nrfSuccess then some (bytesAt s.ram c.blePeerData c.area.size.toNat) else none)

/-- `bootloader_dfu_start`, with what it has looked for. -/
def bootUpdate (answers : BootAnswers) (b : BootState) :
    BootState × Option (Option (List UInt8)) :=
  if answers.transportOpens ≠ nrfSuccess then (b, none)
  else
    let (noInit, peer) := dfuTransportPeer c b.noInit
    ({ b with noInit }, some peer)

def bootloaderMain (answers : BootAnswers) (b : BootState) : BootState × BootReport :=
  let appReset : Bool := b.gpregret == c.bootloaderDfuStart
  let b := if appReset then { b with gpregret := 0 } else b
  if ¬ answers.chipMatches then (b, ⟨none, none, false⟩)
  else if answers.sdInProgress ∧ answers.sdUpdateContinue ≠ nrfSuccess then
    (b, ⟨none, none, false⟩)
  else
    let initSoftdevice := some !appReset
    if answers.bleStackInit ≠ nrfSuccess then (b, ⟨initSoftdevice, none, false⟩)
    else if answers.sdInProgress ∧ answers.sdUpdateFinalize ≠ nrfSuccess then
      (b, ⟨initSoftdevice, none, false⟩)
    else
      let dfuStart := appReset
      let updates : Bool := dfuStart || !answers.appIsValid
      let (b, update) := if updates then bootUpdate c answers b else (b, none)
      if updates ∧ answers.bootloaderDfuStart ≠ nrfSuccess then
        (b, ⟨initSoftdevice, update, false⟩)
      else
        -- The application does not come back, and what follows is a reset.
        (b, ⟨initSoftdevice, update,
          !dfuStart && answers.appIsValidThen && !answers.sdInProgressThen⟩)

/-- Between two boots the application runs, which may ask for an update. -/
inductive BootEvent
  | svc (svcNum : UInt8) (pSvcArgs : UInt32)
  | store (address : UInt32) (byte : UInt8)
  | setGpregret (value : UInt32)
  | boot (answers : BootAnswers)
  deriving DecidableEq

def bootStep (b : BootState) : BootEvent → Option (BootState × List BootReport)
  | .svc svcNum pSvcArgs =>
    some ({ b with noInit := (cSvcHandler c.area b.noInit svcNum pSvcArgs).1 }, [])
  | .store address byte =>
    some ({ b with noInit.ram := Function.update b.noInit.ram address byte }, [])
  | .setGpregret value => some ({ b with gpregret := value }, [])
  | .boot answers =>
    let (b, report) := bootloaderMain c answers b
    some (b, [report])

end

-- ---------------------------------------------------------------------------
-- What boots are for
-- ---------------------------------------------------------------------------

/-- Whether an update has been asked for, and the peer's data that wait. -/
structure Errand where
  asked : Bool
  box : Option (List UInt8)

inductive ErrandOp
  | handOver (peer : List UInt8)
  | ask (asked : Bool)
  | boot (answers : BootAnswers)

def BootAnswers.GetsOn (answers : BootAnswers) : Prop :=
  answers.chipMatches = true ∧
    (answers.sdInProgress = true → answers.sdUpdateContinue = nrfSuccess)

def BootAnswers.Decides (answers : BootAnswers) : Prop :=
  answers.GetsOn ∧ answers.bleStackInit = nrfSuccess ∧
    (answers.sdInProgress = true → answers.sdUpdateFinalize = nrfSuccess)

instance : DecidablePred BootAnswers.GetsOn := fun _ => inferInstanceAs (Decidable (_ ∧ _))

instance : DecidablePred BootAnswers.Decides := fun _ => inferInstanceAs (Decidable (_ ∧ _))

section
variable (e : Errand) (answers : BootAnswers)

/-- An update is asked for, or there is no application. -/
def Errand.updates : Bool := e.asked || !answers.appIsValid

/-- The update is for the peer that waits. An application is started only where
none has been asked for. -/
def Errand.report : BootReport where
  initSoftdevice := if answers.GetsOn then some !e.asked else none
  update :=
    if answers.Decides ∧ e.updates answers ∧ answers.transportOpens = nrfSuccess then some e.box
    else none
  appStarted := decide (answers.Decides ∧
    (e.updates answers = true → answers.bootloaderDfuStart = nrfSuccess) ∧ e.asked = false ∧
      answers.appIsValidThen = true ∧ answers.sdInProgressThen = false)

/-- A boot uses up the request, and an update the peer's data. -/
def Errand.boot : Errand where
  asked := false
  box := if (e.report answers).update.isSome then none else e.box

def Errand.step : ErrandOp → Errand × List BootReport
  | .handOver peer => ({ e with box := some peer }, [])
  | .ask asked => ({ e with asked }, [])
  | .boot answers => (e.boot answers, [e.report answers])

end

def Errand.run (e : Errand) : List ErrandOp → Errand × List BootReport
  | [] => (e, [])
  | op :: ops =>
    let (e, report) := e.step op
    let (e, rest) := e.run ops
    (e, report ++ rest)

def ErrandOp.peer? : ErrandOp → Option (List UInt8)
  | .handOver peer => some peer
  | _ => none

theorem Errand.run_append (e : Errand) (ops ops' : List ErrandOp) :
    e.run (ops ++ ops') =
      (((e.run ops).1.run ops').1, (e.run ops).2 ++ ((e.run ops).1.run ops').2) := by
  induction ops generalizing e with
  | nil => rfl
  | cons op ops ih => simp only [List.cons_append, run, ih, List.append_assoc]

def BootReport.peer? (r : BootReport) : Option (List UInt8) := r.update.join

theorem Errand.peers_sublist (e : Errand) (ops : List ErrandOp) :
    ((e.run ops).2.filterMap BootReport.peer? ++ (e.run ops).1.box.toList).Sublist
      (e.box.toList ++ ops.filterMap ErrandOp.peer?) := by
  induction ops generalizing e with
  | nil => simp [run]
  | cons op ops ih =>
    cases op with
    | handOver peer =>
      refine (ih { e with box := some peer }).trans ?_
      exact List.sublist_append_right e.box.toList (peer :: ops.filterMap ErrandOp.peer?)
    | ask asked => exact ih { e with asked }
    | boot answers =>
      have hpeer : (e.report answers).peer?.toList ++ (e.boot answers).box.toList =
          e.box.toList := by
        unfold boot BootReport.peer?
        dsimp only [report]
        split
        · simp
        · simp
      have hcons : ((e.run (.boot answers :: ops)).2.filterMap BootReport.peer?) =
          (e.report answers).peer?.toList ++
            ((e.boot answers).run ops).2.filterMap BootReport.peer? := by
        simp only [run, step, List.singleton_append, List.filterMap_cons]
        cases (e.report answers).peer? <;> rfl
      have hops : (ErrandOp.boot answers :: ops).filterMap ErrandOp.peer? =
          ops.filterMap ErrandOp.peer? := rfl
      rw [hcons, hops, ← hpeer, List.append_assoc, List.append_assoc]
      exact (ih (e.boot answers)).append_left _

-- ---------------------------------------------------------------------------
-- Boots do their errand
-- ---------------------------------------------------------------------------

section
variable {c : BootConfig} {b b' : BootState}

def BootState.errand (c : BootConfig) (b : BootState) : Errand where
  asked := b.gpregret == c.bootloaderDfuStart
  box := b.noInit.mail c.area

def BootEvent.op (c : BootConfig) (b : BootState) : BootEvent → List ErrandOp
  | .svc svcNum pSvcArgs =>
    if svcNum = c.area.dfuBleSvcPeerDataSet ∧ pSvcArgs ≠ 0 then
      [.handOver (bytesAt b.noInit.ram pSvcArgs c.area.size.toNat)]
    else []
  | .store _ _ => []
  | .setGpregret value => [.ask (value == c.bootloaderDfuStart)]
  | .boot answers => [.boot answers]

def BootEvent.Apart (c : BootConfig) : BootEvent → Prop
  | .store address byte => PeerDataEvent.Apart c.area (.store address byte)
  | _ => True

instance : DecidablePred (BootEvent.Apart c) := fun event => by
  unfold BootEvent.Apart
  split <;> infer_instance

theorem dfuTransportPeer_mail (c : BootConfig) (s : NoInit) :
    (dfuTransportPeer c s).1.mail c.area = none ∧ (dfuTransportPeer c s).2 = s.mail c.area := by
  have hmail := dfuBlePeerDataGet_mail (s := s) c.apart
  simp only [PeerDataEvent.op, ne_eq, c.peer_ne_null, not_false_eq_true, ↓reduceIte, Mailbox.run,
    Mailbox.step, List.append_nil, Prod.mk.injEq, peerDataAnswer] at hmail
  obtain ⟨hbox, hanswer⟩ := hmail
  unfold dfuTransportPeer
  refine ⟨hbox.symm, ?_⟩
  dsimp only
  split at hanswer
  case isTrue hsuccess =>
    rw [if_pos hsuccess]
    exact (List.singleton_inj.mp hanswer).symm
  case isFalse hfail =>
    rw [if_neg hfail]
    split at hanswer
    · exact (List.singleton_inj.mp hanswer).symm
    · cases hanswer

theorem bootUpdate_errand (answers : BootAnswers) (b : BootState) :
    (bootUpdate c answers b).2 =
        (if answers.transportOpens = nrfSuccess then some (b.noInit.mail c.area) else none) ∧
      (bootUpdate c answers b).1.errand c =
        { b.errand c with
          box := if answers.transportOpens = nrfSuccess then none else b.noInit.mail c.area } := by
  obtain ⟨hbox, hpeer⟩ := dfuTransportPeer_mail c b.noInit
  unfold bootUpdate
  by_cases hopens : answers.transportOpens = nrfSuccess
  · rw [if_neg (not_not_intro hopens), if_pos hopens, if_pos hopens]
    exact ⟨congrArg some hpeer, congrArg (Errand.mk _) hbox⟩
  · rw [if_pos hopens, if_neg hopens, if_neg hopens]
    exact ⟨rfl, rfl⟩

theorem gpregret_read (c : BootConfig) (b : BootState) :
    BootState.errand c
        (if (b.gpregret == c.bootloaderDfuStart) = true then { b with gpregret := 0 } else b) =
      { b.errand c with asked := false } := by
  split
  case isTrue hasked =>
    exact congrArg (Errand.mk · _) (beq_eq_false_iff_ne.mpr c.start_ne_zero.symm)
  case isFalse hnot => exact congrArg (Errand.mk · _) (Bool.eq_false_iff.mpr hnot)

theorem bootloaderMain_errand (c : BootConfig) (answers : BootAnswers) (b : BootState) :
    (bootloaderMain c answers b).1.errand c = (b.errand c).boot answers ∧
      (bootloaderMain c answers b).2 = (b.errand c).report answers := by
  have hread := gpregret_read c b
  unfold bootloaderMain Errand.boot Errand.report Errand.updates
  dsimp only
  generalize hb₀ : (if (b.gpregret == c.bootloaderDfuStart) = true then { b with gpregret := 0 }
    else b) = b₀ at hread
  have hasked : (b.gpregret == c.bootloaderDfuStart) = (b.errand c).asked := rfl
  rw [hasked]
  generalize b.errand c = e at hread
  split
  case isTrue hchip =>
    have hdec : ¬ answers.Decides := fun h => hchip h.1.1
    have hon : ¬ answers.GetsOn := fun h => hchip h.1
    simp [hread, hdec, hon]
  case isFalse hchip =>
  have hchip : answers.chipMatches = true := Decidable.not_not.mp hchip
  split
  case isTrue hcontinue =>
    have hon : ¬ answers.GetsOn := fun h => hcontinue.2 (h.2 hcontinue.1)
    have hdec : ¬ answers.Decides := fun h => hon h.1
    simp [hread, hdec, hon]
  case isFalse hcontinue =>
  have hon : answers.GetsOn :=
    ⟨hchip, fun hsd => Decidable.not_not.mp fun hne => hcontinue ⟨hsd, hne⟩⟩
  split
  case isTrue hstack =>
    have hdec : ¬ answers.Decides := fun h => hstack h.2.1
    simp [hread, hdec]
  case isFalse hstack =>
  split
  case isTrue hfinalize =>
    have hdec : ¬ answers.Decides := fun h => hfinalize.2 (h.2.2 hfinalize.1)
    simp [hread, hdec]
  case isFalse hfinalize =>
  have hdec : answers.Decides :=
    ⟨hon, Decidable.not_not.mp hstack,
      fun hsd => Decidable.not_not.mp fun hne => hfinalize ⟨hsd, hne⟩⟩
  obtain ⟨hlooked, hleft⟩ := bootUpdate_errand (c := c) answers b₀
  have hbox : b₀.noInit.mail c.area = e.box := congrArg Errand.box hread
  rw [hbox] at hlooked hleft
  cases hupdates : e.asked || !answers.appIsValid with
  | false => simp [hread, hdec, Bool.and_assoc]
  | true =>
    simp only [↓reduceIte, hdec, true_and, hlooked]
    have hafter : (bootUpdate c answers b₀).1.errand c =
        { asked := false
          box := if (if answers.transportOpens = nrfSuccess then some e.box else none).isSome = true
            then none else e.box } := by
      rw [hleft, hread]
      by_cases hopens : answers.transportOpens = nrfSuccess
      · simp [hopens]
      · simp [hopens]
    split
    case isTrue hfails => simp [hafter, hfails]
    case isFalse hruns => simp [hafter, Decidable.not_not.mp hruns, Bool.and_assoc]

theorem bootStep_errand {event : BootEvent} (hapart : event.Apart c)
    (hstep : bootStep c b event = some (b', reports)) :
    (b.errand c).run (event.op c b) = (b'.errand c, reports) := by
  cases event with
  | svc svcNum pSvcArgs =>
    cases hstep
    have hmail := cSvcHandler_mail (a := c.area) (s := b.noInit) svcNum pSvcArgs
    unfold BootEvent.op
    unfold PeerDataEvent.op at hmail
    dsimp only at hmail ⊢
    split
    case isTrue hput =>
      rw [if_pos hput] at hmail
      exact Prod.ext (congrArg (Errand.mk _) (Prod.ext_iff.mp hmail).1) rfl
    case isFalse hnot =>
      rw [if_neg hnot] at hmail
      exact Prod.ext (congrArg (Errand.mk _) (Prod.ext_iff.mp hmail).1) rfl
  | store address byte =>
    cases hstep
    exact Prod.ext (congrArg (Errand.mk _) (store_mail hapart).symm) rfl
  | setGpregret value =>
    cases hstep
    rfl
  | boot answers =>
    cases hstep
    obtain ⟨herrand, hreport⟩ := bootloaderMain_errand c answers b
    exact Prod.ext herrand.symm (congrArg ([·]) hreport.symm)

/-- For every history of hand-overs, requests and boots: each boot does what
the errand says, so the boot after a request uses it up, for an update where
all checks before it succeed, and does not start the application. The peers
that updates look for are part of those handed over, in the same order and
none of them twice. -/
theorem boots_run_errands (c : BootConfig) (b : BootState) (events : List BootEvent)
    (hapart : ∀ event ∈ events, event.Apart c)
    (hrun : Runs.run (bootStep c) b events = some (b', reports)) :
    let ops := Runs.observed (bootStep c) (fun b event => event.op c b) b events
    (b.errand c).run ops = (b'.errand c, reports) ∧
      (reports.filterMap BootReport.peer? ++ (b'.errand c).box.toList).Sublist
        ((b.errand c).box.toList ++ ops.filterMap ErrandOp.peer?) := by
  have herrand : (b.errand c).run
      (Runs.observed (bootStep c) (fun b event => event.op c b) b events) =
        (b'.errand c, reports) := by
    induction events generalizing b reports with
    | nil =>
      cases hrun
      rfl
    | cons event events ih =>
      obtain ⟨hevent, hevents⟩ := List.forall_mem_cons.mp hapart
      obtain ⟨b₁, first, rest, hstep, hrest, rfl⟩ := Runs.run_cons_eq_some.mp hrun
      have hone := bootStep_errand hevent hstep
      rw [Runs.observed, hstep, Errand.run_append, hone, ih b₁ hevents hrest]
  refine ⟨herrand, ?_⟩
  have hpeers := (b.errand c).peers_sublist
    (Runs.observed (bootStep c) (fun b event => event.op c b) b events)
  rwa [herrand] at hpeers

end

def smallBoot : BootConfig where
  area := smallArea
  bootloaderDfuStart := 0xB1
  blePeerData := 0x20000000
  start_ne_zero := by decide
  peer_ne_null := by decide
  apart := by decide

def goodAnswers : BootAnswers where
  chipMatches := true
  sdInProgress := false
  sdUpdateContinue := nrfSuccess
  bleStackInit := nrfSuccess
  sdUpdateFinalize := nrfSuccess
  appIsValid := true
  transportOpens := nrfSuccess
  bootloaderDfuStart := nrfSuccess
  appIsValidThen := true
  sdInProgressThen := false

def askedUpdate : List BootEvent :=
  [.store 0x20001000 7, .svc 2 0x20001000, .setGpregret 0xB1, .boot goodAnswers,
    .boot goodAnswers]

theorem boots_run_errands_askedUpdate : ∃ b' reports,
    Runs.run (bootStep smallBoot) ⟨⟨fun _ => 5, 0⟩, 0⟩ askedUpdate = some (b', reports) ∧
      reports = [⟨some false, some (some [7, 5, 5, 5]), false⟩, ⟨some true, none, true⟩] ∧
      (reports.filterMap BootReport.peer?).length ≤ 1 := by
  refine ⟨_, _, rfl, by decide, ?_⟩
  obtain ⟨-, hpeers⟩ := boots_run_errands smallBoot ⟨⟨fun _ => 5, 0⟩, 0⟩ askedUpdate (by decide) rfl
  exact Nat.le_trans (List.sublist_append_left ..).length_le hpeers.length_le

end WaterBall
