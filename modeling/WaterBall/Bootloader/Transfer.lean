import Mathlib.Data.List.Nodup
import Mathlib.Data.List.Perm.Subperm
import WaterBall.Support.Countdown
import WaterBall.Bootloader.DataLaws

/-!
# The transfer of an image

The transport keeps a line of packets: they are served when they are written,
and lost when their write fails. So the image is known from the packets that
have been taken, the pool from those that wait and those that are lost, and
the peer is told of its success once.
-/

namespace WaterBall

open Support
open Support.ServedQueue (Line arrivals)

-- ---------------------------------------------------------------------------
-- The line of packets
-- ---------------------------------------------------------------------------

def DfuEvent.op (t : DfuTransport) (event : DfuEvent) : List (ServedQueue.Op (List UInt8)) :=
  ((event.taken t).map fun p => .arrive p.data).toList ++
    ((event.written t).map fun w => .settle w.2).toList

/-- The transport holds the line: what waits is in blocks of the pool, each in
its own, and what was lost has cost a block. -/
structure Keeps (t : DfuTransport) (l : Line (List UInt8)) : Prop where
  blocks : ∃ lost, t.pool.inUse.Perm (t.bank.queue.map Prod.fst ++ lost) ∧ lost.length = l.failed
  nodup : t.pool.inUse.Nodup
  small : ∀ block ∈ t.pool.inUse, block < rxBufQueueSize
  waiting : t.bank.queue.map (fun q => (t.pool.memory q.1).take (4 * q.2)) = l.waiting
  image : t.bank.image = l.served.flatten

section
variable {t t' : DfuTransport} {l : Line (List UInt8)}

theorem Keeps.mem_inUse (h : Keeps t l) (hq : q ∈ t.bank.queue) : q.1 ∈ t.pool.inUse := by
  obtain ⟨lost, hperm, -⟩ := h.blocks
  exact hperm.mem_iff.mpr (List.mem_append_left lost (List.mem_map_of_mem hq))

theorem Keeps.length_inUse (h : Keeps t l) :
    t.pool.inUse.length = t.bank.queue.length + l.failed := by
  obtain ⟨lost, hperm, hlost⟩ := h.blocks
  rw [hperm.length_eq, List.length_append, List.length_map, hlost]

theorem Keeps.nodup_queue (h : Keeps t l) : (t.bank.queue.map Prod.fst).Nodup := by
  obtain ⟨lost, hperm, -⟩ := h.blocks
  exact (hperm.nodup_iff.mp h.nodup).of_append_left

theorem Keeps.length_le (h : Keeps t l) : t.pool.inUse.length ≤ rxBufQueueSize := by
  have hsub : t.pool.inUse ⊆ List.range rxBufQueueSize :=
    fun block hblock => List.mem_range.mpr (h.small block hblock)
  have hle := (List.subperm_of_subset h.nodup hsub).length_le
  rwa [List.length_range] at hle

theorem Keeps.kept (h : Keeps t l) (hkept : DataKept t event t' calls) : Keeps t' l where
  blocks := by
    rw [hkept.inUse, hkept.bank]
    exact h.blocks
  nodup := by
    rw [hkept.inUse]
    exact h.nodup
  small := by
    rw [hkept.inUse]
    exact h.small
  waiting := by
    rw [hkept.bank, ← h.waiting]
    exact List.map_congr_left fun q hq => by rw [hkept.memory q.1 (h.mem_inUse hq)]
  image := by
    rw [hkept.bank]
    exact h.image

theorem take_produced (memory data : List UInt8) (hwords : data.length % 4 = 0) :
    (Region.splice memory 0 data).take (4 * (data.length / 4)) = data := by
  have hlength : 4 * (data.length / 4) = data.length := by omega
  rw [Region.splice_zero, hlength, List.take_left]

theorem Keeps.taken (h : Keeps t l) (htaken : DataTaken t p t' calls) :
    Keeps t' (l.step (.arrive p.data)) where
  blocks := by
    obtain ⟨lost, hperm, hlost⟩ := h.blocks
    refine ⟨lost, ?_, hlost⟩
    rw [htaken.pool, htaken.bank, List.map_append]
    calc t.pool.inUse ++ [p.block]
        |>.Perm ((t.bank.queue.map Prod.fst ++ lost) ++ [p.block]) := hperm.append_right _
      _ |>.Perm (t.bank.queue.map Prod.fst ++ [p.block] ++ lost) := by
        rw [List.append_assoc, List.append_assoc]
        exact List.perm_append_comm.append_left _
  nodup := by
    rw [htaken.pool]
    exact List.nodup_append.mpr ⟨h.nodup, List.nodup_singleton _, fun a ha b hb heq =>
      htaken.fresh (by rwa [← List.mem_singleton.mp hb, ← heq])⟩
  small := by
    rw [htaken.pool]
    intro block hblock
    rcases List.mem_append.mp hblock with hold | hnew
    · exact h.small block hold
    · rw [List.mem_singleton.mp hnew]
      exact htaken.small
  waiting := by
    have hold : ∀ q ∈ t.bank.queue, ((t.produced p.block p.data).pool.memory q.1).take (4 * q.2) =
        (t.pool.memory q.1).take (4 * q.2) := by
      intro q hq
      have hne : q.1 ≠ p.block := fun heq => htaken.fresh (heq ▸ h.mem_inUse hq)
      exact congrArg (List.take (4 * q.2)) (Function.update_of_ne hne ..)
    have hnew : ((t.produced p.block p.data).pool.memory p.block).take (4 * (p.data.length / 4)) =
        p.data := by
      have hmemory : (t.produced p.block p.data).pool.memory p.block =
          Region.splice (t.pool.memory p.block) 0 p.data := Function.update_self ..
      rw [hmemory]
      exact take_produced _ _ htaken.words
    rw [htaken.pool, htaken.bank, List.map_append, List.map_congr_left hold, h.waiting]
    exact congrArg (l.waiting ++ [·]) hnew
  image := by
    rw [htaken.bank]
    exact h.image

theorem Keeps.written (h : Keeps t l)
    (hwritten : DataWritten t block packetLength rest ok t' calls) :
    Keeps t' (l.step (.settle ok)) := by
  obtain ⟨lost, hperm, hlost⟩ := h.blocks
  have hwaiting := h.waiting
  rw [hwritten.waited, List.map_cons] at hperm hwaiting
  have hnodup := h.nodup
  cases ok with
  | true =>
    have herase : (t.pool.inUse.erase block).Perm (rest.map Prod.fst ++ lost) := by
      have heq := hperm.erase block
      rwa [List.cons_append, List.erase_cons_head] at heq
    have hpool := hwritten.pool
    have hbank := hwritten.bank
    rw [if_pos rfl] at hpool hbank
    rw [ServedQueue.Line.step, ← hwaiting]
    exact
      { blocks := ⟨lost, by rw [hpool, hbank]; exact herase, hlost⟩
        nodup := by
          rw [hpool]
          exact hnodup.erase block
        small := by
          rw [hpool]
          exact fun b hb => h.small b (List.mem_of_mem_erase hb)
        waiting := by
          rw [hpool, hbank]
          rfl
        image := by
          rw [hbank, h.image]
          simp }
  | false =>
    have hpool := hwritten.pool
    have hbank := hwritten.bank
    rw [if_neg Bool.false_ne_true] at hpool hbank
    rw [ServedQueue.Line.step, ← hwaiting]
    exact
      { blocks := by
          refine ⟨block :: lost, ?_, congrArg (· + 1) hlost⟩
          rw [hpool, hbank]
          exact hperm.trans List.perm_middle.symm
        nodup := by
          rw [hpool]
          exact hnodup
        small := by
          rw [hpool]
          exact h.small
        waiting := by
          rw [hpool, hbank]
          rfl
        image := by
          rw [hbank]
          exact h.image }

theorem dfuStep_keeps (h : Keeps t l) (hhonest : event.Honest t)
    (hstep : dfuStep t event = some (t', calls)) : Keeps t' (l.run (event.op t)) := by
  obtain ⟨p, htaken, hnot, hp⟩ | ⟨block, packetLength, rest, ok, hwritten, hnot, hw⟩ |
    ⟨htaken, hwritten, hkept⟩ := dfuStep_cases hhonest hstep
  · rw [DfuEvent.op, htaken, hnot]
    exact h.taken hp
  · rw [DfuEvent.op, hwritten, hnot]
    exact h.written hw
  · rw [DfuEvent.op, htaken, hwritten]
    exact h.kept hkept

theorem dfuTransportUpdateStart_data
    (h : dfuTransportUpdateStart dfuTransportReset blePeerData = some (t, calls)) :
    t.data = dfuTransportReset.data := by
  have hdata := (advertisingStart_data h).1
  exact hdata

theorem keeps_start (h : dfuTransportUpdateStart dfuTransportReset blePeerData = some (t, calls)) :
    Keeps t Line.empty := by
  have hdata := dfuTransportUpdateStart_data h
  simp only [DfuTransport.data, DfuData.mk.injEq] at hdata
  obtain ⟨hpool, hbank, -⟩ := hdata
  exact
    { blocks := ⟨[], by rw [hpool, hbank]; exact .nil, rfl⟩
      nodup := by
        rw [hpool]
        exact List.nodup_nil
      small := by
        rw [hpool]
        exact fun _ hblock => absurd hblock List.not_mem_nil
      waiting := by
        rw [hbank]
        rfl
      image := by
        rw [hbank]
        rfl }

theorem dfuStep_rcvd (hhonest : event.Honest t) (hstep : dfuStep t event = some (t', calls)) :
    t'.numOfFirmwareBytesRcvd =
      t.numOfFirmwareBytesRcvd + UInt32.ofNat (arrivals (event.op t)).flatten.length := by
  obtain ⟨p, htaken, hnot, hp⟩ | ⟨block, packetLength, rest, ok, hwritten, hnot, hw⟩ |
    ⟨htaken, hwritten, hkept⟩ := dfuStep_cases hhonest hstep
  · rw [DfuEvent.op, htaken, hnot, hp.rcvd]
    simp
  · rw [DfuEvent.op, hwritten, hnot, hw.rcvd]
    simp
  · rw [DfuEvent.op, htaken, hwritten, hkept.rcvd]
    simp

theorem dfuRun_keeps
    (hstart : dfuTransportUpdateStart dfuTransportReset blePeerData = some (t, started))
    (hhonest : Runs.Guarded dfuStep DfuEvent.Honest t events)
    (hrun : Runs.run dfuStep t events = some (t', calls)) :
    let ops := Runs.observed dfuStep DfuEvent.op t events
    Keeps t' (Line.empty.run ops) ∧
      t'.numOfFirmwareBytesRcvd = UInt32.ofNat (arrivals ops).flatten.length := by
  have hrcvd : t.numOfFirmwareBytesRcvd = 0 :=
    congrArg DfuData.numOfFirmwareBytesRcvd (dfuTransportUpdateStart_data hstart)
  refine hhonest.observes (P := fun t ops => Keeps t (Line.empty.run ops) ∧
      t.numOfFirmwareBytesRcvd = UInt32.ofNat (arrivals ops).flatten.length)
    (fun s seen i s' out h hhonest hstep => ⟨?_, ?_⟩) [] ⟨keeps_start hstart, hrcvd⟩ hrun
  · rw [ServedQueue.Line.run_append]
    exact dfuStep_keeps h.1 hhonest hstep
  · rw [dfuStep_rcvd hhonest hstep, h.2, ServedQueue.arrivals_append, List.flatten_append,
      List.length_append, UInt32.ofNat_add]

-- ---------------------------------------------------------------------------
-- The image and the pool
-- ---------------------------------------------------------------------------

end

def takenInto (block : RxBlock) (pktHandle : UInt32) : PacketAnswers where
  rxProduce := .ok block
  rxDataSizeSet := nrfSuccess
  rxExtract := .ok (block, 4)
  rxConsume := nrfSuccess
  pktHandle := pktHandle
  sent := nrfSuccess

def twoWords : List DfuEvent :=
  [.service .receiveAppData,
    .service (.packetWrite [1, 2, 3, 4] [] (takenInto 3 nrfErrorInvalidLength)),
    .flashed nrfSuccess nrfSuccess nrfSuccess nrfSuccess,
    .service (.packetWrite [5, 6, 7, 8] [] (takenInto 3 nrfSuccess)),
    .flashed nrfSuccess nrfSuccess nrfSuccess nrfSuccess]

section
variable {t t' : DfuTransport}

/-- The blocks in use are those of the packets that wait, each in its own, and
one more for each failed write: nothing else is lost, and no more than sixteen
writes can fail before the pool has nothing left. -/
theorem dfuRun_pool
    (hstart : dfuTransportUpdateStart dfuTransportReset blePeerData = some (t, started))
    (hhonest : Runs.Guarded dfuStep DfuEvent.Honest t events)
    (hrun : Runs.run dfuStep t events = some (t', calls)) :
    let line := (Line.empty : Line (List UInt8)).run (Runs.observed dfuStep DfuEvent.op t events)
    (∃ lost, t'.pool.inUse.Perm (t'.bank.queue.map Prod.fst ++ lost) ∧
        lost.length = line.failed) ∧
      t'.pool.inUse.Nodup ∧ (t'.bank.queue.map Prod.fst).Nodup ∧
      t'.bank.queue.length = line.waiting.length ∧
      line.waiting.length + line.failed ≤ rxBufQueueSize := by
  obtain ⟨hkeeps, -⟩ := dfuRun_keeps hstart hhonest hrun
  have hwaiting := congrArg List.length hkeeps.waiting
  rw [List.length_map] at hwaiting
  refine ⟨hkeeps.blocks, hkeeps.nodup, hkeeps.nodup_queue, hwaiting, ?_⟩
  rw [← hwaiting, ← hkeeps.length_inUse]
  exact hkeeps.length_le

end

theorem dfuRun_pool_twoWords : ∃ t' calls,
    Runs.run dfuStep openTransport (twoWords.take 2) = some (t', calls) ∧
      t'.bank.queue.length = 1 := by
  have hsome : (Runs.run dfuStep openTransport (twoWords.take 2)).isSome = true := by
    decide +kernel
  obtain ⟨⟨t', calls⟩, hrun⟩ := Option.isSome_iff_exists.mp hsome
  obtain ⟨-, -, -, hlength, -⟩ := dfuRun_pool openTransport_start (by decide +kernel) hrun
  exact ⟨t', calls, hrun, hlength.trans (by decide +kernel)⟩

-- ---------------------------------------------------------------------------
-- Receipts
-- ---------------------------------------------------------------------------

/-- The packets that a counter of receipts counts: it is left alone by the last. -/
def receiptTotals (rcvd : UInt32) : List Packet → List UInt32
  | [] => []
  | p :: ps =>
    let rcvd := rcvd + UInt32.ofNat p.data.length
    if p.final then receiptTotals rcvd ps else rcvd :: receiptTotals rcvd ps

/-- How many packets a counter waits for: it is decremented before it is compared. -/
def receiptPeriod (count : UInt16) : Nat := if count = 0 then 65536 else count.toNat

def DfuEvent.Counts (t : DfuTransport) (event : DfuEvent) : Prop :=
  event.Honest t ∧ event.setsReceipts = false

instance (t : DfuTransport) : DecidablePred (DfuEvent.Counts t) :=
  fun _ => inferInstanceAs (Decidable (_ ∧ _))

/-- The packets of a run that the update module takes. -/
def takenPackets : DfuTransport → List DfuEvent → List Packet :=
  Runs.observed dfuStep fun t event => (event.taken t).toList

section
variable {t t' : DfuTransport}

theorem receiptPeriod_last (count : UInt16) : count - 1 = 0 ↔ receiptPeriod count ≤ 1 := by
  unfold receiptPeriod
  constructor
  · intro h
    have hone : count = 1 := by grind
    subst hone
    decide
  · intro h
    split at h
    case isTrue => omega
    case isFalse hne =>
      have hpos : count.toNat ≠ 0 := fun hzero => hne (UInt16.toNat_inj.mp hzero)
      have hone : count = 1 := UInt16.toNat_inj.mp (by rw [UInt16.toNat_one]; omega)
      rw [hone]
      rfl

theorem receiptPeriod_sub_one {count : UInt16} (h : count - 1 ≠ 0) :
    receiptPeriod (count - 1) = receiptPeriod count - 1 := by
  unfold receiptPeriod
  rw [if_neg h]
  split
  case isTrue hzero =>
    subst hzero
    rfl
  case isFalse hne =>
    have hpos : count.toNat ≠ 0 := fun hzero => hne (UInt16.toNat_inj.mp hzero)
    have hle : (1 : UInt16) ≤ count := UInt16.le_iff_toNat_le.mpr (by rw [UInt16.toNat_one]; omega)
    rw [UInt16.toNat_sub_of_le count 1 hle, UInt16.toNat_one]

theorem receiptPeriod_pos (count : UInt16) : 0 < receiptPeriod count := by
  unfold receiptPeriod
  split
  · omega
  case isFalse hne =>
    exact Nat.pos_of_ne_zero fun hzero => hne (UInt16.toNat_inj.mp hzero)

/-- From any count on, the receipts are those of a countdown over the packets. -/
theorem run_receipts (henabled : t.pktRcptNotifEnabled = true)
    (hcounts : Runs.Guarded dfuStep DfuEvent.Counts t events)
    (hrun : Runs.run dfuStep t events = some (t', calls)) :
    calls.filterMap DfuCall.receipt? =
      Countdown.every (receiptPeriod t.pktNotifTarget) (receiptPeriod t.pktNotifTargetCnt)
        (receiptTotals t.numOfFirmwareBytesRcvd (takenPackets t events)) := by
  induction events generalizing t calls with
  | nil =>
    cases hrun
    rfl
  | cons event events ih =>
    obtain ⟨t₁, first, rest, hstep, hrest, rfl⟩ := Runs.run_cons_eq_some.mp hrun
    obtain ⟨hhonest, hsets⟩ := hcounts.1
    have htakenPackets : takenPackets t (event :: events) =
        (event.taken t).toList ++ takenPackets t₁ events := by
      rw [takenPackets, Runs.observed, hstep]
    rw [htakenPackets, List.filterMap_append]
    obtain ⟨p, htaken, -, hp⟩ | ⟨block, packetLength, written, ok, -, htaken, hw⟩ |
      ⟨htaken, -, hkept⟩ := dfuStep_cases hhonest hstep
    · have hcounted := hp.counted
      rw [htaken, ih (hp.enabled.trans henabled) (hcounts.tail hstep) hrest, hp.target, hp.rcvd]
      rw [Option.toList_some, List.singleton_append, receiptTotals]
      cases hfinal : p.final with
      | true =>
        rw [if_pos (.inl hfinal)] at hcounted
        obtain ⟨hcnt, hreceipts⟩ := Prod.mk.inj hcounted
        rw [hcnt, hreceipts]
        rfl
      | false =>
        rw [if_neg (by simp [hfinal, henabled])] at hcounted
        rw [if_neg Bool.false_ne_true, Countdown.every]
        split at hcounted
        case isTrue hlast =>
          obtain ⟨hcnt, hreceipts⟩ := Prod.mk.inj hcounted
          rw [if_pos ((receiptPeriod_last _).mp hlast), hcnt, hreceipts]
          rfl
        case isFalse hgoes =>
          obtain ⟨hcnt, hreceipts⟩ := Prod.mk.inj hcounted
          rw [if_neg (mt (receiptPeriod_last _).mpr hgoes), hcnt, hreceipts,
            receiptPeriod_sub_one hgoes]
          rfl
    · obtain ⟨henabled', htarget, hcnt⟩ := Prod.mk.inj hw.counter |>.imp id Prod.mk.inj
      rw [htaken, hw.receipts, ih (henabled'.trans henabled) (hcounts.tail hstep) hrest, htarget,
        hcnt, hw.rcvd]
      rfl
    · obtain ⟨henabled', htarget, hcnt⟩ := Prod.mk.inj (hkept.counter hsets) |>.imp id Prod.mk.inj
      rw [htaken, hkept.quiet.2, ih (henabled'.trans henabled) (hcounts.tail hstep) hrest,
        htarget, hcnt, hkept.rcvd]
      rfl

/-- After a request for a receipt every `numOfPkts` packets, until the next
request: the j-th receipt is sent at the j-th multiple of that number, where
zero stands for 65536, and names the number of bytes received by then. The
last packet of the image counts for the bytes but not for the receipts. -/
theorem dfuRun_receipts
    (hask : dfuStep t (.service (.pktRcptNotifEnabled numOfPkts)) = some (t₁, asked))
    (hcounts : Runs.Guarded dfuStep DfuEvent.Counts t₁ events)
    (hrun : Runs.run dfuStep t₁ events = some (t', calls)) (j : Nat) :
    (calls.filterMap DfuCall.receipt?)[j]? =
      (receiptTotals t.numOfFirmwareBytesRcvd (takenPackets t₁ events))[
        receiptPeriod numOfPkts - 1 + j * receiptPeriod numOfPkts]? := by
  cases hask
  have hreceipts := run_receipts rfl hcounts hrun
  rw [hreceipts]
  exact Countdown.getElem?_every (receiptPeriod_pos numOfPkts) (receiptPeriod_pos numOfPkts) _ j

end

def countingTransport : DfuTransport :=
  { openTransport with
    pktRcptNotifEnabled := true
    pktNotifTarget := 1
    pktNotifTargetCnt := 1 }

theorem dfuRun_receipts_twoWords : ∃ t' calls,
    Runs.run dfuStep countingTransport twoWords = some (t', calls) ∧
      (calls.filterMap DfuCall.receipt?)[0]? = some 4 ∧
      (calls.filterMap DfuCall.receipt?)[1]? = none := by
  have hask : dfuStep openTransport (.service (.pktRcptNotifEnabled 1)) =
      some (countingTransport, []) := rfl
  have hcounts : Runs.Guarded dfuStep DfuEvent.Counts countingTransport twoWords := by
    decide +kernel
  have hsome : (Runs.run dfuStep countingTransport twoWords).isSome = true := by decide +kernel
  obtain ⟨⟨t', calls⟩, hrun⟩ := Option.isSome_iff_exists.mp hsome
  refine ⟨t', calls, hrun, ?_, ?_⟩
  · exact (dfuRun_receipts hask hcounts hrun 0).trans (by decide +kernel)
  · exact (dfuRun_receipts hask hcounts hrun 1).trans (by decide +kernel)

-- ---------------------------------------------------------------------------
-- The end of the image
-- ---------------------------------------------------------------------------

/-- Only the last of the packets may be a final one. -/
def FinalIsLast (packets : List Packet) : Prop := ∀ p ∈ packets.dropLast, p.final = false

instance : DecidablePred FinalIsLast :=
  fun packets => inferInstanceAs (Decidable (∀ p ∈ packets.dropLast, p.final = false))

section
variable {packets : List Packet}

theorem FinalIsLast.getLast (h : FinalIsLast packets) (hp : p ∈ packets) (hfinal : p.final = true) :
    packets.getLast? = some p := by
  obtain ⟨front, last, rfl⟩ := (List.eq_nil_or_concat' packets).resolve_left
    (List.ne_nil_of_mem hp)
  rw [FinalIsLast, List.dropLast_concat] at h
  rcases List.mem_append.mp hp with hfront | hlast
  · exact absurd ((h p hfront).symm.trans hfinal) Bool.false_ne_true
  · rw [List.mem_singleton.mp hlast, List.getLast?_concat]

theorem FinalIsLast.filter_eq (h : FinalIsLast packets) (hp : p ∈ packets)
    (hfinal : p.final = true) : packets.filter Packet.final = [p] := by
  obtain ⟨front, hpackets⟩ := List.getLast?_eq_some_iff.mp (h.getLast hp hfinal)
  subst hpackets
  rw [FinalIsLast, List.dropLast_concat] at h
  have hfront : front.filter Packet.final = [] :=
    List.filter_eq_nil_iff.mpr fun q hq => by rw [h q hq]; exact Bool.false_ne_true
  rw [List.filter_append, hfront, List.filter_singleton, hfinal]
  rfl

theorem FinalIsLast.of_append (h : FinalIsLast (packets ++ more)) : FinalIsLast packets := by
  intro p hp
  refine h p ?_
  by_cases hmore : more = []
  · rw [hmore, List.append_nil]
    exact hp
  · rw [List.dropLast_append_of_ne_nil hmore]
    exact List.mem_append_left _ (List.dropLast_subset _ hp)

/-- Among the packets that wait, the final one is known by its block. -/
theorem FinalIsLast.block_eq_iff (h : FinalIsLast packets) {waiting : List Packet}
    (hsuffix : waiting <:+ packets) (hblocks : (waiting.map Packet.block).Nodup)
    (hp : p ∈ waiting) :
    (packets.filter Packet.final).getLast?.map Packet.block = some p.block ↔ p.final = true := by
  constructor
  · intro heq
    obtain ⟨q, hq, hblock⟩ := Option.map_eq_some_iff.mp heq
    obtain ⟨hmem, hfinal⟩ := List.mem_filter.mp (List.mem_of_getLast? hq)
    have hlast : waiting.getLast? = some q := by
      rw [← h.getLast hmem hfinal]
      obtain ⟨front, rfl⟩ := hsuffix
      rw [List.getLast?_append_of_ne_nil _ (List.ne_nil_of_mem hp)]
    rw [List.inj_on_of_nodup_map hblocks hp (List.mem_of_getLast? hlast) hblock.symm]
    exact hfinal
  · intro hfinal
    rw [h.filter_eq (hsuffix.subset hp) hfinal]
    rfl

end

section
variable {t t' : DfuTransport}

/-- What a run has told the peer about the image, and what it knows. -/
structure Told (t : DfuTransport) (ops : List (ServedQueue.Op Packet)) (calls : List DfuCall) :
    Prop where
  keeps : Keeps t (Line.empty.run (ops.map (ServedQueue.Op.map Packet.data)))
  blocks : t.bank.queue.map Prod.fst = ((Line.empty : Line Packet).run ops).waiting.map Packet.block
  final : t.finalPacket = ((arrivals ops).filter Packet.final).getLast?.map Packet.block
  told : FinalIsLast (arrivals ops) → (calls.filter DfuCall.success).length =
    (((Line.empty : Line Packet).run ops).served.filter Packet.final).length

theorem Told.taken (h : Told t ops past) (hp : DataTaken t p t' calls)
    (hkeeps : Keeps t' (Line.empty.run ((ops ++ [ServedQueue.Op.arrive p]).map
      (ServedQueue.Op.map Packet.data)))) :
    Told t' (ops ++ [.arrive p]) (past ++ calls) where
  keeps := hkeeps
  blocks := by
    rw [ServedQueue.Line.run_append, hp.bank, List.map_append, h.blocks]
    simp [ServedQueue.Line.run, ServedQueue.Line.step]
  final := by
    rw [hp.final, h.final, ServedQueue.arrivals_append, List.filter_append]
    cases hfinal : p.final with
    | true => simp [hfinal]
    | false => simp [hfinal]
  told := by
    intro hlast
    rw [ServedQueue.arrivals_append] at hlast
    rw [List.filter_append, hp.silent, List.append_nil, h.told hlast.of_append,
      ServedQueue.Line.run_append]
    rfl

theorem Told.written (h : Told t ops past) (hw : DataWritten t block packetLength rest ok t' calls)
    (hkeeps : Keeps t' (Line.empty.run ((ops ++ [ServedQueue.Op.settle ok]).map
      (ServedQueue.Op.map Packet.data)))) :
    Told t' (ops ++ [.settle ok]) (past ++ calls) := by
  have hblocks := h.blocks
  rw [hw.waited, List.map_cons] at hblocks
  obtain ⟨p, waiting, hwaiting, hblock, hrest⟩ := List.map_eq_cons_iff.mp hblocks.symm
  dsimp only at hblock
  have harrivals : arrivals (ops ++ [.settle ok]) = arrivals ops := by simp
  obtain ⟨htail, hserved⟩ := ((Line.empty : Line Packet).run ops).step_settle ok
  rw [hwaiting] at htail hserved
  refine ⟨hkeeps, ?_, ?_, fun hlast => ?_⟩
  · rw [ServedQueue.Line.run_append, hw.bank]
    exact hrest.symm.trans (congrArg (List.map Packet.block) htail.symm)
  · rw [hw.final, h.final, harrivals]
  · rw [harrivals] at hlast
    -- The block that is written is that of the final packet exactly when it holds it.
    have hfinal : t.finalPacket = some block ↔ p.final = true := by
      have hnodup := h.keeps.nodup_queue
      rw [h.blocks] at hnodup
      have hp : p ∈ ((Line.empty : Line Packet).run ops).waiting := by
        rw [hwaiting]
        exact List.mem_cons_self
      rw [h.final, ← hblock]
      exact hlast.block_eq_iff (ServedQueue.Line.run_suffix _ ops) hnodup hp
    have hline : ((Line.empty : Line Packet).run (ops ++ [.settle ok])).served =
        ((Line.empty : Line Packet).run ops).served ++ if ok then [p] else [] := by
      rw [ServedQueue.Line.run_append]
      exact hserved
    rw [List.filter_append, List.length_append, h.told hlast, hw.success, hline,
      List.filter_append, List.length_append]
    cases ok with
    | false => rfl
    | true =>
      cases hp : p.final with
      | true => simp [hp, hfinal]
      | false => simp [hp, hfinal]

end

end WaterBall
