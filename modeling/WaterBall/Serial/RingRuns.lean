import WaterBall.Serial.RingLaws

/-!
# Runs of the serial driver

Bytes arrive, the main loop fills the ring, and callers read from it, in any
order. Each step of the driver is the step of the bounded queue that its ring
and FIFO represent, so every run of the driver is a run of the queue.
-/

namespace WaterBall

open Support
open BoundedFifo (Queue Port Op)

structure CallerBuffer where
  bytes : List UInt8
  size : UInt32
  length_eq : bytes.length = size.toNat

inductive SerialEvent
  /-- The UART receives a byte. -/
  | arrive (byte : UInt8)
  | serialEvtHandler (evt : UartEvent)
  | serialTryClose
  | serialFifoToRxBuffer
  | serialReadExisting (pBuffer : CallerBuffer)

def serialStep (uart : AppUart) (s : Serial) : SerialEvent → Option (Serial × List UInt8)
  | .arrive byte => some ({ s with uartFifo := s.uartFifo ++ [byte] }, [])
  | .serialEvtHandler evt => some (serialEvtHandler s evt, [])
  | .serialTryClose => some ((serialTryClose s).1, [])
  | .serialFifoToRxBuffer => some ((serialFifoToRxBuffer uart s).2, [])
  | .serialReadExisting p => do
    let (returnSize, s, pBuffer) ← serialReadExisting s p.bytes p.size
    return (s, pBuffer.take returnSize.toNat)

def serialRun (uart : AppUart) (s : Serial) : List SerialEvent → Option (Serial × List UInt8)
  | [] => some (s, [])
  | e :: es => do
    let (s, returned) ← serialStep uart s e
    let (s, rest) ← serialRun uart s es
    return (s, returned ++ rest)

def SerialEvent.arrived : SerialEvent → List UInt8
  | .arrive byte => [byte]
  | _ => []

-- ---------------------------------------------------------------------------
-- The queue behind the ring
-- ---------------------------------------------------------------------------

/-- The bounded queue that the ring and the FIFO represent. -/
def Serial.port (s : Serial) (h : s.IndicesOk) : Port UInt8 255 :=
  { queue := { items := s.contents, bounded := by simpa using h.filled_le }
    source := s.uartFifo }

/-- The operation of the queue that an event is. What only changes the
module's state takes nothing. -/
def SerialEvent.op : SerialEvent → Op UInt8
  | .arrive byte => .arrive byte
  | .serialEvtHandler _ => .take 0
  | .serialTryClose => .take 0
  | .serialFifoToRxBuffer => .fill
  | .serialReadExisting p => .take p.size.toNat

theorem SerialEvent.arrived_op (e : SerialEvent) : e.op.arrived = e.arrived := by
  cases e <;> rfl

theorem Serial.Filled.port {s s' : Serial} {moved : Nat} (h : s.IndicesOk)
    (hf : s.Filled s' moved) : s'.port hf.indices = (s.port h).fill := by
  have hroom : (s.port h).room = moved := by
    rw [Port.room]
    simpa [Serial.port] using hf.moved_eq.symm
  have hitems : s'.contents = s.contents ++ s.uartFifo.take (s.port h).room := by
    rw [hroom]; exact hf.contents
  have hsource : s'.uartFifo = s.uartFifo.drop (s.port h).room := by
    rw [hroom]; exact hf.fifo
  ext1
  · ext1
    rw [Port.fill_items]
    exact hitems
  · rw [Port.fill_source]
    exact hsource

theorem Serial.IndicesOk.port_advance {s : Serial} (h : s.IndicesOk) {r : UInt32} {n : Nat}
    (hr : r.toNat = min n s.filled) :
    (s.advance r).port (h.advance r) = (s.port h).take n := by
  have hc : (s.advance r).contents = s.contents.drop n := by
    rw [h.contents_advance (by omega), hr]
    rcases Nat.le_total n s.filled with hle | hle
    · rw [Nat.min_eq_left hle]
    · rw [Nat.min_eq_right hle, List.drop_of_length_le (by simp),
        List.drop_of_length_le (by simpa using hle)]
  ext1
  · ext1
    rw [Port.take_items]
    exact hc
  · rw [Port.take_source]
    rfl

theorem Serial.port_state (s : Serial) (h : s.IndicesOk) (state : SerialState)
    (errCode : UInt32) : (s.port h).step (.take 0) =
      (Serial.port { s with state, errCode } ⟨h.read, h.write⟩, []) := by
  have htake : (s.port h).take 0 = Serial.port { s with state, errCode } ⟨h.read, h.write⟩ := by
    ext1
    · ext1
      rw [Port.take_items]
      rfl
    · rw [Port.take_source]
      rfl
  rw [Port.step, htake]
  rfl

theorem serialEvtHandler_state (s : Serial) (evt : UartEvent) :
    ∃ state errCode, serialEvtHandler s evt = { s with state, errCode } := by
  cases evt with
  | fifoError code => exact ⟨_, code, rfl⟩
  | communicationError code => exact ⟨s.state, code, rfl⟩
  | txEmpty => exact ⟨s.state, s.errCode, rfl⟩
  | other => exact ⟨s.state, s.errCode, rfl⟩

/-- Every event is enabled, and is its operation on the queue. -/
theorem serialStep_refines (uart : AppUart) {s : Serial} (h : s.IndicesOk) (e : SerialEvent) :
    ∃ s' returned, serialStep uart s e = some (s', returned) ∧
      ∃ h' : s'.IndicesOk, (s.port h).step e.op = (s'.port h', returned) := by
  cases e with
  | arrive byte =>
    exact ⟨{ s with uartFifo := s.uartFifo ++ [byte] }, [], rfl, ⟨h.read, h.write⟩, rfl⟩
  | serialEvtHandler evt =>
    obtain ⟨state, errCode, heq⟩ := serialEvtHandler_state s evt
    refine ⟨{ s with state, errCode }, [], ?_, ⟨h.read, h.write⟩, s.port_state h state errCode⟩
    rw [serialStep, heq]
  | serialTryClose =>
    exact ⟨(serialTryClose s).1, [], rfl, ⟨h.read, h.write⟩, s.port_state h .closed s.errCode⟩
  | serialFifoToRxBuffer =>
    have hf := serialFifoToRxBuffer_spec uart h
    refine ⟨(serialFifoToRxBuffer uart s).2, [], rfl, hf.indices, ?_⟩
    rw [hf.port h]
    rfl
  | serialReadExisting p =>
    have hfits : p.size.toNat ≤ p.bytes.length := Nat.le_of_eq p.length_eq.symm
    obtain ⟨r, hr, hread⟩ := serialReadExisting_spec h hfits
    refine ⟨s.advance r, s.contents.take p.size.toNat, ?_, h.advance r, ?_⟩
    · -- The bytes handed out are the first `r` of the buffer, which are those copied to it.
      have htake : s.contents.take p.size.toNat = s.contents.take r.toNat := by
        rw [hr, ← s.length_contents, List.take_eq_take_min]
      have hlen : (s.contents.take r.toNat).length = r.toNat := by
        simp; omega
      simp only [serialStep, hread, Option.bind_eq_bind, Option.bind_some, Option.pure_def, htake]
      rw [Region.splice_zero, List.take_left' hlen]
    · rw [h.port_advance hr]; rfl

theorem serialRun_refines (uart : AppUart) {s : Serial} (h : s.IndicesOk) (es : List SerialEvent) :
    ∃ s' returned, serialRun uart s es = some (s', returned) ∧
      ∃ h' : s'.IndicesOk, (s.port h).run (es.map SerialEvent.op) = (s'.port h', returned) := by
  induction es generalizing s with
  | nil => exact ⟨s, [], rfl, h, rfl⟩
  | cons e es ih =>
    obtain ⟨s₁, out, hstep, h₁, hport⟩ := serialStep_refines uart h e
    obtain ⟨s₂, rest, hrun, h₂, hrest⟩ := ih h₁
    refine ⟨s₂, out ++ rest, ?_, h₂, ?_⟩
    · simp [serialRun, hstep, hrun]
    · simp [Port.run, hport, hrest]

/-- The task of the main loop is a run of these events, unless an error resets
the device. Only an open port is read from. -/
theorem serialTasks_isRun (uart : AppUart) (s : Serial) :
    (serialTasks uart s = none ∧ s.state = .error) ∨
      ∃ s' es, serialTasks uart s = some s' ∧ serialRun uart s es = some (s', []) ∧
        (.serialFifoToRxBuffer ∈ es ↔ s.state = .opened) := by
  unfold serialTasks
  cases hstate : s.state with
  | init => exact .inr ⟨_, [.serialTryClose], rfl, rfl, by simp⟩
  | closed => exact .inr ⟨s, [], rfl, rfl, by simp⟩
  | opened => exact .inr ⟨_, [.serialFifoToRxBuffer], rfl, rfl, by simp⟩
  | error => exact .inl ⟨rfl, rfl⟩

theorem serialInit_indicesOk (s : Serial) : (serialInit s).IndicesOk := by
  constructor <;> simp [serialInit]

/-- The receive ring is a bounded FIFO. After any run from `serial_init`, both
indices are inside the ring, a read returns as many bytes as are asked for and
filled, a fill moves as many as fit and wait, and what was returned, then the
ring, then the UART's FIFO is the stream of bytes that arrived.

The run is arbitrary, so the second part is about each of its reads and fills:
each is made in the state after some run. -/
theorem serial_ring_refines_fifo (uart : AppUart) (s₀ : Serial) (es : List SerialEvent) :
    ∃ s returned, serialRun uart (serialInit s₀) es = some (s, returned) ∧
      s.rxBufferReadI.toNat < 256 ∧ s.rxBufferWriteI.toNat < 256 ∧ s.filled ≤ 255 ∧
      (∀ p : CallerBuffer, ∃ (r : UInt32) (s' : Serial),
        r.toNat = min p.size.toNat s.filled ∧
        serialReadExisting s p.bytes p.size =
          some (r, s', s.contents.take r.toNat ++ p.bytes.drop r.toNat) ∧
        s'.contents = s.contents.drop r.toNat) ∧
      (∀ moved s', serialFifoToRxBuffer uart s = (moved, s') →
        moved.toNat = min (255 - s.filled) s.uartFifo.length ∧
        s'.contents = s.contents ++ s.uartFifo.take moved.toNat ∧
        s'.uartFifo = s.uartFifo.drop moved.toNat) ∧
      returned ++ s.contents ++ s.uartFifo = s₀.uartFifo ++ es.flatMap SerialEvent.arrived := by
  have h₀ := serialInit_indicesOk s₀
  obtain ⟨s, returned, hrun, h, hport⟩ := serialRun_refines uart h₀ es
  refine ⟨s, returned, hrun, h.read, h.write, h.filled_le, ?_, ?_, ?_⟩
  · intro p
    have hfits : p.size.toNat ≤ p.bytes.length := Nat.le_of_eq p.length_eq.symm
    obtain ⟨r, hr, hread⟩ := serialReadExisting_spec h hfits
    refine ⟨r, s.advance r, hr, ?_, h.contents_advance (by omega)⟩
    have hlen : (s.contents.take r.toNat).length = r.toNat := by simp; omega
    rw [hread, Region.splice_zero, hlen]
  · rintro moved s' hfill
    have hf := serialFifoToRxBuffer_spec uart h
    rw [hfill] at hf
    exact ⟨hf.moved_eq, hf.contents, hf.fifo⟩
  · have hempty : (serialInit s₀).contents = [] := by
      apply List.eq_nil_of_length_eq_zero
      rw [Serial.length_contents, h₀.filled_eq]
      simp [serialInit]
    have hlaw := ((serialInit s₀).port h₀).conservation (es.map SerialEvent.op)
    rw [hport] at hlaw
    simp only [Port.held, Serial.port, hempty, List.nil_append] at hlaw
    rw [List.append_assoc, hlaw, List.flatMap_map]
    simp [SerialEvent.arrived_op, serialInit]

end WaterBall
