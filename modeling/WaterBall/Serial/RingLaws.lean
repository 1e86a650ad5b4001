import WaterBall.Serial.Driver
import WaterBall.Support.Circular
import WaterBall.Support.BoundedFifo

/-!
# The receive ring is a bounded queue

The bytes of the ring are a circular window from the read index. On them the
fill and the read of the driver are the fill and the take of a bounded queue
of 255 bytes fed from the UART's FIFO, so the conservation law of the queue
holds of every run of the driver.
-/

namespace WaterBall

open Support
open Circular (window)

-- ---------------------------------------------------------------------------
-- Index arithmetic
-- ---------------------------------------------------------------------------

theorem toNat_min (a b : UInt32) : (min a b).toNat = min a.toNat b.toNat := by
  show (if a ≤ b then a else b).toNat = _
  split
  · rename_i h; exact (Nat.min_eq_left h).symm
  · rename_i h; exact (Nat.min_eq_right (Nat.le_of_not_le h)).symm

theorem toNat_incrementBufferIndex (index count : UInt32) :
    (incrementBufferIndex index count).toNat = (index.toNat + count.toNat) % 256 := by
  simp only [incrementBufferIndex, UInt32.toNat_mod, UInt32.toNat_add, UInt32.reduceToNat]
  omega

structure Serial.IndicesOk (s : Serial) : Prop where
  read : s.rxBufferReadI.toNat < 256
  write : s.rxBufferWriteI.toNat < 256

def Serial.filled (s : Serial) : Nat :=
  (bufferFilledCount s.rxBufferReadI s.rxBufferWriteI).toNat

theorem Serial.IndicesOk.filled_eq {s : Serial} (h : s.IndicesOk) :
    s.filled = (s.rxBufferWriteI.toNat + 256 - s.rxBufferReadI.toNat) % 256 := by
  have := h.read
  have := h.write
  simp only [filled, bufferFilledCount, UInt32.toNat_mod, UInt32.toNat_sub, UInt32.toNat_add,
    UInt32.reduceToNat]
  omega

theorem Serial.IndicesOk.filled_le {s : Serial} (h : s.IndicesOk) : s.filled ≤ 255 := by
  rw [h.filled_eq]
  omega

theorem Serial.IndicesOk.write_eq {s : Serial} (h : s.IndicesOk) :
    s.rxBufferWriteI.toNat = (s.rxBufferReadI.toNat + s.filled) % 256 := by
  have := h.read
  have := h.write
  rw [h.filled_eq]
  omega

theorem isBufferFull_iff (s : Serial) :
    isBufferFull s.rxBufferReadI s.rxBufferWriteI = true ↔ s.filled = 255 := by
  simp only [isBufferFull, Serial.filled, beq_iff_eq]
  exact UInt32.toNat_inj.symm

theorem Serial.IndicesOk.isBufferEmpty_iff {s : Serial} (h : s.IndicesOk) :
    isBufferEmpty s.rxBufferReadI s.rxBufferWriteI = true ↔ s.filled = 0 := by
  have := h.read
  have := h.write
  rw [h.filled_eq, isBufferEmpty, beq_iff_eq, ← UInt32.toNat_inj]
  omega

-- ---------------------------------------------------------------------------
-- The bytes of the ring
-- ---------------------------------------------------------------------------

def Serial.contents (s : Serial) : List UInt8 :=
  window s.rxBuffer s.rxBufferReadI.toNat s.filled

@[simp] theorem Serial.length_contents (s : Serial) : s.contents.length = s.filled := by
  simp [contents]

/-- Bytes removed from the front, by advancing the read index over them. -/
def Serial.advance (s : Serial) (count : UInt32) : Serial :=
  { s with rxBufferReadI := incrementBufferIndex s.rxBufferReadI count }

section
variable {s : Serial} (h : s.IndicesOk)

include h

theorem Serial.IndicesOk.advance (count : UInt32) : (s.advance count).IndicesOk := by
  refine ⟨?_, h.write⟩
  rw [Serial.advance, toNat_incrementBufferIndex]
  omega

theorem Serial.IndicesOk.filled_advance {count : UInt32} (hc : count.toNat ≤ s.filled) :
    (s.advance count).filled = s.filled - count.toNat := by
  have := h.read
  have := h.write
  rw [h.filled_eq] at hc ⊢
  rw [(h.advance count).filled_eq]
  simp only [Serial.advance, toNat_incrementBufferIndex]
  omega

theorem Serial.IndicesOk.contents_advance {count : UInt32} (hc : count.toNat ≤ s.filled) :
    (s.advance count).contents = s.contents.drop count.toNat := by
  rw [Serial.contents, h.filled_advance hc, Serial.contents, Circular.drop_window]
  simp only [Serial.advance, toNat_incrementBufferIndex]
  exact Circular.window_mod (N := 256) _ _ _

theorem Serial.IndicesOk.advance_zero : s.advance 0 = s := by
  have hi : incrementBufferIndex s.rxBufferReadI 0 = s.rxBufferReadI := by
    apply UInt32.toNat_inj.mp
    simp [toNat_incrementBufferIndex, Nat.mod_eq_of_lt h.read]
  rw [Serial.advance, hi]

/-- The conditional increment of the source: nothing handed out, nothing moved. -/
theorem Serial.IndicesOk.advance_ite (r : UInt32) :
    (if 0 < r then { s with rxBufferReadI := incrementBufferIndex s.rxBufferReadI r } else s) =
      s.advance r := by
  by_cases hz : 0 < r
  · rw [if_pos hz]; rfl
  · have hz : r = 0 := by
      rw [UInt32.lt_iff_toNat_lt, UInt32.toNat_zero] at hz
      exact UInt32.toNat_inj.mp (by rw [UInt32.toNat_zero]; omega)
    rw [if_neg (by simp [hz]), hz, h.advance_zero]

end

/-- A received byte stored behind the others. -/
def Serial.push (s : Serial) (byte : UInt8) (rest : List UInt8) : Serial :=
  { s with
    rxBuffer := s.rxBuffer.setIfInBounds s.rxBufferWriteI.toNat byte
    rxBufferWriteI := incrementBufferIndex s.rxBufferWriteI 1
    uartFifo := rest }

section
variable {s : Serial} (h : s.IndicesOk)

include h

theorem Serial.IndicesOk.push (byte : UInt8) (rest : List UInt8) :
    (s.push byte rest).IndicesOk := by
  refine ⟨h.read, ?_⟩
  rw [Serial.push, toNat_incrementBufferIndex]
  omega

theorem Serial.IndicesOk.filled_push (hf : s.filled ≠ 255) (byte : UInt8) (rest : List UInt8) :
    (s.push byte rest).filled = s.filled + 1 := by
  have := h.read
  have := h.write
  rw [h.filled_eq] at hf ⊢
  rw [(h.push byte rest).filled_eq]
  simp only [Serial.push, toNat_incrementBufferIndex, UInt32.reduceToNat]
  omega

theorem Serial.IndicesOk.contents_push (hf : s.filled ≠ 255) (byte : UInt8) (rest : List UInt8) :
    (s.push byte rest).contents = s.contents ++ [byte] := by
  have hle := h.filled_le
  rw [Serial.contents, h.filled_push hf]
  simp only [Serial.push, h.write_eq]
  exact Circular.window_push _ _ _ _ (show s.filled < 256 by omega)

end

-- ---------------------------------------------------------------------------
-- The fill
-- ---------------------------------------------------------------------------

/-- What a fill does: the front of the FIFO moves behind the ring's bytes, as
much as there is and fits. -/
structure Serial.Filled (s s' : Serial) (moved : Nat) : Prop where
  moved_eq : moved = min (255 - s.filled) s.uartFifo.length
  indices : s'.IndicesOk
  contents : s'.contents = s.contents ++ s.uartFifo.take moved
  fifo : s'.uartFifo = s.uartFifo.drop moved
  readI : s'.rxBufferReadI = s.rxBufferReadI

theorem Serial.IndicesOk.filled_refl {s : Serial} (h : s.IndicesOk)
    (hm : s.filled = 255 ∨ s.uartFifo = []) : s.Filled s 0 := by
  refine ⟨?_, h, by simp, by simp, rfl⟩
  rcases hm with hm | hm <;> simp [hm]

theorem Serial.Filled.step {s s' : Serial} {byte : UInt8} {rest : List UInt8} {moved : Nat}
    (h : s.IndicesOk) (hf : s.filled ≠ 255) (hu : s.uartFifo = byte :: rest)
    (hs : (s.push byte rest).Filled s' moved) : s.Filled s' (moved + 1) := by
  have hle := h.filled_le
  obtain ⟨hm, hi, hc, hq, hr⟩ := hs
  rw [h.filled_push hf] at hm
  rw [h.contents_push hf] at hc
  simp only [Serial.push] at hm hc hq hr
  refine ⟨?_, hi, ?_, ?_, hr⟩
  · rw [hu, List.length_cons]; omega
  · simpa [hu] using hc
  · simpa [hu] using hq

theorem serialFifoLoop_spec (uart : AppUart) (fuel : Nat) (s : Serial) (newBytes : UInt32)
    (h : s.IndicesOk) (hfuel : 256 - s.filled ≤ fuel) :
    ∃ s' moved, serialFifoLoop uart fuel s newBytes = (newBytes + UInt32.ofNat moved, s') ∧
      s.Filled s' moved := by
  have hle := h.filled_le
  induction fuel generalizing s newBytes with
  | zero => omega
  | succ fuel ih =>
    rw [serialFifoLoop]
    by_cases hf : s.filled = 255
    · rw [if_pos ((isBufferFull_iff s).mpr hf)]
      exact ⟨s, 0, by simp, h.filled_refl (.inl hf)⟩
    · rw [if_neg (by rwa [isBufferFull_iff])]
      cases hu : s.uartFifo with
      | nil =>
        rw [uart.fails]
        refine ⟨s, 0, ?_, h.filled_refl (.inr hu)⟩
        simp [← hu]
      | cons byte rest =>
        rw [uart.pops]
        have hp := h.push byte rest
        have hpf := h.filled_push hf byte rest
        obtain ⟨s', moved, heq, hs⟩ :=
          ih (s.push byte rest) (newBytes + 1) hp (by omega) hp.filled_le
        refine ⟨s', moved + 1, ?_, hs.step h hf hu⟩
        show serialFifoLoop uart fuel (s.push byte rest) (newBytes + 1) = _
        rw [heq]
        simp [UInt32.add_assoc, UInt32.add_comm 1]

/-- The spec of `serial_fifo_to_rx_buffer`. -/
theorem serialFifoToRxBuffer_spec (uart : AppUart) {s : Serial} (h : s.IndicesOk) :
    s.Filled (serialFifoToRxBuffer uart s).2 (serialFifoToRxBuffer uart s).1.toNat := by
  obtain ⟨s', moved, heq, hs⟩ := serialFifoLoop_spec uart 256 s 0 h (by omega)
  have hmoved := hs.moved_eq
  have hnat : (UInt32.ofNat moved).toNat = moved := UInt32.toNat_ofNat_of_lt' (by
    rw [UInt32.size]; omega)
  rw [serialFifoToRxBuffer, heq, UInt32.zero_add, hnat]
  exact hs

-- ---------------------------------------------------------------------------
-- The copy to the caller
-- ---------------------------------------------------------------------------

theorem contents_pieces {s : Serial} (h : s.IndicesOk) {r first : Nat} (hr : r ≤ s.filled)
    (hfirst : first = min r (256 - s.rxBufferReadI.toNat)) :
    Region.slice s.rxBuffer.toList s.rxBufferReadI.toNat first ++
      Region.slice s.rxBuffer.toList 0 (r - first) = s.contents.take r := by
  have hle := h.filled_le
  have htwo := Circular.window_two_segments s.rxBuffer s.rxBufferReadI.toNat r h.read
    (show r ≤ 256 by omega)
  rw [show serialRxBufSize - s.rxBufferReadI.toNat = 256 - s.rxBufferReadI.toNat from rfl,
    ← hfirst] at htwo
  rw [Serial.contents, Circular.take_window, Nat.min_eq_left hr, htwo]
  rfl

/-- The spec of `serial_copy_rx_buffer`: the front of the ring's bytes, as much
as there is and the caller takes, over the start of the caller's buffer. -/
theorem serialCopyRxBuffer_spec {s : Serial} (h : s.IndicesOk) {pBuffer : List UInt8}
    {size : UInt32} (hp : size.toNat ≤ pBuffer.length) :
    ∃ r : UInt32, r.toNat = min size.toNat s.filled ∧
      serialCopyRxBuffer s pBuffer size =
        some (r, Region.splice pBuffer 0 (s.contents.take r.toNat)) := by
  by_cases hz : isBufferEmpty s.rxBufferReadI s.rxBufferWriteI || size == 0
  · refine ⟨0, ?_, by simp [serialCopyRxBuffer, hz]⟩
    rcases Bool.or_eq_true_iff.mp hz with he | he
    · simp [h.isBufferEmpty_iff.mp he]
    · simp [eq_of_beq he]
  have hread := h.read
  have hle := h.filled_le
  have hr : (min (bufferFilledCount s.rxBufferReadI s.rxBufferWriteI) size).toNat =
      min size.toNat s.filled := by
    rw [toNat_min, Nat.min_comm]
    rfl
  refine ⟨_, hr, ?_⟩
  generalize hrs : min (bufferFilledCount s.rxBufferReadI s.rxBufferWriteI) size = r at hr ⊢
  have hfirst : (min r (256 - s.rxBufferReadI)).toNat =
      min r.toNat (256 - s.rxBufferReadI.toNat) := by
    have h256 : (256 - s.rxBufferReadI : UInt32).toNat = 256 - s.rxBufferReadI.toNat := by
      rw [UInt32.toNat_sub]
      simp only [UInt32.reduceToNat]
      omega
    rw [toNat_min, h256]
  generalize hf : min r (256 - s.rxBufferReadI) = first at hfirst
  have hrest : (r - first).toNat = r.toNat - first.toNat := by
    rw [UInt32.toNat_sub]
    omega
  have hring : s.rxBuffer.toList.length = 256 := by simp
  have hlen : (Region.slice s.rxBuffer.toList s.rxBufferReadI.toNat first.toNat).length =
      first.toNat := by
    rw [Region.length_slice]
    omega
  have hfits : 0 + (Region.slice s.rxBuffer.toList s.rxBufferReadI.toNat first.toNat).length +
      (Region.slice s.rxBuffer.toList 0 (r - first).toNat).length ≤ pBuffer.length := by
    simp only [Region.length_slice]
    omega
  have hcat := Region.splice_splice hfits
  rw [hlen, Nat.zero_add] at hcat
  rw [serialCopyRxBuffer, if_neg hz]
  simp only [hrs, hf, Option.bind_eq_bind, Option.pure_def]
  rw [Region.read_of_fits (by omega), Option.bind_some, Region.write_of_fits (by omega),
    Option.bind_some, Region.read_of_fits (by omega), Option.bind_some, Region.write_of_fits
    (by rw [Region.length_splice] <;> omega), Option.bind_some]
  rw [hcat, hrest, contents_pieces h (by omega) hfirst]

/-- The spec of `serial_read_existing`: what the copy hands out leaves the ring. -/
theorem serialReadExisting_spec {s : Serial} (h : s.IndicesOk) {pBuffer : List UInt8}
    {size : UInt32} (hp : size.toNat ≤ pBuffer.length) :
    ∃ r : UInt32, r.toNat = min size.toNat s.filled ∧
      serialReadExisting s pBuffer size =
        some (r, s.advance r, Region.splice pBuffer 0 (s.contents.take r.toNat)) := by
  obtain ⟨r, hr, hcopy⟩ := serialCopyRxBuffer_spec h hp
  refine ⟨r, hr, ?_⟩
  rw [serialReadExisting, hcopy]
  simp only [Option.bind_eq_bind, Option.bind_some, Option.pure_def, h.advance_ite]

end WaterBall
