import WaterBall.Serial.RingRuns

/-!
# Reading a line

`serial_try_read_line` looks for a line end with a C string search over the
caller's buffer, of which only the first bytes were received. The laws here
say what one round of its loop does, and when the search leaves the received
bytes.
-/

namespace WaterBall

open Support

-- ---------------------------------------------------------------------------
-- The search
-- ---------------------------------------------------------------------------

/-- A byte that neither ends the string nor the line. -/
def plainByte (byte : UInt8) : Bool := byte != 0 && !lineEnds.contains byte

theorem plainByte_iff (byte : UInt8) : plainByte byte = true ↔ byte ≠ 0 ∧ byte ∉ lineEnds := by
  simp [plainByte]

theorem strpbrk_plain {q : List UInt8} (h : q.all plainByte = true) (m : List UInt8) :
    strpbrk lineEnds (q ++ m) = (strpbrk lineEnds m).map (Option.map (· + q.length)) := by
  induction q with
  | nil =>
    rcases hm : strpbrk lineEnds m with _ | _ | _ <;> simp [hm]
  | cons byte q ih =>
    simp only [List.all_cons, Bool.and_eq_true, plainByte_iff] at h
    obtain ⟨⟨hz, he⟩, hq⟩ := h
    rw [List.cons_append, strpbrk, if_neg hz, if_neg he, ih hq]
    rcases strpbrk lineEnds m with _ | _ | i <;> simp [Nat.add_assoc]

/-- The search ends at the first byte that is not plain, and does not look
behind it. It finds something there exactly when that byte ends the line. -/
theorem strpbrk_stops {q : List UInt8} (h : q.all plainByte = false) :
    ∃ found, (∀ m, strpbrk lineEnds (q ++ m) = some found) ∧
      (∀ i, found = some i → ∃ hi : i < q.length, q[i] ∈ lineEnds) ∧
      (found = none → ∀ byte rest, q = byte :: rest → byte ∉ lineEnds) := by
  induction q with
  | nil => simp at h
  | cons byte q ih =>
    by_cases hz : byte = 0
    · refine ⟨none, fun m => by simp [strpbrk, hz], by simp, ?_⟩
      rintro - _ _ heq
      obtain ⟨rfl, -⟩ := List.cons.inj heq
      simp [hz, lineEnds]
    by_cases he : byte ∈ lineEnds
    · refine ⟨some 0, fun m => by simp [strpbrk, hz, he], ?_, by simp⟩
      rintro i hi
      cases hi
      exact ⟨by simp, he⟩
    · have hq : q.all plainByte = false := by
        have hb : plainByte byte = true := (plainByte_iff byte).mpr ⟨hz, he⟩
        simpa [hb] using h
      obtain ⟨found, hall, hin, -⟩ := ih hq
      refine ⟨found.map (· + 1), fun m => ?_, ?_, ?_⟩
      · rw [List.cons_append, strpbrk, if_neg hz, if_neg he, hall m]; rfl
      · intro i hi
        obtain ⟨j, hj, rfl⟩ := Option.map_eq_some_iff.mp hi
        obtain ⟨hlt, hmem⟩ := hin j hj
        exact ⟨by simpa using hlt, by simpa using hmem⟩
      · rintro - _ _ heq
        obtain ⟨rfl, -⟩ := List.cons.inj heq
        exact he

theorem strpbrk_lt {m : List UInt8} {i : Nat} (h : strpbrk lineEnds m = some (some i)) :
    i < m.length := by
  induction m generalizing i with
  | nil => simp [strpbrk] at h
  | cons byte m ih =>
    rw [strpbrk] at h
    split at h
    · simp at h
    split at h
    · simp only [Option.some.injEq] at h; subst h; simp
    · cases hm : strpbrk lineEnds m with
      | none => simp [hm] at h
      | some found =>
        cases found with
        | none => simp [hm] at h
        | some j =>
          have := ih hm
          simp only [hm, Option.map_some, Option.some.injEq] at h
          subst h
          simp only [List.length_cons]
          omega

-- ---------------------------------------------------------------------------
-- One round of the loop
-- ---------------------------------------------------------------------------

section
variable (uart : AppUart) {s : Serial} {size : UInt32} {pBuffer : List UInt8}

def Serial.copied (s : Serial) (pBuffer : List UInt8) : List UInt8 :=
  s.contents ++ pBuffer.drop s.filled

def serialScanNext (uart : AppUart) (size : UInt32) (fuel : Nat) (s : Serial)
    (pBuffer : List UInt8) (carriageReturn : Option Nat) : Option LineScan :=
  if carriageReturn.isNone && isBufferFull s.rxBufferReadI s.rxBufferWriteI then
    if 0 < (serialFifoToRxBuffer uart (s.advance 1)).1 then
      serialScanLine uart size fuel (serialFifoToRxBuffer uart (s.advance 1)).2 pBuffer
    else some (.done (serialFifoToRxBuffer uart (s.advance 1)).2 pBuffer carriageReturn)
  else some (.done s pBuffer carriageReturn)

theorem serialScanLine_copied {r : UInt32} {b : List UInt8}
    (hcopy : serialCopyRxBuffer s pBuffer size = some (r, b)) (fuel : Nat) :
    serialScanLine uart size (fuel + 1) s pBuffer =
      if r = 0 then some (.empty s b)
      else (strpbrk lineEnds b).bind (serialScanNext uart size fuel s b) := by
  simp only [serialScanLine, hcopy, Option.bind_eq_bind, Option.bind_some, Option.pure_def]
  rfl

theorem serialScanLine_empty (h : s.IndicesOk) (hp : size.toNat ≤ pBuffer.length)
    (hz : s.filled = 0) (fuel : Nat) :
    serialScanLine uart size (fuel + 1) s pBuffer = some (.empty s pBuffer) := by
  obtain ⟨r, hr, hcopy⟩ := serialCopyRxBuffer_spec h hp
  have hr : r = 0 := UInt32.toNat_inj.mp (by rw [hr, hz]; simp)
  subst hr
  simp [serialScanLine_copied uart hcopy]

theorem serialScanLine_round (h : s.IndicesOk) (hsize : 256 ≤ size.toNat)
    (hp : size.toNat ≤ pBuffer.length) (hz : s.filled ≠ 0) (fuel : Nat) :
    serialScanLine uart size (fuel + 1) s pBuffer =
      (strpbrk lineEnds (s.copied pBuffer)).bind
        (serialScanNext uart size fuel s (s.copied pBuffer)) := by
  have hle := h.filled_le
  obtain ⟨r, hr, hcopy⟩ := serialCopyRxBuffer_spec h hp
  have hr : r.toNat = s.filled := by omega
  have hne : r ≠ 0 := by
    rintro rfl
    exact hz hr.symm
  rw [hr, List.take_of_length_le (by simp), Region.splice_zero, s.length_contents] at hcopy
  rw [serialScanLine_copied uart hcopy, if_neg hne, Serial.copied]

theorem Serial.length_copied (hp : s.filled ≤ pBuffer.length) :
    (s.copied pBuffer).length = pBuffer.length := by
  simp only [copied, List.length_append, length_contents, List.length_drop]
  omega

/-- The full ring after a byte was dropped and one of the FIFO took its place. -/
theorem refill_full (h : s.IndicesOk) (hf : s.filled = 255) {byte : UInt8} {rest : List UInt8}
    (hu : s.uartFifo = byte :: rest) :
    (serialFifoToRxBuffer uart (s.advance 1)).1.toNat = 1 ∧
      (serialFifoToRxBuffer uart (s.advance 1)).2.IndicesOk ∧
      (serialFifoToRxBuffer uart (s.advance 1)).2.filled = 255 ∧
      (serialFifoToRxBuffer uart (s.advance 1)).2.contents = s.contents.drop 1 ++ [byte] ∧
      (serialFifoToRxBuffer uart (s.advance 1)).2.uartFifo = rest := by
  have hone : (1 : UInt32).toNat ≤ s.filled := by rw [hf]; decide
  have hspec := serialFifoToRxBuffer_spec uart (h.advance 1)
  have hfilled := h.filled_advance hone
  have hcontents := h.contents_advance hone
  have hfifo : (s.advance 1).uartFifo = byte :: rest := hu
  have hmoved : (serialFifoToRxBuffer uart (s.advance 1)).1.toNat = 1 := by
    rw [hspec.moved_eq, hfilled, hf, hfifo, List.length_cons, UInt32.toNat_one]; omega
  have hbytes := hspec.contents
  rw [hmoved, hfifo, hcontents] at hbytes
  have hleft := hspec.fifo
  rw [hmoved, hfifo] at hleft
  refine ⟨hmoved, hspec.indices, ?_, hbytes, hleft⟩
  rw [← Serial.length_contents, hbytes]
  simp [hf]

theorem refill_none (h : s.IndicesOk) (hf : s.filled = 255) (hu : s.uartFifo = []) :
    (serialFifoToRxBuffer uart (s.advance 1)).1.toNat = 0 ∧
      (serialFifoToRxBuffer uart (s.advance 1)).2.IndicesOk ∧
      (serialFifoToRxBuffer uart (s.advance 1)).2.contents = s.contents.drop 1 ∧
      (serialFifoToRxBuffer uart (s.advance 1)).2.uartFifo = [] := by
  have hone : (1 : UInt32).toNat ≤ s.filled := by rw [hf]; decide
  have hspec := serialFifoToRxBuffer_spec uart (h.advance 1)
  have hfifo : (s.advance 1).uartFifo = [] := hu
  have hbytes := hspec.contents
  rw [h.contents_advance hone, hfifo, List.take_nil, List.append_nil] at hbytes
  have hleft := hspec.fifo
  rw [hfifo, List.drop_nil] at hleft
  exact ⟨by rw [hspec.moved_eq, hfifo]; simp, hspec.indices, hbytes, hleft⟩

/-- How a round goes on after its search: with a line end, with room in the ring,
or with the oldest byte dropped from a full one. -/
inductive ScanNext (uart : AppUart) (size : UInt32) (fuel : Nat) (s : Serial)
    (pBuffer : List UInt8) (found : Option Nat) (result : Option LineScan) : Prop
  | line (i : Nat) (hfound : found = some i) (hresult : result = some (.done s pBuffer (some i)))
  | wait (hnone : found = none) (hroom : s.filled ≠ 255)
      (hresult : result = some (.done s pBuffer none))
  | drop (s' : Serial) (hnone : found = none) (hfull : s.filled = 255) (hfifo : s.uartFifo = [])
      (hok : s'.IndicesOk) (hcontents : s'.contents = s.contents.drop 1) (hleft : s'.uartFifo = [])
      (hresult : result = some (.done s' pBuffer none))
  | next (s' : Serial) (byte : UInt8) (rest : List UInt8) (hnone : found = none)
      (hfull : s.filled = 255) (hfifo : s.uartFifo = byte :: rest) (hok : s'.IndicesOk)
      (hfull' : s'.filled = 255) (hcontents : s'.contents = s.contents.drop 1 ++ [byte])
      (hleft : s'.uartFifo = rest) (hresult : result = serialScanLine uart size fuel s' pBuffer)

theorem serialScanNext_cases (h : s.IndicesOk) (fuel : Nat) (found : Option Nat) :
    ScanNext uart size fuel s pBuffer found
      (serialScanNext uart size fuel s pBuffer found) := by
  cases found with
  | some i => exact .line i rfl rfl
  | none =>
    by_cases hf : s.filled = 255
    · have hfull := (isBufferFull_iff s).mpr hf
      cases hu : s.uartFifo with
      | nil =>
        obtain ⟨hmoved, hok, hcontents, hleft⟩ := refill_none uart h hf hu
        refine .drop _ rfl hf hu hok hcontents hleft ?_
        simp [serialScanNext, hfull, UInt32.lt_iff_toNat_lt, hmoved]
      | cons byte rest =>
        obtain ⟨hmoved, hok, hf', hcontents, hleft⟩ := refill_full uart h hf hu
        refine .next _ byte rest rfl hf hu hok hf' hcontents hleft ?_
        simp [serialScanNext, hfull, UInt32.lt_iff_toNat_lt, hmoved]
    · refine .wait rfl hf ?_
      simp [serialScanNext, isBufferFull_iff, hf]

end

end WaterBall
