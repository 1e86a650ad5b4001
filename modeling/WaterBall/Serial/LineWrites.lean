import WaterBall.Serial.LineReads

/-!
# Where a line read writes

The copies of a line read stay inside the caller's buffer. The clearing behind
the line does not ask for the buffer's size: it runs to byte 256, from wherever
the search ended.
-/

namespace WaterBall

open Support

-- ---------------------------------------------------------------------------
-- The writes of a call
-- ---------------------------------------------------------------------------

/-- `length` bytes of `p_buffer` from `start`. -/
structure BufferWrite where
  start : Nat
  length : Nat
  deriving DecidableEq

def BufferWrite.Touches (w : BufferWrite) (i : Nat) : Prop :=
  w.start ≤ i ∧ i < w.start + w.length

instance (w : BufferWrite) (i : Nat) : Decidable (w.Touches i) :=
  inferInstanceAs (Decidable (_ ∧ _))

def serialCopyWrites (s : Serial) (size : UInt32) : List BufferWrite :=
  if isBufferEmpty s.rxBufferReadI s.rxBufferWriteI || size == 0 then []
  else
    let returnSize := min (bufferFilledCount s.rxBufferReadI s.rxBufferWriteI) size
    let readSize := min returnSize (256 - s.rxBufferReadI)
    [⟨0, readSize.toNat⟩, ⟨readSize.toNat, (returnSize - readSize).toNat⟩]

/-- The writes of the loop, round by round. -/
def serialScanWrites (uart : AppUart) (size : UInt32) :
    Nat → Serial → List UInt8 → List BufferWrite
  | 0, _, _ => []
  | fuel + 1, s, pBuffer =>
    serialCopyWrites s size ++
      match serialCopyRxBuffer s pBuffer size with
      | some (returnSize, pBuffer) =>
        if returnSize = 0 then []
        else if strpbrk lineEnds pBuffer = some none ∧
            isBufferFull s.rxBufferReadI s.rxBufferWriteI then
          let (newBytes, s) := serialFifoToRxBuffer uart (s.advance 1)
          if 0 < newBytes then serialScanWrites uart size fuel s pBuffer else []
        else []
      | none => []

def serialTakeWrites : LineScan → List BufferWrite
  | .empty _ _ => []
  | .done _ _ found => [⟨(lineSize found).toNat, (256 - lineSize found).toNat⟩]

def serialTryReadLineWrites (uart : AppUart) (s : Serial) (pBuffer : List UInt8) (size : UInt32) :
    List BufferWrite :=
  let fuel := s.uartFifo.length + 1
  serialScanWrites uart size fuel s pBuffer ++
    ((serialScanLine uart size fuel s pBuffer).map serialTakeWrites).getD []

-- ---------------------------------------------------------------------------
-- Nothing else changes
-- ---------------------------------------------------------------------------

section
variable (uart : AppUart) {s : Serial} {size : UInt32} {pBuffer : List UInt8}

theorem serialCopyWrites_touches (h : s.IndicesOk) (size : UInt32) (i : Nat) :
    (∃ w ∈ serialCopyWrites s size, w.Touches i) ↔ i < min size.toNat s.filled := by
  unfold serialCopyWrites
  split
  case isTrue hz =>
    rcases Bool.or_eq_true_iff.mp hz with he | he
    · simp [h.isBufferEmpty_iff.mp he]
    · simp [eq_of_beq he]
  case isFalse =>
    have hr : (min (bufferFilledCount s.rxBufferReadI s.rxBufferWriteI) size).toNat =
        min size.toNat s.filled := by
      rw [toNat_min, Nat.min_comm]
      rfl
    dsimp only
    generalize min (bufferFilledCount s.rxBufferReadI s.rxBufferWriteI) size = r at hr ⊢
    have hfirst : (min r (256 - s.rxBufferReadI)).toNat ≤ r.toNat := by
      rw [toNat_min]
      exact Nat.min_le_left _ _
    generalize min r (256 - s.rxBufferReadI) = first at hfirst ⊢
    have hrest : (r - first).toNat = r.toNat - first.toNat :=
      UInt32.toNat_sub_of_le r first (UInt32.le_iff_toNat_le.mpr hfirst)
    simp only [List.mem_cons, List.not_mem_nil, or_false, exists_eq_or_imp, exists_eq_left,
      BufferWrite.Touches, hrest]
    omega

def LineScan.buffer : LineScan → List UInt8
  | .empty _ pBuffer => pBuffer
  | .done _ pBuffer _ => pBuffer

theorem serialCopyRxBuffer_frame (h : s.IndicesOk) (hp : size.toNat ≤ pBuffer.length) :
    ∃ r b, serialCopyRxBuffer s pBuffer size = some (r, b) ∧ r.toNat = min size.toNat s.filled ∧
      b.length = pBuffer.length ∧ ∀ k, r.toNat ≤ k → b[k]? = pBuffer[k]? := by
  obtain ⟨r, hr, hcopy⟩ := serialCopyRxBuffer_spec h hp
  have hlen : (s.contents.take r.toNat).length = r.toNat := by
    rw [List.length_take, s.length_contents]
    omega
  have hfits : 0 + (s.contents.take r.toNat).length ≤ pBuffer.length := by omega
  refine ⟨r, _, hcopy, hr, Region.length_splice hfits, ?_⟩
  intro k hk
  rw [Region.getElem?_splice hfits, if_neg (by omega)]

theorem serialScanLine_frame {fuel i : Nat} {scan : LineScan} (h : s.IndicesOk)
    (hp : size.toNat ≤ pBuffer.length)
    (hscan : serialScanLine uart size fuel s pBuffer = some scan)
    (hi : ∀ w ∈ serialScanWrites uart size fuel s pBuffer, ¬ w.Touches i) :
    scan.buffer[i]? = pBuffer[i]? := by
  induction fuel generalizing s pBuffer with
  | zero => simp [serialScanLine] at hscan
  | succ fuel ih =>
    obtain ⟨r, b, hcopy, hr, hplen, hkept⟩ := serialCopyRxBuffer_frame h hp
    rw [serialScanWrites, hcopy] at hi
    obtain ⟨hfirst, hrest⟩ := List.forall_mem_append.mp hi
    have hout : ¬ i < r.toNat := by
      rw [hr, ← serialCopyWrites_touches h]
      rintro ⟨w, hw, htouch⟩
      exact hfirst w hw htouch
    have hsame := hkept i (Nat.le_of_not_lt hout)
    rw [serialScanLine_copied uart hcopy] at hscan
    dsimp only at hrest
    split at hscan
    · cases hscan
      exact hsame
    case isFalse hz =>
    obtain ⟨found, hfound, hscan⟩ := Option.bind_eq_some_iff.mp hscan
    rw [if_neg hz, hfound] at hrest
    unfold serialScanNext at hscan
    split at hscan
    · split at hscan
      case isTrue hnone hmore =>
        have hnone := Bool.and_eq_true_iff.mp hnone
        rw [Option.isNone_iff_eq_none.mp hnone.1] at hrest
        rw [if_pos ⟨rfl, hnone.2⟩, if_pos hmore] at hrest
        have hok := (serialFifoToRxBuffer_spec uart (h.advance 1)).indices
        rw [← hsame]
        exact ih hok (by omega) hscan hrest
      · cases hscan
        exact hsame
    · cases hscan
      exact hsame

theorem serialTakeLine_frame {scan : LineScan} {i : Nat} {r : UInt32} {s' : Serial}
    {pBuffer' : List UInt8} (hi : ∀ w ∈ serialTakeWrites scan, ¬ w.Touches i)
    (h : serialTakeLine scan = some (r, s', pBuffer')) : pBuffer'[i]? = scan.buffer[i]? := by
  cases scan with
  | empty s b =>
    cases h
    rfl
  | done s b found =>
    simp only [serialTakeLine, Option.bind_eq_bind, Option.bind_eq_some_iff, Option.pure_def,
      Option.some.injEq, Prod.mk.injEq] at h
    obtain ⟨b', hwrite, rfl, -, rfl⟩ := h
    obtain ⟨hfits, rfl⟩ := Region.write_eq_some.mp hwrite
    rw [Region.getElem?_splice hfits, if_neg]
    · rfl
    · rw [List.length_replicate]
      exact hi _ (List.mem_singleton.mpr rfl)

theorem serialTryReadLine_frame (h : s.IndicesOk) (hp : size.toNat ≤ pBuffer.length) {i : Nat}
    {r : UInt32} {s' : Serial} {pBuffer' : List UInt8}
    (hread : serialTryReadLine uart s pBuffer size = some (r, s', pBuffer'))
    (hi : ∀ w ∈ serialTryReadLineWrites uart s pBuffer size, ¬ w.Touches i) :
    pBuffer'[i]? = pBuffer[i]? := by
  obtain ⟨scan, hscan, htake⟩ := Option.bind_eq_some_iff.mp hread
  rw [serialTryReadLineWrites, hscan] at hi
  obtain ⟨hscanned, htaken⟩ := List.forall_mem_append.mp hi
  rw [serialTakeLine_frame htaken htake]
  exact serialScanLine_frame uart h hp hscan hscanned

theorem serialScanLine_done {fuel : Nat} {scan : LineScan} (h : s.IndicesOk)
    (hp : size.toNat ≤ pBuffer.length) (hz : s.filled ≠ 0) (hs : size.toNat ≠ 0)
    (hscan : serialScanLine uart size fuel s pBuffer = some scan) :
    ∃ s' b found, scan = .done s' b found := by
  induction fuel generalizing s pBuffer with
  | zero => simp [serialScanLine] at hscan
  | succ fuel ih =>
    obtain ⟨r, b, hcopy, hr, hplen, -⟩ := serialCopyRxBuffer_frame h hp
    have hne : r ≠ 0 := by
      rintro rfl
      rw [UInt32.toNat_zero] at hr
      omega
    rw [serialScanLine_copied uart hcopy, if_neg hne] at hscan
    obtain ⟨found, -, hscan⟩ := Option.bind_eq_some_iff.mp hscan
    cases serialScanNext_cases uart h fuel found with
    | line i _ hresult =>
      rw [hresult] at hscan
      cases hscan
      exact ⟨_, _, _, rfl⟩
    | wait _ _ hresult =>
      rw [hresult] at hscan
      cases hscan
      exact ⟨_, _, _, rfl⟩
    | drop s' _ _ _ _ _ _ hresult =>
      rw [hresult] at hscan
      cases hscan
      exact ⟨_, _, _, rfl⟩
    | next s' byte rest _ _ _ hok hfull' _ _ hresult =>
      rw [hresult] at hscan
      exact ih hok (by omega) (by omega) hscan

theorem serialTryReadLine_cleared (h : s.IndicesOk) (hp : size.toNat ≤ pBuffer.length)
    (hz : s.filled ≠ 0) (hs : size.toNat ≠ 0) {r : UInt32} {s' : Serial} {pBuffer' : List UInt8}
    (hread : serialTryReadLine uart s pBuffer size = some (r, s', pBuffer')) {i : Nat}
    (hfrom : r.toNat ≤ i) (hto : i < r.toNat + (256 - r).toNat) : pBuffer'[i]? = some 0 := by
  obtain ⟨scan, hscan, htake⟩ := Option.bind_eq_some_iff.mp hread
  obtain ⟨s₁, b, found, rfl⟩ := serialScanLine_done uart h hp hz hs hscan
  obtain ⟨b', hwrite, htake⟩ := Option.bind_eq_some_iff.mp htake
  cases htake
  obtain ⟨hfits, rfl⟩ := Region.write_eq_some.mp hwrite
  rw [Region.getElem?_splice hfits, List.length_replicate, if_pos ⟨hfrom, hto⟩]
  exact List.getElem?_replicate_of_lt (by omega)

-- ---------------------------------------------------------------------------
-- The copies stay inside
-- ---------------------------------------------------------------------------

theorem serialScanWrites_lt {fuel : Nat} (h : s.IndicesOk) (hp : size.toNat ≤ pBuffer.length) :
    ∀ w ∈ serialScanWrites uart size fuel s pBuffer, ∀ i, w.Touches i → i < size.toNat := by
  induction fuel generalizing s pBuffer with
  | zero => nofun
  | succ fuel ih =>
    obtain ⟨r, b, hcopy, hr, hplen, -⟩ := serialCopyRxBuffer_frame h hp
    rw [serialScanWrites, hcopy]
    refine List.forall_mem_append.mpr ⟨?_, ?_⟩
    · intro w hw i htouch
      have hi := (serialCopyWrites_touches h size i).mp ⟨w, hw, htouch⟩
      omega
    · dsimp only
      split
      · nofun
      split
      · split
        · have hok := (serialFifoToRxBuffer_spec uart (h.advance 1)).indices
          exact ih hok (by omega)
        · nofun
      · nofun

-- ---------------------------------------------------------------------------
-- Where the search ends
-- ---------------------------------------------------------------------------

theorem strpbrk_found {m : List UInt8} {i : Nat} (h : strpbrk lineEnds m = some (some i)) :
    (m.take i).all plainByte = true ∧ ∃ byte, m[i]? = some byte ∧ plainByte byte = false := by
  induction m generalizing i with
  | nil => cases h
  | cons byte m ih =>
    rw [strpbrk] at h
    split at h
    · cases h
    case isFalse hz =>
    split at h
    case isTrue he =>
      cases h
      exact ⟨rfl, byte, rfl, by simp [plainByte, he]⟩
    case isFalse he =>
      obtain ⟨found, hm, hfound⟩ := Option.map_eq_some_iff.mp h
      obtain ⟨j, rfl, rfl⟩ := Option.map_eq_some_iff.mp hfound
      obtain ⟨hplain, hstop⟩ := ih hm
      refine ⟨?_, hstop⟩
      rw [List.take_succ_cons, List.all_cons, hplain, Bool.and_true]
      exact (plainByte_iff byte).mpr ⟨hz, he⟩

theorem strpbrk_found_le {m : List UInt8} {k : Nat} {stop : UInt8} (hk : m[k]? = some stop)
    (hstop : plainByte stop = false) :
    ∃ found, strpbrk lineEnds m = some found ∧ ∀ j ∈ found, j ≤ k ∧ (stop = 0 → j < k) := by
  induction m generalizing k with
  | nil => cases hk
  | cons byte m ih =>
    rw [strpbrk]
    split
    · exact ⟨none, rfl, by simp⟩
    case isFalse hz =>
    cases k with
    | zero =>
      cases hk
      have he : stop ∈ lineEnds := by
        by_contra he
        rw [(plainByte_iff stop).mpr ⟨hz, he⟩] at hstop
        cases hstop
      refine ⟨some 0, if_pos he, ?_⟩
      intro j hj
      cases hj
      exact ⟨Nat.le_refl _, fun h => absurd h hz⟩
    | succ k =>
      split
      · refine ⟨some 0, rfl, ?_⟩
        intro j hj
        cases hj
        exact ⟨Nat.zero_le _, fun _ => Nat.succ_pos k⟩
      · obtain ⟨found, hm, hle⟩ := ih hk
        refine ⟨found.map (· + 1), by rw [hm]; rfl, ?_⟩
        intro j hj
        obtain ⟨j', hj', rfl⟩ := Option.map_eq_some_iff.mp hj
        have := hle j' hj'
        exact ⟨by omega, fun h => by have := this.2 h; omega⟩

/-- A byte behind the copies that is not plain ends every search of a scan. -/
theorem serialScanLine_stops {fuel k : Nat} {stop : UInt8} (h : s.IndicesOk)
    (hp : size.toNat ≤ pBuffer.length) (hk : min size.toNat 255 ≤ k)
    (hstop : pBuffer[k]? = some stop) (hplain : plainByte stop = false) (hz : s.filled ≠ 0)
    (hs : size.toNat ≠ 0) (hfuel : s.uartFifo.length < fuel) :
    ∃ s' b found, serialScanLine uart size fuel s pBuffer = some (.done s' b found) ∧
      ∀ j ∈ found, j ≤ k ∧ (stop = 0 → j < k) := by
  induction fuel generalizing s pBuffer with
  | zero => exact absurd hfuel (Nat.not_lt_zero _)
  | succ fuel ih =>
    have hle := h.filled_le
    obtain ⟨r, b, hcopy, hr, hplen, hkept⟩ := serialCopyRxBuffer_frame h hp
    have hsame := (hkept k (by omega)).trans hstop
    have hne : r ≠ 0 := by
      rintro rfl
      rw [UInt32.toNat_zero] at hr
      omega
    obtain ⟨found, hsearch, hfound⟩ := strpbrk_found_le hsame hplain
    rw [serialScanLine_copied uart hcopy, if_neg hne, hsearch, Option.bind_some]
    cases serialScanNext_cases uart h fuel found with
    | line i hline hresult =>
      rw [hresult, ← hline]
      exact ⟨s, b, found, rfl, hfound⟩
    | wait hnone _ hresult =>
      rw [hresult, ← hnone]
      exact ⟨s, b, found, rfl, hfound⟩
    | drop s' hnone _ _ _ _ _ hresult =>
      rw [hresult, ← hnone]
      exact ⟨s', b, found, rfl, hfound⟩
    | next s' byte rest _ _ hfifo hok hfull' _ hleft hresult =>
      rw [hresult]
      refine ih hok (by omega) hsame (by omega) ?_
      rw [hfifo, List.length_cons] at hfuel
      rw [hleft]
      omega

theorem serialScanLine_found {fuel i : Nat} {s' : Serial} {b : List UInt8} (h : s.IndicesOk)
    (hsize : 256 ≤ size.toNat) (hp : size.toNat ≤ pBuffer.length)
    (hscan : serialScanLine uart size fuel s pBuffer = some (.done s' b (some i))) :
    s'.filled = s.filled ∧ b.drop s.filled = pBuffer.drop s.filled ∧
      strpbrk lineEnds b = some (some i) := by
  induction fuel generalizing s pBuffer with
  | zero => simp [serialScanLine] at hscan
  | succ fuel ih =>
    have hle := h.filled_le
    by_cases hz : s.filled = 0
    · rw [serialScanLine_empty uart h hp hz] at hscan
      cases hscan
    rw [serialScanLine_round uart h hsize hp hz] at hscan
    obtain ⟨found, hfound, hscan⟩ := Option.bind_eq_some_iff.mp hscan
    cases serialScanNext_cases uart h fuel found with
    | line i' hline hresult =>
      rw [hresult] at hscan
      cases hscan
      exact ⟨rfl, drop_copied s' pBuffer, hfound.trans (congrArg some hline)⟩
    | wait _ _ hresult =>
      rw [hresult] at hscan
      cases hscan
    | drop _ _ _ _ _ _ _ hresult =>
      rw [hresult] at hscan
      cases hscan
    | next s₁ byte rest _ hf _ hok hf' _ _ hresult =>
      rw [hresult] at hscan
      obtain ⟨hfilled, hdrop, hsearch⟩ := ih hok (by rwa [Serial.length_copied (by omega)]) hscan
      rw [hf'] at hfilled hdrop
      rw [hf]
      refine ⟨hfilled, ?_, hsearch⟩
      rw [hdrop, ← hf, drop_copied]

end

-- ---------------------------------------------------------------------------
-- The property and its condition
-- ---------------------------------------------------------------------------

/-- Whatever lies behind the caller's buffer, the call writes to the buffer
alone, and the length of its clearing does not underflow. -/
def StaysInside (uart : AppUart) (s : Serial) (p : CallerBuffer) : Prop :=
  ∀ behind : List UInt8, (p.bytes ++ behind).length < UInt32.size →
    (∀ w ∈ serialTryReadLineWrites uart s (p.bytes ++ behind) p.size,
      ∀ i, w.Touches i → i < p.size.toNat) ∧
    ∀ scan ∈ serialScanLine uart p.size (s.uartFifo.length + 1) s (p.bytes ++ behind),
      (lineSize scan.found).toNat ≤ 256

/-- The search leaves the received bytes, comes to byte 256, and meets a line
end before a NUL from there on, in the buffer or in what may lie behind it. -/
def SearchOverruns (s : Serial) (p : CallerBuffer) : Prop :=
  s.filled ≠ 0 ∧
    PlainWindow s.filled (if s.filled = 255 then s.uartFifo.length else 0)
      (s.contents ++ s.uartFifo) ∧
    ((p.bytes.drop s.filled).take (256 - s.filled)).all plainByte = true ∧
    ∃ behind, (p.bytes ++ behind).length < UInt32.size ∧
      ∃ i, strpbrk lineEnds (p.bytes.drop 256 ++ behind) = some (some i)

section
variable (uart : AppUart) {s : Serial} {p : CallerBuffer} {behind : List UInt8}

theorem length_memory (p : CallerBuffer) (behind : List UInt8) :
    p.size.toNat ≤ (p.bytes ++ behind).length := by
  rw [List.length_append, p.length_eq]
  exact Nat.le_add_right _ _

theorem drop_memory (p : CallerBuffer) (behind : List UInt8) (hle : s.filled ≤ 256)
    (hsize : 256 ≤ p.size.toNat) :
    (p.bytes ++ behind).drop s.filled =
      (p.bytes.drop s.filled).take (256 - s.filled) ++ (p.bytes.drop 256 ++ behind) := by
  have hlen := p.length_eq
  have hsplit := List.take_append_drop (256 - s.filled) (p.bytes.drop s.filled)
  rw [List.drop_drop, show s.filled + (256 - s.filled) = 256 by omega] at hsplit
  rw [List.drop_append_of_le_length (by omega), ← List.append_assoc, hsplit]

theorem serialTryReadLineWrites_lt (h : s.IndicesOk)
    (hclear : ∀ scan ∈ serialScanLine uart p.size (s.uartFifo.length + 1) s (p.bytes ++ behind),
      ∀ w ∈ serialTakeWrites scan, ∀ i, w.Touches i → i < p.size.toNat) :
    ∀ w ∈ serialTryReadLineWrites uart s (p.bytes ++ behind) p.size,
      ∀ i, w.Touches i → i < p.size.toNat := by
  have hp := length_memory p behind
  refine List.forall_mem_append.mpr ⟨serialScanWrites_lt uart h hp, ?_⟩
  cases hscan : serialScanLine uart p.size (s.uartFifo.length + 1) s (p.bytes ++ behind) with
  | none => nofun
  | some scan => exact hclear scan hscan

theorem SearchOverruns.of_found {s' : Serial} {b : List UInt8} {i : Nat} (h : s.IndicesOk)
    (hsize : 256 ≤ p.size.toNat) (hlen : (p.bytes ++ behind).length < UInt32.size)
    (hscan : serialScanLine uart p.size (s.uartFifo.length + 1) s (p.bytes ++ behind) =
      some (.done s' b (some i))) (hi : 256 ≤ i) : SearchOverruns s p := by
  have hle := h.filled_le
  have hp := length_memory p behind
  obtain ⟨hfilled, hdrop, hsearch⟩ := serialScanLine_found uart h hsize hp hscan
  obtain ⟨hz, -, hwindow⟩ : StaleLine s (p.bytes ++ behind) := by
    rcases serialScanLine_decides uart h hsize hp rfl (Nat.lt_succ_self _) with
      ⟨hstale, -⟩ | ⟨-, scan, hscan', hstays⟩
    · exact hstale
    · cases hscan.symm.trans hscan'
      have hlt := (hstays.2.2 i rfl).1
      omega
  have hb : b.take s.filled ++ ((p.bytes.drop s.filled).take (256 - s.filled) ++
      (p.bytes.drop 256 ++ behind)) = b := by
    rw [← drop_memory p behind (by omega) hsize, ← hdrop, List.take_append_drop]
  have hblen := strpbrk_lt hsearch
  have hplen := p.length_eq
  have hfront : b.take 256 =
      b.take s.filled ++ (p.bytes.drop s.filled).take (256 - s.filled) := by
    conv_lhs => rw [← hb, ← List.append_assoc]
    refine List.take_left' ?_
    simp only [List.length_append, List.length_take, List.length_drop]
    omega
  -- The plain bytes before the line end reach up to byte 256.
  have hplain : (b.take 256).all plainByte = true := by
    obtain ⟨hplain, -⟩ := strpbrk_found hsearch
    refine List.all_eq_true.mpr fun byte hbyte => List.all_eq_true.mp hplain byte ?_
    rw [← Nat.min_eq_left hi, ← List.take_take] at hbyte
    exact List.mem_of_mem_take hbyte
  have hstale : ((p.bytes.drop s.filled).take (256 - s.filled)).all plainByte = true := by
    rw [hfront, List.all_append, Bool.and_eq_true] at hplain
    exact hplain.2
  refine ⟨hz, hwindow, hstale, behind, hlen, i - 256, ?_⟩
  rw [← hb, ← List.append_assoc, ← hfront, strpbrk_plain hplain, List.length_take,
    Nat.min_eq_left (by omega)] at hsearch
  obtain ⟨found, hfound, hsome⟩ := Option.map_eq_some_iff.mp hsearch
  obtain ⟨j, rfl, rfl⟩ := Option.map_eq_some_iff.mp hsome
  rw [hfound, Nat.add_sub_cancel]

theorem not_staysInside_small (h : s.IndicesOk) (hz : s.filled ≠ 0) (hs : p.size.toNat ≠ 0)
    (hsmall : p.size.toNat < 256) : ¬ StaysInside uart s p := by
  intro hinside
  have hlen : (p.bytes ++ [0]).length < UInt32.size := by
    rw [List.length_append, p.length_eq, List.length_singleton, UInt32.size]
    omega
  have hstop : (p.bytes ++ [(0 : UInt8)])[p.size.toNat]? = some 0 := by
    rw [← p.length_eq]
    simp
  obtain ⟨s', b, found, hscan, hfound⟩ := serialScanLine_stops uart h (length_memory p [0])
    (Nat.min_le_left _ _) hstop rfl hz hs (Nat.lt_succ_self _)
  have hline : (lineSize found).toNat ≤ p.size.toNat := by
    cases found with
    | none => exact Nat.zero_le _
    | some j =>
      have hj := (hfound j rfl).2 rfl
      rw [toNat_lineSize (by omega)]
      omega
  have hclear : (256 - lineSize found).toNat = 256 - (lineSize found).toNat := by
    have hle : lineSize found ≤ 256 := by
      rw [UInt32.le_iff_toNat_le]
      exact hline.trans hsmall.le
    rw [UInt32.toNat_sub_of_le _ _ hle]
    rfl
  have hmem : ⟨(lineSize found).toNat, (256 - lineSize found).toNat⟩ ∈
      serialTryReadLineWrites uart s (p.bytes ++ [0]) p.size := by
    rw [serialTryReadLineWrites, hscan]
    exact List.mem_append_right _ (List.mem_singleton.mpr rfl)
  have htouch := (hinside [0] hlen).1 _ hmem 255 ⟨by dsimp only; omega, by dsimp only; omega⟩
  omega

theorem not_staysInside_overruns (h : s.IndicesOk) (hsize : 256 ≤ p.size.toNat)
    (hover : SearchOverruns s p) : ¬ StaysInside uart s p := by
  intro hinside
  have hle := h.filled_le
  obtain ⟨hz, hwindow, hplain, behind, hlen, i, hi⟩ := hover
  have hp := length_memory p behind
  have hlong : 256 ≤ p.bytes.length := by rwa [p.length_eq]
  -- From the end of the received bytes the search runs to byte `256 + i`.
  have hstale := drop_memory p behind (show s.filled ≤ 256 by omega) hsize
  have hsearch : strpbrk lineEnds ((p.bytes ++ behind).drop s.filled) =
      some (some (i + (256 - s.filled))) := by
    rw [hstale, strpbrk_plain hplain, hi, List.length_take, List.length_drop,
      Nat.min_eq_left (by omega)]
    rfl
  have hleaves : StaleLine s (p.bytes ++ behind) := ⟨hz, by rw [hsearch]; simp, hwindow⟩
  obtain ⟨-, stop, hstop, hends⟩ := strpbrk_found hsearch
  rw [List.getElem?_drop] at hstop
  obtain ⟨s', b, found, hscan, -⟩ := serialScanLine_stops uart h hp (by omega) hstop hends hz
    (by omega) (Nat.lt_succ_self _)
  rcases serialScanLine_decides uart h hsize hp rfl (Nat.lt_succ_self _) with
    ⟨-, hleaves⟩ | ⟨hstays, -⟩
  · obtain ⟨hblen, j, rfl, hj, hjlt⟩ := hleaves _ hscan
    obtain ⟨hfilled, hdrop, hfound⟩ := serialScanLine_found uart h hsize hp hscan
    -- The line end lies behind byte 256, since the bytes before it are plain.
    have hge : 256 ≤ j := by
      by_contra hlt
      obtain ⟨-, byte, hbyte, hend⟩ := strpbrk_found hfound
      have hin : byte ∈ (p.bytes.drop s.filled).take (256 - s.filled) := by
        rw [show j = s.filled + (j - s.filled) by omega, ← List.getElem?_drop, hdrop, hstale,
          List.getElem?_append_left (by simp only [List.length_take, List.length_drop]; omega)]
          at hbyte
        exact List.mem_of_getElem? hbyte
      have hplain := List.all_eq_true.mp hplain byte hin
      rw [hend] at hplain
      cases hplain
    have hbound := (hinside behind hlen).2 _ hscan
    rw [UInt32.size] at hlen
    simp only [LineScan.found, lineSize, UInt32.toNat_add, UInt32.toNat_ofNat',
      UInt32.toNat_one] at hbound
    omega
  · exact hstays hleaves

theorem staysInside_idle (h : s.IndicesOk) (hidle : s.filled = 0 ∨ p.size = 0) :
    StaysInside uart s p := by
  intro behind hlen
  have hscan : serialScanLine uart p.size (s.uartFifo.length + 1) s (p.bytes ++ behind) =
      some (.empty s (p.bytes ++ behind)) := by
    obtain ⟨r, hr, hcopy⟩ := serialCopyRxBuffer_spec h (length_memory p behind)
    have hr : r = 0 := by
      rw [← UInt32.toNat_inj, hr]
      rcases hidle with hz | hz <;> simp [hz]
    subst hr
    rw [serialScanLine_copied uart hcopy, if_pos rfl, UInt32.toNat_zero, List.take_zero,
      Region.splice_zero, List.length_nil, List.drop_zero, List.nil_append]
  rw [hscan]
  refine ⟨serialTryReadLineWrites_lt uart h ?_, ?_⟩
  · rw [hscan]
    rintro _ ⟨⟩
    nofun
  · rintro _ ⟨⟩
    exact Nat.zero_le _

/-- With room for the whole ring the clearing ends where the buffer does, unless
the search left the first 256 bytes. -/
theorem staysInside_fits (h : s.IndicesOk) (hsize : 256 ≤ p.size.toNat)
    (hover : ¬ SearchOverruns s p) : StaysInside uart s p := by
  intro behind hlen
  have hline : ∀ scan ∈ serialScanLine uart p.size (s.uartFifo.length + 1) s (p.bytes ++ behind),
      (lineSize scan.found).toNat ≤ 256 := by
    rintro (⟨s', b⟩ | ⟨s', b, found⟩) hscan
    · exact Nat.zero_le _
    cases found with
    | none => exact Nat.zero_le _
    | some i =>
      have hi : i < 256 := by
        by_contra hi
        exact hover (.of_found uart h hsize hlen hscan (Nat.le_of_not_lt hi))
      rw [LineScan.found, toNat_lineSize hi]
      exact hi
  refine ⟨serialTryReadLineWrites_lt uart h ?_, hline⟩
  rintro (⟨s', b⟩ | ⟨s', b, found⟩) hscan
  · simp [serialTakeWrites]
  have hbound : (lineSize found).toNat ≤ 256 := hline _ hscan
  have hle : lineSize found ≤ 256 := UInt32.le_iff_toNat_le.mpr hbound
  simp only [serialTakeWrites, List.mem_singleton, forall_eq, BufferWrite.Touches,
    UInt32.toNat_sub_of_le _ _ hle, UInt32.reduceToNat]
  omega

end

/-- A line read stays inside the caller's buffer exactly when it has nothing to
write, or the buffer has 256 bytes and the search does not leave them. What no
write touches keeps its value, and what the last one touches is cleared. -/
theorem serialTryReadLine_inside_iff (uart : AppUart) (s : Serial) (h : s.Reachable uart)
    (p : CallerBuffer) :
    (StaysInside uart s p ↔
      s.filled = 0 ∨ p.size = 0 ∨ (256 ≤ p.size.toNat ∧ ¬ SearchOverruns s p)) ∧
    ∀ behind r s' pBuffer',
      serialTryReadLine uart s (p.bytes ++ behind) p.size = some (r, s', pBuffer') →
      (∀ i, (∀ w ∈ serialTryReadLineWrites uart s (p.bytes ++ behind) p.size, ¬ w.Touches i) →
        pBuffer'[i]? = (p.bytes ++ behind)[i]?) ∧
      (s.filled ≠ 0 → p.size ≠ 0 →
        ∀ i, r.toNat ≤ i → i < r.toNat + (256 - r).toNat → pBuffer'[i]? = some 0) := by
  have h := h.indicesOk
  refine ⟨⟨?_, ?_⟩, fun behind r s' pBuffer' hread => ⟨fun i hi => ?_, ?_⟩⟩
  · intro hinside
    by_cases hz : s.filled = 0
    · exact .inl hz
    by_cases hs : p.size = 0
    · exact .inr (.inl hs)
    have hs : p.size.toNat ≠ 0 := fun hzero => hs (UInt32.toNat_inj.mp hzero)
    by_cases hsize : 256 ≤ p.size.toNat
    · refine .inr (.inr ⟨hsize, ?_⟩)
      intro hover
      exact not_staysInside_overruns uart h hsize hover hinside
    · exact absurd hinside (not_staysInside_small uart h hz hs (Nat.lt_of_not_le hsize))
  · rintro (hz | hs | ⟨hsize, hover⟩)
    · exact staysInside_idle uart h (.inl hz)
    · exact staysInside_idle uart h (.inr hs)
    · exact staysInside_fits uart h hsize hover
  · exact serialTryReadLine_frame uart h (length_memory p behind) hread hi
  · intro hz hs i
    have hs : p.size.toNat ≠ 0 := fun hzero => hs (UInt32.toNat_inj.mp hzero)
    exact serialTryReadLine_cleared uart h (length_memory p behind) hz hs hread

/-- A NUL in the cleared buffer ends the search right behind the line. -/
theorem serialTryReadLine_inside_ok : StaysInside .fifo lineReceived clearedBuffer := by
  refine (serialTryReadLine_inside_iff .fifo lineReceived lineReceived_reachable
    clearedBuffer).1.mpr (.inr (.inr ⟨by decide, ?_⟩))
  rintro ⟨-, -, hplain, -⟩
  have hzero : ((clearedBuffer.bytes.drop lineReceived.filled).take
      (256 - lineReceived.filled)).all plainByte = false := by decide +kernel
  rw [hzero] at hplain
  cases hplain

def smallBuffer : CallerBuffer where
  bytes := List.replicate 16 0
  size := 16
  length_eq := rfl

/-- The line fits, and the clearing behind it runs up to byte 255. -/
theorem serialTryReadLine_inside_small :
    lineReceived.Reachable .fifo ∧
      (∃ s' pBuffer', serialTryReadLine .fifo lineReceived
          (smallBuffer.bytes ++ List.replicate 240 0xFF) smallBuffer.size = some (3, s', pBuffer') ∧
        pBuffer'[255]? = some 0) ∧
      ¬ StaysInside .fifo lineReceived smallBuffer := by
  have hresult : (serialTryReadLine .fifo lineReceived
      (smallBuffer.bytes ++ List.replicate 240 0xFF) smallBuffer.size).map
        (fun result => (result.1, result.2.2[255]?)) = some (3, some 0) := by decide +kernel
  have hwrite : ⟨3, 253⟩ ∈ serialTryReadLineWrites .fifo lineReceived
      (smallBuffer.bytes ++ List.replicate 240 0xFF) smallBuffer.size := by decide +kernel
  refine ⟨lineReceived_reachable, ?_, ?_⟩
  · obtain ⟨⟨r, s', pBuffer'⟩, hread, heq⟩ := Option.map_eq_some_iff.mp hresult
    obtain ⟨rfl, hcleared⟩ := Prod.mk.inj heq
    exact ⟨s', pBuffer', hread, hcleared⟩
  · intro hinside
    have hlt := (hinside (List.replicate 240 0xFF) (by decide +kernel)).1 _ hwrite 255
      ⟨by decide, by decide⟩
    revert hlt
    decide

end WaterBall
