import Mathlib.Data.List.TakeWhile
import WaterBall.Serial.StaleLines

/-!
# What a line read hands out

On a cleared buffer the search sees the ring's bytes and a NUL behind them.
Without a NUL among the received bytes a line read is then the function
`readLine` of the ring and the FIFO, overflow included. A NUL that was
received hides every line end behind it.
-/

namespace WaterBall

open Support

/-- The place of the first CR or LF. -/
def firstLineEnd (bytes : List UInt8) : Option Nat := bytes.findIdx? (lineEnds.contains ·)

theorem firstLineEnd_cons (byte : UInt8) (bytes : List UInt8) :
    firstLineEnd (byte :: bytes) =
      if byte ∈ lineEnds then some 0 else (firstLineEnd bytes).map (· + 1) := by
  simp [firstLineEnd, List.findIdx?_cons]

theorem firstLineEnd_append (q m : List UInt8) :
    firstLineEnd (q ++ m) = (firstLineEnd q).or ((firstLineEnd m).map (· + q.length)) := by
  simp [firstLineEnd, List.findIdx?_append]

theorem firstLineEnd_lt {q : List UInt8} (h : firstLineEnd q = some i) : i < q.length := by
  induction q generalizing i with
  | nil => cases h
  | cons byte q ih =>
    rw [firstLineEnd_cons] at h
    split at h
    · cases h
      exact Nat.succ_pos _
    · obtain ⟨j, hj, rfl⟩ := Option.map_eq_some_iff.mp h
      exact Nat.succ_lt_succ (ih hj)

/-- The search over received bytes with a NUL behind them. -/
theorem strpbrk_nul (q m : List UInt8) :
    strpbrk lineEnds (q ++ 0 :: m) = some (firstLineEnd (q.takeWhile (· != 0))) := by
  induction q with
  | nil => rfl
  | cons byte q ih =>
    rw [List.cons_append, strpbrk]
    split
    case isTrue hz => simp [hz, firstLineEnd]
    case isFalse hz =>
      rw [List.takeWhile_cons_of_pos (by simpa using hz), firstLineEnd_cons]
      split
      · rfl
      · rw [ih]
        rfl

theorem takeWhile_no_nul {q : List UInt8} (hq : 0 ∉ q) : q.takeWhile (· != 0) = q := by
  refine List.takeWhile_eq_self_iff.mpr ?_
  intro byte hbyte
  exact bne_iff_ne.mpr fun hz => hq (hz ▸ hbyte)

theorem firstLineEnd_moved {q : List UInt8} (h : firstLineEnd q = some (i + 1)) (byte : UInt8) :
    firstLineEnd (q.drop 1 ++ [byte]) = some i := by
  cases q with
  | nil => cases h
  | cons first tail =>
    rw [firstLineEnd_cons] at h
    split at h
    · cases h
    · obtain ⟨j, hj, heq⟩ := Option.map_eq_some_iff.mp h
      cases heq
      rw [List.drop_succ_cons, List.drop_zero, firstLineEnd_append, hj]
      rfl

/-- A NUL before the first line end hides it, another one does not. -/
theorem firstLineEnd_takeWhile {q : List UInt8} (h : firstLineEnd q = some i) :
    firstLineEnd (q.takeWhile (· != 0)) = if 0 ∈ q.take i then none else some i := by
  induction q generalizing i with
  | nil => cases h
  | cons byte q ih =>
    rw [firstLineEnd_cons] at h
    split at h
    case isTrue he =>
      cases h
      have hz : byte ≠ 0 := by
        rintro rfl
        exact absurd he (by decide)
      rw [List.takeWhile_cons_of_pos (by simpa using hz), firstLineEnd_cons, if_pos he]
      simp
    case isFalse he =>
      obtain ⟨j, hj, rfl⟩ := Option.map_eq_some_iff.mp h
      by_cases hz : byte = 0
      · simp [hz, firstLineEnd]
      · rw [List.takeWhile_cons_of_pos (by simpa using hz), firstLineEnd_cons, if_neg he, ih hj]
        simp only [List.take_succ_cons, List.mem_cons, Ne.symm hz, false_or]
        split <;> rfl

-- ---------------------------------------------------------------------------
-- The line read as a function
-- ---------------------------------------------------------------------------

/-- The line, and what is left in the ring and in the FIFO. -/
structure LineRead where
  line : List UInt8
  ring : List UInt8
  fifo : List UInt8
  deriving DecidableEq

/-- The first line of the ring. A full ring without one moves on over the FIFO
until it ends in a line end, or to the last 254 bytes. -/
def readLine (q f : List UInt8) : LineRead :=
  match firstLineEnd q with
  | some i => ⟨q.take (i + 1), q.drop (i + 1), f⟩
  | none =>
    if q.length < 255 then ⟨[], q, f⟩
    else match firstLineEnd f with
      | some k => ⟨((q ++ f).drop (k + 1)).take 255, [], f.drop (k + 1)⟩
      | none => ⟨[], (q ++ f).drop ((q ++ f).length - 254), []⟩

theorem readLine_next {q : List UInt8} (hq : q.length = 255) (hnone : firstLineEnd q = none)
    (byte : UInt8) (rest : List UInt8) :
    readLine q (byte :: rest) = readLine (q.drop 1 ++ [byte]) rest := by
  obtain ⟨first, tail, rfl⟩ : ∃ first tail, q = first :: tail :=
    List.exists_cons_of_length_pos (by omega)
  have htail : tail.length = 254 := by simpa using hq
  have hrest : firstLineEnd tail = none := by
    rw [firstLineEnd_cons] at hnone
    split at hnone
    · cases hnone
    · exact Option.map_eq_none_iff.mp hnone
  simp only [readLine, hnone, List.drop_succ_cons, List.drop_zero, firstLineEnd_append, hrest,
    firstLineEnd_cons, List.length_append, List.length_cons, List.length_nil, htail]
  by_cases he : byte ∈ lineEnds
  · have hwindow : tail ++ byte :: rest = (tail ++ [byte]) ++ rest := by simp
    have hlen : (tail ++ [byte]).length = 255 := by simp [htail]
    simp [he, htail]
    rw [hwindow, List.take_left' hlen, List.take_of_length_le (Nat.le_of_eq hlen)]
  · cases hf : firstLineEnd rest with
    | none =>
      have hdrop : 255 + (rest.length + 1) - 254 = (255 + rest.length - 254) + 1 := by omega
      simp [he, firstLineEnd, hdrop]
    | some k => simp [he, firstLineEnd]

-- ---------------------------------------------------------------------------
-- Scans of a cleared buffer
-- ---------------------------------------------------------------------------

section
variable (uart : AppUart) {s : Serial} {size : UInt32} {pBuffer : List UInt8} {scan : LineScan}

theorem strpbrk_copied (hnul : pBuffer[s.filled]? = some 0) :
    strpbrk lineEnds (s.copied pBuffer) =
      some (firstLineEnd (s.contents.takeWhile (· != 0))) := by
  obtain ⟨hlt, heq⟩ := List.getElem?_eq_some_iff.mp hnul
  rw [Serial.copied, List.drop_eq_getElem_cons hlt, heq, strpbrk_nul]

theorem copied_nul (hf : s.filled = 255) (hnul : pBuffer[s.filled]? = some 0) :
    (s.copied pBuffer)[255]? = some 0 := by
  rw [Serial.copied, List.getElem?_append_right (by simp [hf]), List.getElem?_drop]
  simpa [hf] using hnul

/-- How a scan of a cleared buffer goes on after its first search. -/
inductive ScanRound (uart : AppUart) (size : UInt32) (fuel : Nat) (s : Serial)
    (pBuffer : List UInt8) (scan : LineScan) : Prop
  | empty (hempty : s.contents = []) (hscan : scan = .empty s pBuffer)
  | line (i : Nat) (hfound : firstLineEnd (s.contents.takeWhile (· != 0)) = some i)
      (hscan : scan = .done s (s.copied pBuffer) (some i))
  | wait (hnone : firstLineEnd (s.contents.takeWhile (· != 0)) = none) (hroom : s.filled < 255)
      (hscan : scan = .done s (s.copied pBuffer) none)
  | drop (s' : Serial) (hnone : firstLineEnd (s.contents.takeWhile (· != 0)) = none)
      (hfull : s.filled = 255) (hfifo : s.uartFifo = []) (hok : s'.IndicesOk)
      (hcontents : s'.contents = s.contents.drop 1) (hleft : s'.uartFifo = [])
      (hscan : scan = .done s' (s.copied pBuffer) none)
  | next (fuel' : Nat) (s' : Serial) (byte : UInt8) (rest : List UInt8)
      (hnone : firstLineEnd (s.contents.takeWhile (· != 0)) = none) (hfull : s.filled = 255)
      (hfifo : s.uartFifo = byte :: rest) (hok : s'.IndicesOk) (hfull' : s'.filled = 255)
      (hcontents : s'.contents = s.contents.drop 1 ++ [byte]) (hleft : s'.uartFifo = rest)
      (hfuel : fuel = fuel' + 1)
      (hscan : serialScanLine uart size fuel' s' (s.copied pBuffer) = some scan)

theorem serialScanLine_cleared {fuel : Nat} (h : s.IndicesOk) (hsize : 256 ≤ size.toNat)
    (hp : size.toNat ≤ pBuffer.length) (hnul : pBuffer[s.filled]? = some 0)
    (hscan : serialScanLine uart size fuel s pBuffer = some scan) :
    ScanRound uart size fuel s pBuffer scan := by
  cases fuel with
  | zero => simp [serialScanLine] at hscan
  | succ fuel =>
    by_cases hz : s.filled = 0
    · rw [serialScanLine_empty uart h hp hz] at hscan
      exact .empty (List.length_eq_zero_iff.mp (by simp [hz])) (Option.some.inj hscan).symm
    rw [serialScanLine_round uart h hsize hp hz, strpbrk_copied hnul, Option.bind_some] at hscan
    have hle := h.filled_le
    cases serialScanNext_cases uart h fuel (firstLineEnd (s.contents.takeWhile (· != 0))) with
    | line i hfound hresult =>
      rw [hresult] at hscan
      exact .line i hfound (Option.some.inj hscan).symm
    | wait hnone hroom hresult =>
      rw [hresult] at hscan
      exact .wait hnone (by omega) (Option.some.inj hscan).symm
    | drop s' hnone hfull hfifo hok hcontents hleft hresult =>
      rw [hresult] at hscan
      exact .drop s' hnone hfull hfifo hok hcontents hleft (Option.some.inj hscan).symm
    | next s' byte rest hnone hfull hfifo hok hfull' hcontents hleft hresult =>
      rw [hresult] at hscan
      exact .next fuel s' byte rest hnone hfull hfifo hok hfull' hcontents hleft rfl hscan

/-- Without a NUL among the received bytes a scan comes to the line of `readLine`. -/
theorem serialScanLine_reads {fuel : Nat} (h : s.IndicesOk) (hsize : 256 ≤ size.toNat)
    (hp : size.toNat ≤ pBuffer.length) (hnul : pBuffer[s.filled]? = some 0)
    (hplain : 0 ∉ s.contents ++ s.uartFifo)
    (hscan : serialScanLine uart size fuel s pBuffer = some scan) :
    readLine s.contents s.uartFifo =
      ⟨scan.serial.contents.take (lineSize scan.found).toNat,
        scan.serial.contents.drop (lineSize scan.found).toNat, scan.serial.uartFifo⟩ := by
  induction fuel generalizing s pBuffer with
  | zero => simp [serialScanLine] at hscan
  | succ fuel ih =>
    have hle := h.filled_le
    have hq := takeWhile_no_nul fun hmem => hplain (List.mem_append_left _ hmem)
    cases serialScanLine_cleared uart h hsize hp hnul hscan with
    | empty hempty hscan =>
      subst hscan
      simp [readLine, hempty, firstLineEnd, LineScan.serial, LineScan.found, lineSize]
    | line i hfound hscan =>
      subst hscan
      rw [hq] at hfound
      have hi := firstLineEnd_lt hfound
      rw [s.length_contents] at hi
      simp [readLine, hfound, LineScan.serial, LineScan.found,
        toNat_lineSize (show i < 256 by omega)]
    | wait hnone hroom hscan =>
      subst hscan
      rw [hq] at hnone
      simp [readLine, hnone, hroom, LineScan.serial, LineScan.found, lineSize]
    | drop s' hnone hfull hfifo _ hcontents hleft hscan =>
      subst hscan
      rw [hq] at hnone
      have hfifo' : firstLineEnd ([] : List UInt8) = none := rfl
      simp [readLine, hnone, hfull, hfifo, hfifo', hcontents, hleft, LineScan.serial,
        LineScan.found, lineSize]
    | next fuel' s' byte rest hnone hfull hfifo hok hfull' hcontents hleft hfuel hscan =>
      cases hfuel
      rw [hq] at hnone
      have hlen := s.length_contents
      rw [hfull] at hlen
      rw [hfifo, readLine_next hlen hnone, ← hcontents, ← hleft]
      refine ih hok ?_ ?_ ?_ hscan
      · rwa [Serial.length_copied (by omega)]
      · rw [hfull']
        exact copied_nul hfull hnul
      · have hmoved : s'.contents ++ s'.uartFifo = (s.contents ++ s.uartFifo).drop 1 := by
          rw [hcontents, hleft, hfifo, List.append_assoc,
            List.drop_append_of_le_length (by rw [hlen]; decide)]
          rfl
        rw [hmoved]
        exact fun hmem => hplain (List.mem_of_mem_drop hmem)

theorem serialScanLine_untouched {fuel : Nat} (h : s.IndicesOk) (hsize : 256 ≤ size.toNat)
    (hp : size.toNat ≤ pBuffer.length) (hnul : pBuffer[s.filled]? = some 0)
    (hscan : serialScanLine uart size fuel s pBuffer = some (.empty s' pBuffer')) :
    pBuffer' = pBuffer ∧ s.contents = [] := by
  induction fuel generalizing s pBuffer with
  | zero => simp [serialScanLine] at hscan
  | succ fuel ih =>
    have hle := h.filled_le
    cases serialScanLine_cleared uart h hsize hp hnul hscan with
    | empty hempty hscan =>
      cases hscan
      exact ⟨rfl, hempty⟩
    | line _ _ hscan => cases hscan
    | wait _ _ hscan => cases hscan
    | drop _ _ _ _ _ _ _ hscan => cases hscan
    | next fuel' s₁ byte rest hnone hfull hfifo hok hfull' hcontents hleft hfuel hscan =>
      cases hfuel
      have hempty := (ih hok (by rwa [Serial.length_copied (by omega)])
        (by rw [hfull']; exact copied_nul hfull hnul) hscan).2
      rw [hcontents] at hempty
      simp at hempty

end

theorem serialTakeLine_clears {scan : LineScan} {r : UInt32} {s' : Serial} {pBuffer' : List UInt8}
    (hr : r.toNat ≤ 256) (hzero : ∀ s b, scan = .empty s b → b.take 256 = List.replicate 256 0)
    (h : serialTakeLine scan = some (r, s', pBuffer')) :
    Region.slice pBuffer' r.toNat (256 - r.toNat) = List.replicate (256 - r.toNat) 0 := by
  cases scan with
  | empty s b =>
    cases h
    exact hzero s' pBuffer' rfl
  | done s b found =>
    simp only [serialTakeLine, Option.bind_eq_bind, Option.bind_eq_some_iff, Option.pure_def,
      Option.some.injEq, Prod.mk.injEq] at h
    obtain ⟨b', hwrite, rfl, -, rfl⟩ := h
    obtain ⟨hfits, rfl⟩ := Region.write_eq_some.mp hwrite
    have hsame := Region.slice_splice_same hfits
    have hzeros : (256 - lineSize found).toNat = 256 - (lineSize found).toNat := by
      simp only [UInt32.toNat_sub, UInt32.reduceToNat]
      omega
    rw [List.length_replicate, hzeros] at hsame
    rwa [hzeros]

-- ---------------------------------------------------------------------------
-- Line reads
-- ---------------------------------------------------------------------------

/-- A buffer whose first 256 bytes are zero. -/
def CallerBuffer.Cleared (p : CallerBuffer) : Prop := p.bytes.take 256 = List.replicate 256 0

theorem CallerBuffer.Cleared.nul {p : CallerBuffer} (hp : p.Cleared) {i : Nat} (hi : i < 256) :
    p.bytes[i]? = some 0 := by
  have htake := List.getElem?_take_of_lt (l := p.bytes) hi
  rw [← htake, hp, List.getElem?_replicate_of_lt hi]

theorem serialTryReadLine_returns (uart : AppUart) {s : Serial} (h : s.IndicesOk)
    {p : CallerBuffer} (hsize : 256 ≤ p.size.toNat) (hp : p.Cleared) :
    ∃ scan pBuffer',
      serialScanLine uart p.size (s.uartFifo.length + 1) s p.bytes = some scan ∧
      serialTryReadLine uart s p.bytes p.size =
        some (lineSize scan.found, scan.serial.advance (lineSize scan.found), pBuffer') ∧
      scan.serial.IndicesOk ∧ (lineSize scan.found).toNat ≤ scan.serial.filled ∧
      pBuffer'.take (lineSize scan.found).toNat =
        scan.serial.contents.take (lineSize scan.found).toNat ∧
      serialTakeLine scan =
        some (lineSize scan.found, scan.serial.advance (lineSize scan.found), pBuffer') := by
  have hle := h.filled_le
  have hfresh := not_staleLine_of_nul (hp.nul (show s.filled < 256 by omega))
  rcases serialScanLine_decides uart h hsize (Nat.le_refl _) p.length_eq
    (Nat.lt_succ_self _) with ⟨hstale, -⟩ | ⟨-, scan, hscan, hstays⟩
  · exact absurd hstale hfresh
  obtain ⟨pBuffer', htake, hr, hbytes⟩ := serialTakeLine_stays hsize hstays
  refine ⟨scan, pBuffer', hscan, ?_, serialScanLine_indicesOk h hscan, hr, hbytes, htake⟩
  simp only [serialTryReadLine, hscan, Option.bind_eq_bind, Option.bind_some, htake]

/-- A line read is `readLine`, and clears the buffer behind the line. -/
theorem serialTryReadLine_exact (uart : AppUart) (s : Serial) (h : s.IndicesOk) (p : CallerBuffer)
    (hsize : 256 ≤ p.size.toNat) (hzero : p.Cleared) (hplain : 0 ∉ s.contents ++ s.uartFifo) :
    ∃ r s' pBuffer', serialTryReadLine uart s p.bytes p.size = some (r, s', pBuffer') ∧
      readLine s.contents s.uartFifo = ⟨pBuffer'.take r.toNat, s'.contents, s'.uartFifo⟩ ∧
      (pBuffer'.take r.toNat).length = r.toNat ∧
      Region.slice pBuffer' r.toNat (256 - r.toNat) = List.replicate (256 - r.toNat) 0 := by
  have hle := h.filled_le
  have hnul := hzero.nul (show s.filled < 256 by omega)
  obtain ⟨scan, pBuffer', hscan, hread, hok, hr, hbytes, htake⟩ :=
    serialTryReadLine_returns uart h hsize hzero
  have hp : p.size.toNat ≤ p.bytes.length := Nat.le_of_eq p.length_eq.symm
  have hfilled := hok.filled_le
  refine ⟨_, _, pBuffer', hread, ?_, ?_, serialTakeLine_clears (by omega) ?_ htake⟩
  · rw [serialScanLine_reads uart h hsize hp hnul hplain hscan, hbytes, hok.contents_advance hr]
    rfl
  · rw [hbytes, List.length_take, Serial.length_contents]
    exact Nat.min_eq_left hr
  · rintro s' b rfl
    rw [(serialScanLine_untouched uart h hsize hp hnul hscan).1]
    exact hzero

theorem clearedBuffer_cleared : clearedBuffer.Cleared := by
  unfold CallerBuffer.Cleared
  decide +kernel

def overflowing : Serial where
  state := .opened
  rxBuffer := Vector.replicate 256 0x41
  rxBufferWriteI := 15
  rxBufferReadI := 16
  errCode := 0
  uartFifo := [0x42, 0x0A, 0x43]

theorem overflowing_contents : overflowing.contents = List.replicate 255 0x41 := by
  have hfilled : overflowing.filled = 255 := by decide
  rw [Serial.contents, hfilled]
  exact Circular.window_replicate 0x41 _ _

theorem serialTryReadLine_exact_overflow :
    overflowing.filled = 255 ∧
      ∃ r s' pBuffer',
        serialTryReadLine .fifo overflowing clearedBuffer.bytes 256 = some (r, s', pBuffer') ∧
        r = 255 ∧ pBuffer'.take 255 = List.replicate 253 0x41 ++ [0x42, 0x0A] ∧
        s'.contents = [] ∧ s'.uartFifo = [0x43] := by
  refine ⟨by decide +kernel, ?_⟩
  have hplain : 0 ∉ overflowing.contents ++ overflowing.uartFifo := by
    rw [overflowing_contents]
    decide +kernel
  obtain ⟨r, s', pBuffer', hread, hline, hlength, -⟩ := serialTryReadLine_exact .fifo overflowing
    ⟨by decide, by decide⟩ clearedBuffer (by decide) clearedBuffer_cleared hplain
  have hreads : readLine overflowing.contents overflowing.uartFifo =
      ⟨List.replicate 253 0x41 ++ [0x42, 0x0A], [], [0x43]⟩ := by
    rw [overflowing_contents]
    decide +kernel
  rw [hreads] at hline
  injection hline with hbytes hring hfifo
  rw [← hbytes] at hlength
  rw [List.length_append, List.length_replicate] at hlength
  have hr : r = 255 := UInt32.toNat_inj.mp hlength.symm
  subst hr
  exact ⟨255, s', pBuffer', hread, rfl, hbytes.symm, hring.symm, hfifo.symm⟩

-- ---------------------------------------------------------------------------
-- Lines behind a NUL
-- ---------------------------------------------------------------------------

/-- The line in the ring is handed out, whole. -/
def DeliversLine (uart : AppUart) (s : Serial) (p : CallerBuffer) (i : Nat) : Prop :=
  ∃ r s' pBuffer', serialTryReadLine uart s p.bytes p.size = some (r, s', pBuffer') ∧
    r.toNat = i + 1

/-- No scan finds a line end behind the first one of the ring, and one that a
NUL hides is not found where it was. -/
theorem serialScanLine_found_le (uart : AppUart) {s : Serial} {size : UInt32} {i fuel : Nat}
    {pBuffer : List UInt8} {scan : LineScan} (h : s.IndicesOk) (hsize : 256 ≤ size.toNat)
    (hp : size.toNat ≤ pBuffer.length) (hnul : pBuffer[s.filled]? = some 0)
    (hi : firstLineEnd s.contents = some i)
    (hscan : serialScanLine uart size fuel s pBuffer = some scan) :
    ∀ j ∈ scan.found, j ≤ i ∧ (0 ∈ s.contents.take i → j < i) := by
  induction fuel generalizing s pBuffer i with
  | zero => simp [serialScanLine] at hscan
  | succ fuel ih =>
    have hle := h.filled_le
    have hsearch := firstLineEnd_takeWhile hi
    cases serialScanLine_cleared uart h hsize hp hnul hscan with
    | empty _ hscan =>
      subst hscan
      simp [LineScan.found]
    | line j hfound hscan =>
      subst hscan
      rw [hsearch] at hfound
      split at hfound
      · cases hfound
      · intro k hk
        cases hk
        cases hfound
        exact ⟨Nat.le_refl _, fun hz => absurd hz ‹_›⟩
    | wait _ _ hscan =>
      subst hscan
      simp [LineScan.found]
    | drop s' _ _ _ _ _ _ hscan =>
      subst hscan
      simp [LineScan.found]
    | next fuel' s' byte rest hnone hfull hfifo hok hfull' hcontents hleft hfuel hscan =>
      cases hfuel
      rw [hsearch] at hnone
      -- The NUL stands before the line end, so the line end moves one place to the front.
      have hz : 0 ∈ s.contents.take i := by
        by_contra hz
        rw [if_neg hz] at hnone
        cases hnone
      cases i with
      | zero => cases hz
      | succ i =>
        have hnext : firstLineEnd s'.contents = some i :=
          hcontents ▸ firstLineEnd_moved hi byte
        intro j hj
        have hbound := (ih hok (by rwa [Serial.length_copied (by omega)])
          (by rw [hfull']; exact copied_nul hfull hnul) hnext hscan j hj).1
        exact ⟨Nat.le_succ_of_le hbound, fun _ => Nat.lt_succ_of_le hbound⟩

/-- A line in the ring is delivered exactly when no NUL stands before its end. -/
theorem serialTryReadLine_delivers_iff (uart : AppUart) (s : Serial) (h : s.Reachable uart)
    (p : CallerBuffer) (hsize : 256 ≤ p.size.toNat) (hzero : p.Cleared) (i : Nat)
    (hi : firstLineEnd s.contents = some i) :
    DeliversLine uart s p i ↔ 0 ∉ s.contents.take i := by
  have h := h.indicesOk
  have hle := h.filled_le
  have hnul := hzero.nul (show s.filled < 256 by omega)
  have hp : p.size.toNat ≤ p.bytes.length := Nat.le_of_eq p.length_eq.symm
  have hlt := firstLineEnd_lt hi
  rw [s.length_contents] at hlt
  obtain ⟨scan, pBuffer', hscan, hread, -⟩ := serialTryReadLine_returns uart h hsize hzero
  constructor
  · rintro ⟨r, s', b, hread', hr⟩ hz
    rw [hread] at hread'
    cases hread'
    cases hfound : scan.found with
    | none =>
      rw [hfound] at hr
      cases hr
    | some j =>
      have hj := (serialScanLine_found_le uart h hsize hp hnul hi hscan j hfound).2 hz
      rw [hfound, toNat_lineSize (show j < 256 by omega)] at hr
      omega
  · intro hz
    have hsearch := firstLineEnd_takeWhile hi
    rw [if_neg hz] at hsearch
    refine ⟨_, _, pBuffer', hread, ?_⟩
    cases serialScanLine_cleared uart h hsize hp hnul hscan with
    | empty hempty =>
      rw [hempty] at hi
      cases hi
    | line j hfound hscan =>
      subst hscan
      cases hsearch.symm.trans hfound
      exact toNat_lineSize (show i < 256 by omega)
    | wait hnone => cases hsearch.symm.trans hnone
    | drop s' hnone => cases hsearch.symm.trans hnone
    | next fuel' s' byte rest hnone => cases hsearch.symm.trans hnone

theorem serialTryReadLine_delivers_ok :
    lineReceived.contents = [0x4F, 0x4B, 0x0A] ∧
      DeliversLine .fifo lineReceived clearedBuffer 2 := by
  refine ⟨by decide +kernel, ?_⟩
  exact (serialTryReadLine_delivers_iff .fifo lineReceived lineReceived_reachable clearedBuffer
    (by decide) clearedBuffer_cleared 2 (by decide +kernel)).mpr (by decide +kernel)

def noiseReceived : Serial :=
  (serialFifoToRxBuffer .fifo { bootSerial with uartFifo := [0x00, 0x0A] }).2

theorem serialTryReadLine_delivers_noise :
    noiseReceived.Reachable .fifo ∧ firstLineEnd noiseReceived.contents = some 1 ∧
      (serialTryReadLine .fifo noiseReceived clearedBuffer.bytes 256).map (·.1) = some 0 ∧
      ¬ DeliversLine .fifo noiseReceived clearedBuffer 1 := by
  have h₀ : bootSerial.Reachable .fifo := .init bootSerial
  have h₁ := h₀.event (e := .arrive 0x00) rfl
  have h₂ := h₁.event (e := .arrive 0x0A) rfl
  have hreturn : (serialTryReadLine .fifo noiseReceived clearedBuffer.bytes 256).map (·.1) =
      some 0 := by decide +kernel
  refine ⟨h₂.event (e := .serialFifoToRxBuffer) rfl, by decide +kernel, hreturn, ?_⟩
  rintro ⟨r, s', pBuffer', hread, hr⟩
  have hcall : serialTryReadLine .fifo noiseReceived clearedBuffer.bytes 256 =
      some (r, s', pBuffer') := hread
  rw [hcall] at hreturn
  cases hreturn
  cases hr

end WaterBall
