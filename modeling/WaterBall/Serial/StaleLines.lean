import WaterBall.Serial.LineLaws

/-!
# Lines that were not received

The search of `serial_try_read_line` stops at a NUL or a line end, not at the
end of the bytes it copied. When it leaves them it goes on in what the caller's
buffer held before, and a line end found there is counted into the line: the
read index is then moved past the write index. `handsOutReceived_iff` says
exactly on which inputs that happens.
-/

namespace WaterBall

open Support

-- ---------------------------------------------------------------------------
-- Reachable states
-- ---------------------------------------------------------------------------

/-- The states that events and line reads lead to from `serial_init`. -/
inductive Serial.Reachable (uart : AppUart) : Serial → Prop
  | init (s : Serial) : Reachable uart (serialInit s)
  | event {s s' : Serial} {e : SerialEvent} {returned : List UInt8} :
      Reachable uart s → serialStep uart s e = some (s', returned) → Reachable uart s'
  | readLine {s s' : Serial} {pBuffer pBuffer' : List UInt8} {size r : UInt32} :
      Reachable uart s → serialTryReadLine uart s pBuffer size = some (r, s', pBuffer') →
      Reachable uart s'

def LineScan.serial : LineScan → Serial
  | .empty s _ => s
  | .done s _ _ => s

def LineScan.found : LineScan → Option Nat
  | .empty _ _ => none
  | .done _ _ found => found

theorem toNat_lineSize {i : Nat} (hi : i < 256) : (lineSize (some i)).toNat = i + 1 := by
  rw [lineSize, UInt32.toNat_add, UInt32.toNat_ofNat', UInt32.toNat_one]
  omega

theorem serialScanLine_indicesOk {uart : AppUart} {size : UInt32} {fuel : Nat} {s : Serial}
    {pBuffer : List UInt8} {scan : LineScan} (h : s.IndicesOk)
    (hs : serialScanLine uart size fuel s pBuffer = some scan) : scan.serial.IndicesOk := by
  induction fuel generalizing s pBuffer with
  | zero => simp [serialScanLine] at hs
  | succ fuel ih =>
    obtain ⟨⟨r, b⟩, hcopy, -⟩ := Option.bind_eq_some_iff.mp hs
    rw [serialScanLine_copied uart hcopy] at hs
    split at hs
    · cases hs
      exact h
    obtain ⟨found, -, hs⟩ := Option.bind_eq_some_iff.mp hs
    cases serialScanNext_cases uart h fuel found with
    | line _ _ hresult =>
      cases hresult.symm.trans hs
      exact h
    | wait _ _ hresult =>
      cases hresult.symm.trans hs
      exact h
    | drop _ _ _ _ hok _ _ hresult =>
      cases hresult.symm.trans hs
      exact hok
    | next _ _ _ _ _ _ hok _ _ _ hresult => exact ih hok (hresult.symm.trans hs)

theorem serialTakeLine_serial {scan : LineScan} {r : UInt32} {s' : Serial} {pBuffer' : List UInt8}
    (h : scan.serial.IndicesOk) (ht : serialTakeLine scan = some (r, s', pBuffer')) :
    s' = scan.serial.advance r := by
  cases scan with
  | empty s pBuffer =>
    simp only [serialTakeLine, Option.some.injEq, Prod.mk.injEq] at ht
    obtain ⟨rfl, rfl, -⟩ := ht
    exact h.advance_zero.symm
  | done s pBuffer found =>
    simp only [serialTakeLine, Option.bind_eq_bind, Option.bind_eq_some_iff, Option.pure_def,
      Option.some.injEq, Prod.mk.injEq] at ht
    obtain ⟨_, -, rfl, rfl, -⟩ := ht
    exact Serial.IndicesOk.advance_ite h _

theorem serialScanLine_serial {uart : AppUart} {size : UInt32} {fuel : Nat} {s : Serial}
    {pBuffer : List UInt8} {scan : LineScan} (h : s.IndicesOk) (hroom : s.filled ≠ 255)
    (hs : serialScanLine uart size (fuel + 1) s pBuffer = some scan) : scan.serial = s := by
  obtain ⟨⟨r, b⟩, hcopy, -⟩ := Option.bind_eq_some_iff.mp hs
  rw [serialScanLine_copied uart hcopy] at hs
  split at hs
  · cases hs
    rfl
  obtain ⟨found, -, hs⟩ := Option.bind_eq_some_iff.mp hs
  cases serialScanNext_cases uart h fuel found with
  | line _ _ hresult =>
    cases hresult.symm.trans hs
    rfl
  | wait _ _ hresult =>
    cases hresult.symm.trans hs
    rfl
  | drop _ _ hfull => exact absurd hfull hroom
  | next _ _ _ _ hfull => exact absurd hfull hroom

theorem serialTryReadLine_advance {uart : AppUart} {s s' : Serial} {size r : UInt32}
    {pBuffer pBuffer' : List UInt8} (h : s.IndicesOk) (hroom : s.filled ≠ 255)
    (hread : serialTryReadLine uart s pBuffer size = some (r, s', pBuffer')) :
    s' = s.advance r := by
  obtain ⟨scan, hscan, htake⟩ := Option.bind_eq_some_iff.mp hread
  have hserial := serialScanLine_serial h hroom hscan
  rw [← hserial] at h ⊢
  exact serialTakeLine_serial h htake

theorem Serial.Reachable.indicesOk {uart : AppUart} {s : Serial} (h : s.Reachable uart) :
    s.IndicesOk := by
  induction h with
  | init s => exact serialInit_indicesOk s
  | @event s s' e returned _ hstep ih =>
    obtain ⟨_, _, hstep', h', -⟩ := serialStep_refines uart ih e
    rw [hstep, Option.some.injEq, Prod.mk.injEq] at hstep'
    exact hstep'.1 ▸ h'
  | readLine _ hread ih =>
    simp only [serialTryReadLine, Option.bind_eq_bind, Option.bind_eq_some_iff] at hread
    obtain ⟨scan, hscan, htake⟩ := hread
    have hok := serialScanLine_indicesOk ih hscan
    rw [serialTakeLine_serial hok htake]
    exact hok.advance _

-- ---------------------------------------------------------------------------
-- The property and its condition
-- ---------------------------------------------------------------------------

/-- The call returns, and what it returns are bytes of the ring: as many as it
says, from the front, and no more than the last scan found there. -/
def HandsOutReceived (uart : AppUart) (s : Serial) (p : CallerBuffer) : Prop :=
  ∃ scan r s' pBuffer',
    serialScanLine uart p.size (s.uartFifo.length + 1) s p.bytes = some scan ∧
    serialTryReadLine uart s p.bytes p.size = some (r, s', pBuffer') ∧
    r.toNat ≤ scan.serial.filled ∧
    pBuffer'.take r.toNat = scan.serial.contents.take r.toNat ∧
    s'.contents = scan.serial.contents.drop r.toNat ∧
    s'.filled = scan.serial.filled - r.toNat

/-- One of the first `rounds + 1` windows of `n` bytes of the stream is plain,
and no line end stands before it. -/
def PlainWindow (n rounds : Nat) (stream : List UInt8) : Prop :=
  ∃ j ≤ rounds, ((stream.drop j).take n).all plainByte = true ∧
    ∀ byte ∈ stream.take j, byte ∉ lineEnds

/-- The search leaves the received bytes and does not come to a NUL before it
comes to a line end. A full ring is scanned again for each byte of the FIFO,
another one only once. -/
def StaleLine (s : Serial) (pBuffer : List UInt8) : Prop :=
  s.filled ≠ 0 ∧ strpbrk lineEnds (pBuffer.drop s.filled) ≠ some none ∧
    PlainWindow s.filled (if s.filled = 255 then s.uartFifo.length else 0)
      (s.contents ++ s.uartFifo)

theorem plainWindow_zero {n : Nat} {stream : List UInt8} :
    PlainWindow n 0 stream ↔ (stream.take n).all plainByte = true := by
  constructor
  · rintro ⟨j, hj, hplain, -⟩
    rwa [Nat.le_zero.mp hj] at hplain
  · exact fun h => ⟨0, Nat.le_refl 0, h, by simp⟩

theorem plainWindow_succ {n rounds : Nat} {byte : UInt8} {stream : List UInt8} :
    PlainWindow n (rounds + 1) (byte :: stream) ↔
      ((byte :: stream).take n).all plainByte = true ∨
        (byte ∉ lineEnds ∧ PlainWindow n rounds stream) := by
  constructor
  · rintro ⟨j, hj, hplain, hbefore⟩
    cases j with
    | zero => exact .inl hplain
    | succ j =>
      rw [List.take_succ_cons, List.forall_mem_cons] at hbefore
      exact .inr ⟨hbefore.1, j, by omega, hplain, hbefore.2⟩
  · rintro (hplain | ⟨hbyte, j, hj, hplain, hbefore⟩)
    · exact ⟨0, by omega, hplain, by simp⟩
    · refine ⟨j + 1, by omega, hplain, ?_⟩
      rw [List.take_succ_cons, List.forall_mem_cons]
      exact ⟨hbyte, hbefore⟩

theorem not_plainWindow {n rounds i : Nat} {stream : List UInt8} (hi : i < n)
    (hmem : ∃ hlt : i < stream.length, stream[i] ∈ lineEnds) : ¬ PlainWindow n rounds stream := by
  rintro ⟨j, -, hplain, hbefore⟩
  obtain ⟨hlt, hmem⟩ := hmem
  by_cases hj : i < j
  · refine hbefore stream[i] ?_ hmem
    exact List.mem_take_iff_getElem.mpr ⟨i, by omega, rfl⟩
  · have hin : stream[i] ∈ (stream.drop j).take n := by
      refine List.mem_take_iff_getElem.mpr ⟨i - j, by simp; omega, ?_⟩
      simp [show j + (i - j) = i by omega]
    have := List.all_eq_true.mp hplain _ hin
    exact ((plainByte_iff _).mp this).2 hmem

-- ---------------------------------------------------------------------------
-- The scan
-- ---------------------------------------------------------------------------

/-- The scan found nothing, or a line end among the bytes of the ring. -/
def LineScan.Stays (len : Nat) : LineScan → Prop
  | .empty s _ => s.IndicesOk
  | .done s pBuffer found => s.IndicesOk ∧ pBuffer.length = len ∧
    ∀ i, found = some i → i < s.filled ∧ pBuffer.take s.filled = s.contents

/-- The scan found a line end behind the bytes of the ring. -/
def LineScan.Leaves (len : Nat) : LineScan → Prop
  | .empty _ _ => False
  | .done s pBuffer found => pBuffer.length = len ∧
    ∃ i, found = some i ∧ s.filled ≤ i ∧ i < pBuffer.length

/-- What a scan that ends in `result` makes of an input. -/
def Decides (len : Nat) (stale : Prop) (result : Option LineScan) : Prop :=
  (stale ∧ ∀ scan, result = some scan → scan.Leaves len) ∨
    (¬ stale ∧ ∃ scan, result = some scan ∧ scan.Stays len)

section
variable (uart : AppUart) {s : Serial} {size : UInt32} {pBuffer : List UInt8}

theorem drop_copied (s : Serial) (pBuffer : List UInt8) :
    (s.copied pBuffer).drop s.filled = pBuffer.drop s.filled := by
  rw [Serial.copied, List.drop_left' s.length_contents]

theorem not_staleLine_last (hfound : strpbrk lineEnds (s.copied pBuffer) = some none)
    (hu : s.filled = 255 → s.uartFifo = []) : ¬ StaleLine s pBuffer := by
  rintro ⟨-, hstale, hplain⟩
  have hrounds : (if s.filled = 255 then s.uartFifo.length else 0) = 0 := by
    split
    · rename_i hf; simp [hu hf]
    · rfl
  rw [hrounds, plainWindow_zero, List.take_left' s.length_contents] at hplain
  rw [Serial.copied, strpbrk_plain hplain] at hfound
  obtain ⟨found, hm, hnone⟩ := Option.map_eq_some_iff.mp hfound
  exact hstale (by rw [hm, Option.map_eq_none_iff.mp hnone])

theorem staleLine_next {s' : Serial} {byte : UInt8} {rest : List UInt8} (hf : s.filled = 255)
    (hf' : s'.filled = 255) (hu : s.uartFifo = byte :: rest)
    (hc' : s'.contents = s.contents.drop 1 ++ [byte]) (hu' : s'.uartFifo = rest)
    (hfound : strpbrk lineEnds (s.copied pBuffer) = some none) :
    StaleLine s pBuffer ↔ StaleLine s' (s.copied pBuffer) := by
  have hdrop := drop_copied s pBuffer
  obtain ⟨first, tail, hcons⟩ : ∃ first tail, s.contents = first :: tail :=
    List.exists_cons_of_length_pos (by simp [hf])
  rw [hf] at hdrop
  simp only [StaleLine, hf, hf', hc', hu, hu', hdrop, if_true, List.length_cons]
  simp only [hcons, List.cons_append, plainWindow_succ, List.drop_succ_cons, List.drop_zero,
    List.append_assoc, List.nil_append]
  have htake : (first :: (tail ++ byte :: rest)).take 255 = s.contents := by
    rw [hcons, ← List.cons_append, List.take_left' (by rw [← hcons, s.length_contents, hf])]
  rw [htake]
  by_cases hstale : strpbrk lineEnds (pBuffer.drop 255) = some none
  · simp [hstale]
  · -- The window just searched is not plain, and starts with no line end.
    have hplain : s.contents.all plainByte = false := by
      by_contra hplain
      rw [Serial.copied, strpbrk_plain (by simpa using hplain), hf] at hfound
      obtain ⟨found, hm, hnone⟩ := Option.map_eq_some_iff.mp hfound
      exact hstale (by rw [hm, Option.map_eq_none_iff.mp hnone])
    obtain ⟨found, hall, -, hfirst⟩ := strpbrk_stops hplain
    have hnone : found = none := by
      have := hall (pBuffer.drop s.filled)
      rw [← Serial.copied, hfound, Option.some.injEq] at this
      exact this.symm
    have hfirst := hfirst hnone first tail hcons
    simp [hplain, hfirst]

theorem staleLine_plain (hz : s.filled ≠ 0) (hplain : s.contents.all plainByte = true)
    (hstale : strpbrk lineEnds (pBuffer.drop s.filled) ≠ some none) : StaleLine s pBuffer := by
  refine ⟨hz, hstale, 0, Nat.zero_le _, ?_, by simp⟩
  rwa [List.drop_zero, List.take_left' s.length_contents]

theorem decides_leaves {len : Nat} (hz : s.filled ≠ 0) (hplain : s.contents.all plainByte = true)
    (hstale : strpbrk lineEnds (pBuffer.drop s.filled) ≠ some none)
    (hcopied : (s.copied pBuffer).length = len) (fuel : Nat) :
    Decides len (StaleLine s pBuffer) ((strpbrk lineEnds (s.copied pBuffer)).bind
      (serialScanNext uart size fuel s (s.copied pBuffer))) := by
  refine .inl ⟨staleLine_plain hz hplain hstale, ?_⟩
  have hsearch := strpbrk_plain hplain (pBuffer.drop s.filled)
  rw [← Serial.copied] at hsearch
  cases hst : strpbrk lineEnds (pBuffer.drop s.filled) with
  | none =>
    rw [hsearch, hst]
    rintro scan ⟨⟩
  | some found =>
    cases found with
    | none => exact absurd hst hstale
    | some i =>
      rw [hst] at hsearch
      have hlt := strpbrk_lt hsearch
      rw [hsearch]
      rintro scan ⟨⟩
      exact ⟨hcopied, _, rfl, by simp, hlt⟩

theorem decides_stays {len i : Nat} (h : s.IndicesOk) (hi : i < s.contents.length)
    (hmem : s.contents[i] ∈ lineEnds)
    (hfound : strpbrk lineEnds (s.copied pBuffer) = some (some i))
    (hcopied : (s.copied pBuffer).length = len) (fuel : Nat) :
    Decides len (StaleLine s pBuffer) ((strpbrk lineEnds (s.copied pBuffer)).bind
      (serialScanNext uart size fuel s (s.copied pBuffer))) := by
  have hin : ∃ hlt : i < (s.contents ++ s.uartFifo).length,
      (s.contents ++ s.uartFifo)[i] ∈ lineEnds :=
    ⟨by rw [List.length_append]; omega, by rwa [List.getElem_append_left hi]⟩
  have hkeep : (s.copied pBuffer).take s.filled = s.contents := by
    rw [Serial.copied, List.take_left' s.length_contents]
  rw [s.length_contents] at hi
  refine .inr ⟨fun hs => not_plainWindow hi hin hs.2.2, .done s (s.copied pBuffer) (some i),
    by rw [hfound]; rfl, h, hcopied, ?_⟩
  rintro j ⟨⟩
  exact ⟨hi, hkeep⟩

theorem decides_nothing {len fuel : Nat} (h : s.IndicesOk)
    (hfound : strpbrk lineEnds (s.copied pBuffer) = some none)
    (hcopied : (s.copied pBuffer).length = len)
    (hnext : ∀ s' byte rest, s.uartFifo = byte :: rest → s'.IndicesOk → s'.uartFifo = rest →
      Decides len (StaleLine s' (s.copied pBuffer))
        (serialScanLine uart size fuel s' (s.copied pBuffer))) :
    Decides len (StaleLine s pBuffer) ((strpbrk lineEnds (s.copied pBuffer)).bind
      (serialScanNext uart size fuel s (s.copied pBuffer))) := by
  rw [hfound, Option.bind_some]
  cases serialScanNext_cases uart h fuel none with
  | line i hnone => cases hnone
  | wait _ hroom hresult =>
    rw [hresult]
    exact .inr ⟨not_staleLine_last hfound fun hfull => absurd hfull hroom, _, rfl, h, hcopied,
      by simp⟩
  | drop s' _ _ hfifo hok _ _ hresult =>
    rw [hresult]
    exact .inr ⟨not_staleLine_last hfound fun _ => hfifo, _, rfl, hok, hcopied, by simp⟩
  | next s' byte rest _ hfull hfifo hok hfull' hcontents hleft hresult =>
    rw [hresult, staleLine_next hfull hfull' hfifo hcontents hleft hfound]
    exact hnext s' byte rest hfifo hok hleft

theorem serialScanLine_decides {fuel len : Nat} (h : s.IndicesOk) (hsize : 256 ≤ size.toNat)
    (hlen : size.toNat ≤ len) (hp : pBuffer.length = len) (hfuel : s.uartFifo.length < fuel) :
    Decides len (StaleLine s pBuffer) (serialScanLine uart size fuel s pBuffer) := by
  induction fuel generalizing s pBuffer with
  | zero => omega
  | succ fuel ih =>
    have hle := h.filled_le
    by_cases hz : s.filled = 0
    · have hempty := serialScanLine_empty uart h (hp ▸ hlen) hz fuel
      exact .inr ⟨fun hs => hs.1 hz, _, hempty, h⟩
    have hcopied : (s.copied pBuffer).length = len := by
      rw [Serial.length_copied (by omega), hp]
    have hnext : ∀ s' byte rest, s.uartFifo = byte :: rest → s'.IndicesOk → s'.uartFifo = rest →
        Decides len (StaleLine s' (s.copied pBuffer))
          (serialScanLine uart size fuel s' (s.copied pBuffer)) := by
      intro s' byte rest hfifo hok hleft
      refine ih hok hcopied ?_
      rw [hfifo, List.length_cons] at hfuel
      rw [hleft]
      omega
    rw [serialScanLine_round uart h hsize (hp ▸ hlen) hz]
    by_cases hplain : s.contents.all plainByte = true
    · by_cases hstale : strpbrk lineEnds (pBuffer.drop s.filled) = some none
      · have hfound : strpbrk lineEnds (s.copied pBuffer) = some none := by
          rw [Serial.copied, strpbrk_plain hplain, hstale]
          rfl
        exact decides_nothing uart h hfound hcopied hnext
      · exact decides_leaves uart hz hplain hstale hcopied fuel
    · obtain ⟨found, hall, hin, -⟩ := strpbrk_stops (by simpa using hplain)
      have hfound := hall (pBuffer.drop s.filled)
      rw [← Serial.copied] at hfound
      cases found with
      | none => exact decides_nothing uart h hfound hcopied hnext
      | some i =>
        obtain ⟨hi, hmem⟩ := hin i rfl
        exact decides_stays uart h hi hmem hfound hcopied fuel

end

-- ---------------------------------------------------------------------------
-- The line
-- ---------------------------------------------------------------------------

theorem serialTakeLine_stays {scan : LineScan} {len : Nat} (hlen : 256 ≤ len)
    (hs : scan.Stays len) :
    ∃ pBuffer', serialTakeLine scan =
        some (lineSize scan.found, scan.serial.advance (lineSize scan.found), pBuffer') ∧
      (lineSize scan.found).toNat ≤ scan.serial.filled ∧
      pBuffer'.take (lineSize scan.found).toNat =
        scan.serial.contents.take (lineSize scan.found).toNat := by
  cases scan with
  | empty s pBuffer =>
    have hs : s.IndicesOk := hs
    exact ⟨pBuffer, by simp [serialTakeLine, LineScan.serial, LineScan.found, lineSize,
      hs.advance_zero], by simp [LineScan.found, lineSize], by simp [LineScan.found, lineSize]⟩
  | done s pBuffer found =>
    obtain ⟨hok, hp, hin⟩ := hs
    have hle := hok.filled_le
    obtain ⟨hrle, hkeep⟩ : (lineSize found).toNat ≤ s.filled ∧
        pBuffer.take (lineSize found).toNat = s.contents.take (lineSize found).toNat := by
      cases found with
      | none => exact ⟨by simp [lineSize], by simp [lineSize]⟩
      | some i =>
        obtain ⟨hi, htake⟩ := hin i rfl
        have hr := toNat_lineSize (show i < 256 by omega)
        refine ⟨by omega, ?_⟩
        rw [← htake, List.take_take, hr, Nat.min_eq_left (by omega)]
    simp only [LineScan.found, LineScan.serial]
    generalize hr : lineSize found = r at hrle hkeep
    have hzeros : (256 - r).toNat = 256 - r.toNat := by
      simp only [UInt32.toNat_sub, UInt32.reduceToNat]; omega
    have hfits : r.toNat + (List.replicate (256 - r).toNat (0 : UInt8)).length ≤
        pBuffer.length := by
      rw [List.length_replicate, hzeros]; omega
    refine ⟨Region.splice pBuffer r.toNat (List.replicate (256 - r).toNat 0), ?_, hrle, ?_⟩
    · simp only [serialTakeLine, hr, Region.write_of_fits hfits, Option.bind_eq_bind,
        Option.bind_some, Option.pure_def, hok.advance_ite]
    · rw [Region.splice, List.append_assoc, List.take_left' (by simp; omega)]
      exact hkeep

theorem serialTakeLine_leaves {scan : LineScan} {size : UInt32} (hs : scan.Leaves size.toNat)
    {r : UInt32} {s' : Serial} {pBuffer' : List UInt8}
    (ht : serialTakeLine scan = some (r, s', pBuffer')) : scan.serial.filled < r.toNat := by
  cases scan with
  | empty s pBuffer => exact hs.elim
  | done s pBuffer found =>
    obtain ⟨hp, i, rfl, hge, hlt⟩ := hs
    have := size.toNat_lt
    simp only [serialTakeLine, Option.bind_eq_bind, Option.bind_eq_some_iff, Option.pure_def,
      Option.some.injEq, Prod.mk.injEq] at ht
    obtain ⟨_, -, rfl, -, -⟩ := ht
    rw [lineSize, UInt32.toNat_add, UInt32.toNat_ofNat', UInt32.toNat_one, LineScan.serial]
    omega

/-- Where a line read is right: exactly where its search does not leave the
received bytes for a line end, or for the end of the buffer. -/
theorem handsOutReceived_iff (uart : AppUart) {s : Serial} (h : s.IndicesOk) (p : CallerBuffer)
    (hsize : 256 ≤ p.size.toNat) : HandsOutReceived uart s p ↔ ¬ StaleLine s p.bytes := by
  have hdec := serialScanLine_decides uart h hsize (Nat.le_refl _) p.length_eq (Nat.lt_succ_self _)
  constructor
  · rintro ⟨scan, r, s', pBuffer', hscan, hread, hr, -⟩ hstale
    rcases hdec with ⟨-, hleaves⟩ | ⟨hn, -⟩
    · simp only [serialTryReadLine, hscan, Option.bind_eq_bind, Option.bind_some] at hread
      have := serialTakeLine_leaves (hleaves scan hscan) hread
      omega
    · exact hn hstale
  · intro hn
    rcases hdec with ⟨hstale, -⟩ | ⟨-, scan, hscan, hstays⟩
    · exact absurd hstale hn
    have hok := serialScanLine_indicesOk h hscan
    obtain ⟨pBuffer', htake, hr, hbytes⟩ := serialTakeLine_stays hsize hstays
    refine ⟨scan, _, _, pBuffer', hscan, ?_, hr, hbytes, hok.contents_advance hr,
      hok.filled_advance hr⟩
    simp only [serialTryReadLine, hscan, Option.bind_eq_bind, Option.bind_some, htake]

/-- The same in every reachable state, with a buffer of at least 256 bytes that
holds anything. -/
theorem serialTryReadLine_received_iff (uart : AppUart) (s : Serial) (h : s.Reachable uart)
    (p : CallerBuffer) (hsize : 256 ≤ p.size.toNat) :
    HandsOutReceived uart s p ↔ ¬ StaleLine s p.bytes :=
  handsOutReceived_iff uart h.indicesOk p hsize

theorem not_staleLine_of_nul {s : Serial} {pBuffer : List UInt8}
    (hz : pBuffer[s.filled]? = some 0) : ¬ StaleLine s pBuffer := by
  rintro ⟨-, hstale, -⟩
  have hcons : pBuffer.drop s.filled = 0 :: pBuffer.drop (s.filled + 1) := by
    obtain ⟨hlt, heq⟩ := List.getElem?_eq_some_iff.mp hz
    rw [List.drop_eq_getElem_cons hlt, heq]
  exact hstale (by rw [hcons]; rfl)

-- ---------------------------------------------------------------------------
-- A line that is handed out twice
-- ---------------------------------------------------------------------------

def bootSerial : Serial where
  state := .init
  rxBuffer := Vector.replicate 256 0
  rxBufferWriteI := 0
  rxBufferReadI := 0
  errCode := 0
  uartFifo := []

def lineReceived : Serial :=
  (serialFifoToRxBuffer .fifo { bootSerial with uartFifo := [0x4F, 0x4B, 0x0A] }).2

def byteReceived : Serial :=
  (serialFifoToRxBuffer .fifo { lineReceived.advance 3 with uartFifo := [0x41] }).2

/-- A buffer of 256 zero bytes after the line was read into it. -/
def usedBuffer : CallerBuffer where
  bytes := [0x4F, 0x4B, 0x0A] ++ List.replicate 253 0
  size := 256
  length_eq := by decide +kernel

theorem lineReceived_reachable : lineReceived.Reachable .fifo := by
  have h₀ : bootSerial.Reachable .fifo := .init bootSerial
  have h₁ := h₀.event (e := .arrive 0x4F) rfl
  have h₂ := h₁.event (e := .arrive 0x4B) rfl
  have h₃ := h₂.event (e := .arrive 0x0A) rfl
  exact h₃.event (e := .serialFifoToRxBuffer) rfl

theorem byteReceived_reachable : byteReceived.Reachable .fifo := by
  have hread : (lineReceived.advance 3).Reachable .fifo := by
    have hthree : (serialTryReadLine .fifo lineReceived (List.replicate 256 0) 256).map
        (fun result => result.1) = some 3 := by decide +kernel
    obtain ⟨⟨r, s', pBuffer'⟩, hcall, rfl⟩ := Option.map_eq_some_iff.mp hthree
    rw [← serialTryReadLine_advance lineReceived_reachable.indicesOk (by decide +kernel) hcall]
    exact lineReceived_reachable.readLine hcall
  exact (hread.event (e := .arrive 0x41) rfl).event (e := .serialFifoToRxBuffer) rfl

/-- With one byte in the ring the call returns three, which the buffer still
held, and leaves a ring of 254 bytes. -/
theorem serialTryReadLine_replays :
    byteReceived.Reachable .fifo ∧ 256 ≤ usedBuffer.size.toNat ∧ byteReceived.filled = 1 ∧
      (serialTryReadLine .fifo byteReceived usedBuffer.bytes usedBuffer.size).map
        (fun result => (result.1, result.2.1.filled)) = some (3, 254) ∧
      ¬ HandsOutReceived .fifo byteReceived usedBuffer := by
  refine ⟨byteReceived_reachable, by decide, by decide +kernel, by decide +kernel, ?_⟩
  rw [handsOutReceived_iff .fifo byteReceived_reachable.indicesOk _ (by decide), not_not]
  refine ⟨by decide +kernel, by decide +kernel, 0, Nat.zero_le _, by decide +kernel, by simp⟩

/-- A cleared buffer, on the same ring. -/
def clearedBuffer : CallerBuffer where
  bytes := List.replicate 256 0
  size := 256
  length_eq := by decide +kernel

theorem serialTryReadLine_received_cleared :
    HandsOutReceived .fifo byteReceived clearedBuffer :=
  (serialTryReadLine_received_iff .fifo byteReceived byteReceived_reachable clearedBuffer
    (by decide)).mpr (not_staleLine_of_nul (by decide +kernel))

end WaterBall
