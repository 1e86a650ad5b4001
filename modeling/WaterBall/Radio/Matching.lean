import Mathlib.Data.List.Infix
import WaterBall.Radio.FlagLaws

/-!
# Which reports lead to a connection

The handler looks for the first byte of the UUID, and compares at the first
place where it finds it. What stands at a later place is not seen, and the
comparison does not ask where the payload ends.
-/

namespace WaterBall

-- ---------------------------------------------------------------------------
-- The search
-- ---------------------------------------------------------------------------

/-- The handler connects exactly when the payload has the UUID, and it looks at
nothing behind the payload. -/
def MatchesExactly (report : AdvReport) : Prop :=
  (∀ r, discoveryOnBleEvt r (.advReport report) =
    if serviceBaseUuid128 <:+: report.payload then
      (connectConnect r report.peerAddr).map (·.2)
    else .ok r) ∧
  ∀ place ∈ (discoveryMatches report).2, place < report.payload.length

/-- The first 0x12 of the payload, if there is one, has room for the UUID behind
it, and starts the UUID if any place does. -/
def FirstDecides (report : AdvReport) : Prop :=
  ∀ start ∈ report.payload.findIdx? (· == 0x12),
    start + serviceBaseUuid128.length ≤ report.payload.length ∧
      (serviceBaseUuid128 <:+: report.payload →
        serviceBaseUuid128 <+: report.payload.drop start)

theorem memchr_eq (byte : UInt8) (place : Nat) (bytes : List UInt8) :
    memchr byte place bytes = match bytes.findIdx? (· == byte) with
      | some i => (some (place + i), List.range' place (i + 1))
      | none => (none, List.range' place bytes.length) := by
  induction bytes generalizing place with
  | nil => rfl
  | cons first bytes ih =>
    rw [memchr, List.findIdx?_cons]
    split
    · rfl
    · rw [ih (place + 1)]
      cases bytes.findIdx? (· == byte) with
      | none => rfl
      | some i =>
        simp only [Option.map_some, List.range'_succ (n := i + 1), Nat.add_right_comm place 1 i]
        rfl

theorem findIdx?_byte_none {bytes : List UInt8} {byte : UInt8} :
    bytes.findIdx? (· == byte) = none ↔ byte ∉ bytes := by
  simp only [List.findIdx?_eq_none_iff, beq_eq_false_iff_ne]
  constructor
  · intro h hmem
    exact h byte hmem rfl
  · rintro h b hb rfl
    exact h hb

theorem discoveryMatches_eq (report : AdvReport) :
    discoveryMatches report = match report.payload.findIdx? (· == 0x12) with
      | some start =>
        ((memcmp (report.payload ++ report.beyond) serviceBaseUuid128 start).1,
          List.range (start + 1) ++ List.range' start serviceBaseUuid128.length)
      | none => (false, List.range report.payload.length) := by
  unfold discoveryMatches
  rw [memchr_eq]
  cases report.payload.findIdx? (· == 0x12) with
  | none => simp only [List.range_eq_range']
  | some start =>
    simp only [List.range_eq_range', Nat.zero_add]
    rfl

theorem memcmp_iff {memory bytes : List UInt8} {place : Nat} :
    (memcmp memory bytes place).1 = true ↔ bytes <+: memory.drop place := by
  rw [memcmp, beq_iff_eq, List.prefix_iff_eq_take]
  exact eq_comm

theorem memcmp_payload_iff {report : AdvReport} {start : Nat}
    (hroom : start + serviceBaseUuid128.length ≤ report.payload.length) :
    (memcmp (report.payload ++ report.beyond) serviceBaseUuid128 start).1 = true ↔
      serviceBaseUuid128 <+: report.payload.drop start := by
  rw [memcmp_iff, List.drop_append_of_le_length (by omega)]
  refine ⟨fun h => ?_, List.prefix_append_of_prefix⟩
  refine List.prefix_of_prefix_length_le h (List.prefix_append _ _) ?_
  rw [List.length_drop]
  omega

theorem discoveryOnBleEvt_advReport (r : Radio) (report : AdvReport) :
    discoveryOnBleEvt r (.advReport report) =
      if (discoveryMatches report).1 then (connectConnect r report.peerAddr).map (·.2)
      else .ok r := by
  unfold discoveryOnBleEvt
  dsimp only
  split
  · cases connectConnect r report.peerAddr <;> rfl
  · rfl

theorem connectConnect_boot (address : GapAddr) :
    (connectConnect radioBoot address).map (·.2) ≠ .ok radioBoot := by
  intro h
  have hgap := congrArg (fun x => x.toOption.map fun r => r.gap.connecting) h
  cases hgap

theorem matchesExactly_iff (report : AdvReport) : MatchesExactly report ↔
    ((discoveryMatches report).1 = true ↔ serviceBaseUuid128 <:+: report.payload) ∧
      ∀ place ∈ (discoveryMatches report).2, place < report.payload.length := by
  refine and_congr_left' ⟨fun h => ?_, fun h r => ?_⟩
  · have hboot := h radioBoot
    rw [discoveryOnBleEvt_advReport] at hboot
    split at hboot
    case isTrue hmatch =>
      split at hboot
      · exact iff_of_true hmatch ‹_›
      · exact absurd hboot (connectConnect_boot report.peerAddr)
    case isFalse hmatch =>
      split at hboot
      · exact absurd hboot.symm (connectConnect_boot report.peerAddr)
      · exact iff_of_false hmatch ‹_›
  · rw [discoveryOnBleEvt_advReport]
    exact if_congr h rfl rfl

/-- Matching is exact exactly when the first 0x12 decides. -/
theorem discoveryOnBleEvt_matches_iff (report : AdvReport) :
    MatchesExactly report ↔ FirstDecides report := by
  rw [matchesExactly_iff, discoveryMatches_eq, FirstDecides]
  cases hstart : report.payload.findIdx? (· == 0x12) with
  | none =>
    have hnone : (0x12 : UInt8) ∉ report.payload := findIdx?_byte_none.mp hstart
    refine iff_of_true ⟨?_, fun place hplace => List.mem_range.mp hplace⟩ nofun
    refine iff_of_false Bool.false_ne_true ?_
    intro hfound
    exact hnone (hfound.subset List.mem_cons_self)
  | some start =>
    have hlt : start < report.payload.length := (List.findIdx?_eq_some_iff_getElem.mp hstart).1
    constructor
    · rintro ⟨hmatch, hexamined⟩ _ ⟨⟩
      have hroom : start + serviceBaseUuid128.length ≤ report.payload.length := by
        refine hexamined (start + 15) (List.mem_append_right _ ?_)
        exact List.mem_range'_1.mpr ⟨Nat.le_add_right _ _, Nat.lt_succ_self _⟩
      exact ⟨hroom, fun hfound => (memcmp_payload_iff hroom).mp (hmatch.mpr hfound)⟩
    · intro hfirst
      obtain ⟨hroom, hprefix⟩ := hfirst start rfl
      refine ⟨?_, ?_⟩
      · rw [memcmp_payload_iff hroom]
        refine ⟨fun h => ?_, hprefix⟩
        exact h.isInfix.trans (List.drop_suffix start report.payload).isInfix
      · intro place hplace
        rcases List.mem_append.mp hplace with hplace | hplace
        · have := List.mem_range.mp hplace
          omega
        · have := List.mem_range'_1.mp hplace
          omega

def matchingReport : AdvReport where
  peerAddr := ⟨0, Vector.replicate 6 0⟩
  payload := [0x02, 0x01, 0x06, 0x11, 0x07] ++ serviceBaseUuid128
  beyond := List.replicate 25 0
  dlen_le := by decide
  le_length := by decide

/-- Flags, a power level of 18 dBm, and the UUID. -/
def missedReport : AdvReport where
  peerAddr := ⟨0, Vector.replicate 6 0⟩
  payload := [0x02, 0x01, 0x06, 0x02, 0x0A, 0x12, 0x11, 0x07] ++ serviceBaseUuid128
  beyond := List.replicate 22 0
  dlen_le := by decide
  le_length := by decide

/-- The power level has the UUID's first byte, and the UUID behind it is missed. -/
theorem discoveryOnBleEvt_matches_missed :
    serviceBaseUuid128 <:+: missedReport.payload ∧
      (∀ r, discoveryOnBleEvt r (.advReport missedReport) = .ok r) ∧
      ¬ MatchesExactly missedReport := by
  have hfound : serviceBaseUuid128 <:+: missedReport.payload := List.infix_append_right
  have hmatch : (discoveryMatches missedReport).1 = false := by decide
  refine ⟨hfound, ?_, ?_⟩
  · intro r
    rw [discoveryOnBleEvt_advReport, hmatch]
    rfl
  · rw [matchesExactly_iff, hmatch]
    rintro ⟨h, -⟩
    cases h.mpr hfound

end WaterBall
