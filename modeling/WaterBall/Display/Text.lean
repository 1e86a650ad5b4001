import WaterBall.Display.ColonCache

/-!
# Text on a display

What `seven_segment_set_char_digits` looks up and writes, for every start
digit and every string. From a start digit of at most 4 and with characters
below `0x80` the three loops are one write to each digit, left to right.
-/

namespace WaterBall

open Support RegisterFile

-- ---------------------------------------------------------------------------
-- Where the effects go
-- ---------------------------------------------------------------------------

/-- The effect is a lookup in the font or a write to a digit or the colon of the display. -/
def SegmentEffect.Confined (address : DisplayAddress) : SegmentEffect → Prop
  | .alphafontLookup index => index < alphafontTable.size
  | .i2cByteWrite _ _ => False
  | .i2cDataWrite written register _ => written = address ∧ register ∈ [0, 2, 6, 8, 4]

def AllConfined (address : DisplayAddress) (es : List SegmentEffect) : Prop :=
  ∀ e ∈ es, e.Confined address

section
variable {past : UInt8 → UInt16} {address : DisplayAddress} {es es' : List SegmentEffect}
  {digit data : UInt8}

@[simp] theorem allConfined_nil : AllConfined address [] := List.forall_mem_nil _

@[simp] theorem allConfined_cons {e : SegmentEffect} :
    AllConfined address (e :: es) ↔ e.Confined address ∧ AllConfined address es :=
  List.forall_mem_cons

@[simp] theorem allConfined_append :
    AllConfined address (es ++ es') ↔ AllConfined address es ∧ AllConfined address es' :=
  List.forall_mem_append

@[simp] theorem confined_dataWrite {written : DisplayAddress} {register : UInt8} :
    (SegmentEffect.i2cDataWrite written register data).Confined address ↔
      written = address ∧ register ∈ [0, 2, 6, 8, 4] := Iff.rfl

theorem setDigitRaw_confined_iff :
    AllConfined address (sevenSegmentSetDigitRaw address digit data) ↔ digit ≠ 4 := by
  obtain ⟨hlt, heq⟩ | ⟨rfl, heq⟩ | ⟨i, hi, rfl, heq⟩ := setDigitRaw_cases address digit data
  · rw [heq]
    exact iff_of_true allConfined_nil (UInt8.ne_of_lt hlt).symm
  · rw [heq]
    simp
  · rw [heq]
    match i, hi with
    | 0, _ | 1, _ | 2, _ | 3, _ => simp [digitRegister]

theorem setCharDigit_eq : sevenSegmentSetCharDigit past address digit data =
    .alphafontLookup data.toNat ::
      sevenSegmentSetDigitRaw address digit (alphafontEntry past data).toUInt8 :=
  if_neg (Nat.not_le.mpr data.toNat_lt)

theorem setCharDigit_confined_iff (h : digit ≠ 4) :
    AllConfined address (sevenSegmentSetCharDigit past address digit data) ↔ data < 0x80 := by
  rw [setCharDigit_eq, allConfined_cons, setDigitRaw_confined_iff, and_iff_left h]
  exact (UInt8.lt_iff_toNat_lt (a := data) (b := 0x80)).symm

theorem toUInt8_ne_four {k : Nat} (hk : k < 256) : k.toUInt8 ≠ 4 ↔ k ≠ 4 := by
  refine not_congr ⟨fun h => ?_, fun h => h ▸ rfl⟩
  have hval := congrArg UInt8.toNat h
  rwa [Nat.toUInt8, UInt8.toNat_ofNat', Nat.mod_eq_of_lt hk] at hval

theorem blankLoop_confined_iff {i stop : Nat} (hstop : stop < 256) :
    AllConfined address (blankLoop address i stop) ↔ ¬ (i ≤ 4 ∧ 4 < stop) := by
  have hdigits : AllConfined address (blankLoop address i stop) ↔
      ∀ k ∈ List.range' i (stop - i), k.toUInt8 ≠ 4 := by
    simp only [AllConfined, blankLoop, List.forall_mem_flatMap]
    exact forall₂_congr fun _ _ => setDigitRaw_confined_iff
  rw [hdigits]
  simp only [List.mem_range'_1]
  constructor
  · rintro h ⟨hi, hlt⟩
    exact h 4 ⟨hi, by omega⟩ rfl
  · intro h k hk
    refine (toUInt8_ne_four (by omega)).mpr ?_
    rintro rfl
    exact h ⟨hk.1, by omega⟩

theorem charLoop_confined_iff {i : Nat} {string : List UInt8} :
    AllConfined address (charLoop past address i string).2 ↔
      ∀ data ∈ string.take (4 - i), data < 0x80 := by
  induction string generalizing i with
  | nil => simp [charLoop]
  | cons data string ih =>
    unfold charLoop
    split
    case isTrue hi =>
      have hne : i.toUInt8 ≠ 4 := (toUInt8_ne_four (by omega)).mpr (by omega)
      have htake : 4 - i = (4 - (i + 1)) + 1 := by omega
      rw [htake, List.take_succ_cons, List.forall_mem_cons, allConfined_append,
        setCharDigit_confined_iff hne, ih]
    case isFalse hi => simp [Nat.sub_eq_zero_of_le (Nat.not_lt.mp hi)]

theorem setColon_confined {s : SevenSegment} {colonType : ColonType} :
    AllConfined address (sevenSegmentSetColon s address colonType).2 := by
  by_cases hsame : s.colon address = colonType.value
  · simp [setColon_same hsame]
  · simp [setColon_new hsame]

end

/-- The text stays within the display memory exactly when it starts at most
behind the last digit and what fits on the display of it is in the font. -/
theorem sevenSegmentSetCharDigits_confined_iff (past : UInt8 → UInt16) (s : SevenSegment)
    (address : DisplayAddress) (startDigit : UInt8) (string : CString) (colonType : ColonType) :
    AllConfined address
        (sevenSegmentSetCharDigits past s address startDigit string colonType).2 ↔
      startDigit ≤ 4 ∧
        ∀ data ∈ string.bytes.take (4 - startDigit.toNat), data < 0x80 := by
  have hlast (i : Nat) : AllConfined address (blankLoop address i 4) :=
    (blankLoop_confined_iff (by decide)).mpr fun h => Nat.lt_irrefl 4 h.2
  have hstart : ¬ (0 ≤ 4 ∧ 4 < startDigit.toNat) ↔ startDigit ≤ 4 := by
    simp [UInt8.le_iff_toNat_le]
  simp only [sevenSegmentSetCharDigits, allConfined_append, hlast, setColon_confined, and_true,
    blankLoop_confined_iff startDigit.toNat_lt, charLoop_confined_iff, hstart]

instance (address : DisplayAddress) (e : SegmentEffect) : Decidable (e.Confined address) :=
  match e with
  | .alphafontLookup index => inferInstanceAs (Decidable (index < alphafontTable.size))
  | .i2cByteWrite _ _ => isFalse not_false
  | .i2cDataWrite _ _ _ => inferInstanceAs (Decidable (_ ∧ _))

instance (address : DisplayAddress) (es : List SegmentEffect) :
    Decidable (AllConfined address es) :=
  inferInstanceAs (Decidable (∀ e ∈ es, e.Confined address))

theorem sevenSegmentSetCharDigits_strays :
    ¬ AllConfined .time
      (sevenSegmentSetCharDigits (fun _ => 0) sevenSegmentInit.1 .time 5
        ⟨[0x41], by decide⟩ .none).2 ∧
    ¬ AllConfined .time
      (sevenSegmentSetCharDigits (fun _ => 0) sevenSegmentInit.1 .time 0
        ⟨[0x80], by decide⟩ .none).2 := by
  decide

-- ---------------------------------------------------------------------------
-- What a text shows
-- ---------------------------------------------------------------------------

def fontPattern (data : UInt8) : UInt8 := (alphafontTable[data.toNat]?.getD 0).toUInt8

/-- The pattern of a digit that shows part of a string. -/
def textDigit (startDigit : Nat) (string : List UInt8) (k : Nat) : UInt8 :=
  if startDigit ≤ k then (string[k - startDigit]?.map fontPattern).getD 0 else 0

section
variable {past : UInt8 → UInt16} {address : DisplayAddress} {i stop : Nat} {string : List UInt8}

@[simp] theorem textDigit_nil (k : Nat) : textDigit i [] k = 0 := by
  simp [textDigit]

@[simp] theorem textDigit_head (data : UInt8) :
    textDigit i (data :: string) i = fontPattern data := by
  simp [textDigit]

theorem textDigit_tail {k : Nat} (hk : i < k) (data : UInt8) :
    textDigit i (data :: string) k = textDigit (i + 1) string k := by
  have hindex : k - i = (k - (i + 1)) + 1 := by omega
  simp [textDigit, Nat.succ_le_of_lt hk, Nat.le_of_lt hk, hindex]

theorem textDigit_before {k : Nat} (hk : k < i) : textDigit i string k = 0 :=
  if_neg (Nat.not_le.mpr hk)

theorem displayWrites_flatMap {f : Nat → List SegmentEffect} {g : Nat → DisplayWrite}
    {ks : List Nat} (h : ∀ k ∈ ks, displayWrites (f k) = [g k]) :
    displayWrites (ks.flatMap f) = ks.map g := by
  induction ks with
  | nil => rfl
  | cons k ks ih =>
    obtain ⟨hk, hks⟩ := List.forall_mem_cons.mp h
    rw [List.flatMap_cons, displayWrites_append, hk, ih hks]
    rfl

theorem blankLoop_writes (hstop : stop ≤ 4) : displayWrites (blankLoop address i stop) =
    (List.range' i (stop - i)).map fun k => digitWrite address k 0 := by
  refine displayWrites_flatMap ?_
  intro k hk
  rw [List.mem_range'_1] at hk
  exact setDigitRaw_writes (by omega)

theorem setCharDigit_writes {data : UInt8} (hi : i < 4) (hdata : data < 0x80) :
    displayWrites (sevenSegmentSetCharDigit past address i.toUInt8 data) =
      [digitWrite address i (fontPattern data)] := by
  have hentry : alphafontEntry past data = alphafontTable[data.toNat]?.getD 0 := by
    have hlt : data.toNat < 128 := UInt8.lt_iff_toNat_lt.mp hdata
    simp [alphafontEntry, hlt]
  rw [setCharDigit_eq, displayWrites_lookup, setDigitRaw_writes hi, hentry]
  rfl

theorem charLoop_writes (hi : i ≤ 4) (hstring : ∀ data ∈ string, data < 0x80) :
    displayWrites (charLoop past address i string).2 ++
        displayWrites (blankLoop address (charLoop past address i string).1 4) =
      (List.range' i (4 - i)).map fun k => digitWrite address k (textDigit i string k) := by
  induction string generalizing i with
  | nil => simp [charLoop, blankLoop_writes (Nat.le_refl 4)]
  | cons data string ih =>
    obtain ⟨hdata, hrest⟩ := List.forall_mem_cons.mp hstring
    unfold charLoop
    split
    case isTrue hlt =>
      -- The character takes digit `i`, the rest of the string starts behind it.
      have hrange : List.range' i (4 - i) = i :: List.range' (i + 1) (4 - (i + 1)) := by
        rw [← List.range'_succ]
        congr 1
        omega
      rw [displayWrites_append, List.append_assoc, ih hlt hrest, setCharDigit_writes hlt hdata,
        hrange, List.map_cons, textDigit_head]
      refine congrArg (_ :: ·) (List.map_congr_left ?_)
      intro k hk
      rw [textDigit_tail (List.mem_range'_1.mp hk).1]
    case isFalse hge =>
      have heq : i = 4 := by omega
      subst heq
      rfl

/-- From a start on the display on, the three loops write every digit once. -/
theorem setCharDigits_digitWrites {startDigit : UInt8} {string : CString} {colonType : ColonType}
    (hstart : startDigit ≤ 4) (hstring : ∀ data ∈ string.bytes, data < 0x80) :
    displayWrites ((DisplayCall.setCharDigits address startDigit string colonType).digitEffects
        past) =
      (List.range' 0 4).map fun k =>
        digitWrite address k (textDigit startDigit.toNat string.bytes k) := by
  have hle : startDigit.toNat ≤ 4 := UInt8.le_iff_toNat_le.mp hstart
  have hblank : displayWrites (blankLoop address 0 startDigit.toNat) =
      (List.range' 0 startDigit.toNat).map fun k =>
        digitWrite address k (textDigit startDigit.toNat string.bytes k) := by
    rw [blankLoop_writes hle]
    refine List.map_congr_left ?_
    intro k hk
    have hlt := (List.mem_range'_1.mp hk).2
    rw [textDigit_before (by omega)]
  have hrange : List.range' 0 4 =
      List.range' 0 startDigit.toNat ++ List.range' startDigit.toNat (4 - startDigit.toNat) := by
    rw [← Nat.add_sub_cancel' hle, ← List.range'_append_1, Nat.add_sub_cancel_left, Nat.zero_add]
  simp only [DisplayCall.digitEffects, displayWrites_append, List.append_assoc]
  rw [charLoop_writes hle hstring, hblank, hrange, List.map_append]

end

/-- On a display whose colon the driver knows, a text from the font replaces
all that was shown, and the other display stays. -/
theorem sevenSegmentSetCharDigits_shown (past : UInt8 → UInt16) (p : Panel)
    (address : DisplayAddress) (startDigit : UInt8) (string : CString) (colonType : ColonType)
    (bus : Bus) (hstart : startDigit ≤ 4) (hstring : ∀ data ∈ string.bytes, data < 0x80)
    (hcolon : (p.colon address).Agrees) (hbus : ∀ n, bus.arrives n = true) :
    let shown := (panelStep past p
      (.setCharDigits address startDigit string colonType, bus)).registers
    (∀ k, (hle : startDigit.toNat ≤ k) → (hlt : k < startDigit.toNat + string.bytes.length) →
      k < 4 → shown (address, digitRegister k) =
        fontPattern (string.bytes[k - startDigit.toNat])) ∧
    (∀ k < 4, ¬ (startDigit.toNat ≤ k ∧ k < startDigit.toNat + string.bytes.length) →
      shown (address, digitRegister k) = 0) ∧
    shown (address, 4) = colonType.value ∧
    ∀ other ≠ address, ∀ register, shown (other, register) = p.registers (other, register) := by
  have hdigit : ∀ k < 4, (panelStep past p
      (.setCharDigits address startDigit string colonType, bus)).registers
        (address, digitRegister k) = textDigit startDigit.toNat string.bytes k :=
    fun k hk => panelStep_digits p (setCharDigits_digitWrites hstart hstring) hbus hk
  refine ⟨?_, ?_, ?_, ?_⟩
  · intro k hle hlt hk
    have hindex : k - startDigit.toNat < string.bytes.length := by omega
    rw [hdigit k hk]
    simp [textDigit, hle, hindex]
  · intro k hk hout
    rw [hdigit k hk]
    unfold textDigit
    split
    case isTrue hle =>
      have hnone : string.bytes[k - startDigit.toNat]? = none :=
        List.getElem?_eq_none (by omega)
      rw [hnone]
      rfl
    case isFalse => rfl
  · exact panelStep_colon_shown hcolon (hbus _)
  · intro other hother register
    exact panelStep_other past p (.setCharDigits address startDigit string colonType) bus
      hother.symm register

theorem sevenSegmentSetCharDigits_shows_pass :
    let p := panelBoot .clear fun _ => 0xAA
    (panelStep (fun _ => 0) p (.setCharDigits .score 0 ⟨[0x50, 0x41, 0x53, 0x53], by decide⟩ .none,
      .clear)).registers (.score, 8) = 0xED :=
  (sevenSegmentSetCharDigits_shown (fun _ => 0) (panelBoot .clear fun _ => 0xAA) .score 0
    ⟨[0x50, 0x41, 0x53, 0x53], by decide⟩ .none .clear (by decide) (by simp)
    (panelBoot_agrees _ Bus.clear_arrives _) Bus.clear_arrives).1 3 (by decide) (by decide)
    (by decide)

end WaterBall
