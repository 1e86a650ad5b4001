import WaterBall.Display.SevenSegment

/-!
# What the display driver writes

One law for each function: the writes of its effects, in order. A call is the
writes of its digits, which need no state, and then its colon.
-/

namespace WaterBall

open Support RegisterFile

-- ---------------------------------------------------------------------------
-- The bus
-- ---------------------------------------------------------------------------

def Bus.clear : Bus := fun _ _ => true

theorem Bus.clear_arrives (n : Nat) : Bus.clear.arrives n = true := rfl

-- ---------------------------------------------------------------------------
-- Writes of single digits
-- ---------------------------------------------------------------------------

@[simp] theorem displayWrites_nil : displayWrites [] = [] := rfl

@[simp] theorem displayWrites_append : displayWrites (es ++ es') =
    displayWrites es ++ displayWrites es' := List.filterMap_append

@[simp] theorem displayWrites_lookup : displayWrites (.alphafontLookup i :: es) =
    displayWrites es := rfl

@[simp] theorem displayWrites_byteWrite : displayWrites (.i2cByteWrite address data :: es) =
    displayWrites es := rfl

@[simp] theorem displayWrites_dataWrite :
    displayWrites (.i2cDataWrite address register data :: es) =
      ⟨(address, register), data⟩ :: displayWrites es := rfl

/-- The registers of the digits, left to right. -/
def digitRegister : Nat → UInt8
  | 0 => 0
  | 1 => 2
  | 2 => 6
  | _ => 8

theorem digitRegister_inj : ∀ i < 4, ∀ j < 4, digitRegister i = digitRegister j → i = j := by
  decide

theorem digitRegister_ne_colon (i : Nat) : digitRegister i ≠ 4 := by
  unfold digitRegister
  split <;> decide

def digitWrite (address : DisplayAddress) (i : Nat) (data : UInt8) : DisplayWrite :=
  ⟨(address, digitRegister i), data⟩

theorem setDigitRaw_writes (hi : i < 4) :
    displayWrites (sevenSegmentSetDigitRaw address i.toUInt8 data) =
      [digitWrite address i data] := by
  match i, hi with
  | 0, _ | 1, _ | 2, _ | 3, _ => rfl

/-- The guard lets a digit behind the last one through, to a register of its own. -/
theorem setDigitRaw_cases (address : DisplayAddress) (digit data : UInt8) :
    (4 < digit ∧ sevenSegmentSetDigitRaw address digit data = []) ∨
    (digit = 4 ∧ sevenSegmentSetDigitRaw address digit data = [.i2cDataWrite address 10 data]) ∨
    ∃ i < 4, digit = i.toUInt8 ∧ sevenSegmentSetDigitRaw address digit data =
      [.i2cDataWrite address (digitRegister i) data] := by
  by_cases hdigit : 4 < digit
  · exact .inl ⟨hdigit, if_pos hdigit⟩
  · right
    have hle : digit.toNat ≤ 4 := by simpa [UInt8.lt_iff_toNat_lt] using hdigit
    have heq : digit = digit.toNat.toUInt8 := UInt8.ofNat_toNat.symm
    rw [heq]
    match digit.toNat, hle with
    | 4, _ => exact .inl ⟨rfl, rfl⟩
    | 0, _ | 1, _ | 2, _ | 3, _ => exact .inr ⟨_, by decide, rfl, rfl⟩

theorem setDigitRaw_ne_colon (h : w ∈ displayWrites (sevenSegmentSetDigitRaw address digit data)) :
    w.register.1 = address ∧ w.register.2 ≠ 4 := by
  obtain ⟨-, heq⟩ | ⟨-, heq⟩ | ⟨i, -, -, heq⟩ := setDigitRaw_cases address digit data
  · rw [heq] at h
    cases h
  · rw [heq] at h
    cases List.mem_singleton.mp h
    exact ⟨rfl, (by decide : (10 : UInt8) ≠ 4)⟩
  · rw [heq] at h
    cases List.mem_singleton.mp h
    exact ⟨rfl, digitRegister_ne_colon i⟩

-- ---------------------------------------------------------------------------
-- The colon
-- ---------------------------------------------------------------------------

theorem DisplayAddress.index_inj {a b : DisplayAddress} (h : a.index = b.index) : a = b := by
  obtain ⟨_, rfl | rfl⟩ := a <;> obtain ⟨_, rfl | rfl⟩ := b
  · rfl
  · cases h
  · cases h
  · rfl

section
variable {s : SevenSegment} {address other : DisplayAddress} {colonType : ColonType}

theorem storeColon_colon (colon : UInt8) : (s.storeColon address colon).colon other =
    if address = other then colon else s.colon other := by
  simp only [SevenSegment.storeColon, SevenSegment.colon, Fin.getElem_fin, Vector.getElem_set]
  by_cases heq : address = other
  · simp [heq]
  · have hindex : address.index.val ≠ other.index.val :=
      fun h => heq (DisplayAddress.index_inj (Fin.ext h))
    simp [heq, hindex]

theorem setColon_same (h : s.colon address = colonType.value) :
    sevenSegmentSetColon s address colonType = (s, []) := if_pos h

theorem setColon_new (h : s.colon address ≠ colonType.value) :
    sevenSegmentSetColon s address colonType =
      (s.storeColon address colonType.value, [.i2cDataWrite address 4 colonType.value]) :=
  if_neg h

theorem setColon_lastValue (arrives : Nat → Bool) : lastValue (other, 4)
    (delivered arrives (displayWrites (sevenSegmentSetColon s address colonType).2)) =
      if s.colon address ≠ colonType.value ∧ address = other ∧ arrives 0 then
        some colonType.value
      else none := by
  by_cases hsame : s.colon address = colonType.value
  · simp [setColon_same hsame, hsame]
  · by_cases harrives : arrives 0
    · simp [setColon_new hsame, hsame, harrives]
    · simp [setColon_new hsame, harrives]

theorem setColon_colon : (sevenSegmentSetColon s address colonType).1.colon other =
    if address = other then colonType.value else s.colon other := by
  by_cases hsame : s.colon address = colonType.value
  · rw [setColon_same hsame]
    split
    · subst other
      exact hsame
    · rfl
  · rw [setColon_new hsame]
    exact storeColon_colon colonType.value

end

-- ---------------------------------------------------------------------------
-- Calls
-- ---------------------------------------------------------------------------

def DisplayCall.digitEffects (past : UInt8 → UInt16) : DisplayCall → List SegmentEffect
  | setDigits address digit0 digit1 digit2 digit3 _ =>
    sevenSegmentSetDigit address 0 digit0 ++ sevenSegmentSetDigit address 1 digit1 ++
      sevenSegmentSetDigit address 2 digit2 ++ sevenSegmentSetDigit address 3 digit3
  | setNumbers address left right _ =>
    sevenSegmentSetDigit address 0 (left / 10) ++ sevenSegmentSetDigit address 1 (left % 10) ++
      sevenSegmentSetDigit address 2 (right / 10) ++ sevenSegmentSetDigit address 3 (right % 10)
  | setCharDigits address startDigit string _ =>
    let (i, chars) := charLoop past address startDigit.toNat string.bytes
    blankLoop address 0 startDigit.toNat ++ chars ++ blankLoop address i 4
  | blankDigits address => blankLoop address 0 4

theorem DisplayCall.run_eq (past : UInt8 → UInt16) (s : SevenSegment) (call : DisplayCall) :
    call.run past s = ((sevenSegmentSetColon s call.address call.colonType).1,
      call.digitEffects past ++ (sevenSegmentSetColon s call.address call.colonType).2) := by
  cases call <;> rfl

def DigitsOnly (address : DisplayAddress) (es : List SegmentEffect) : Prop :=
  ∀ w ∈ displayWrites es, w.register.1 = address ∧ w.register.2 ≠ 4

@[simp] theorem digitsOnly_nil : DigitsOnly address [] := List.forall_mem_nil _

@[simp] theorem digitsOnly_append :
    DigitsOnly address (es ++ es') ↔ DigitsOnly address es ∧ DigitsOnly address es' := by
  simp only [DigitsOnly, displayWrites_append, List.forall_mem_append]

theorem setDigitRaw_digitsOnly : DigitsOnly address (sevenSegmentSetDigitRaw address digit data) :=
  fun _ => setDigitRaw_ne_colon

theorem setDigit_digitsOnly : DigitsOnly address (sevenSegmentSetDigit address digit data) := by
  unfold sevenSegmentSetDigit
  split
  · exact digitsOnly_nil
  · exact setDigitRaw_digitsOnly

theorem setCharDigit_digitsOnly :
    DigitsOnly address (sevenSegmentSetCharDigit past address digit data) := by
  unfold sevenSegmentSetCharDigit
  split
  · exact digitsOnly_nil
  · exact setDigitRaw_digitsOnly

theorem blankLoop_digitsOnly : DigitsOnly address (blankLoop address i stop) := by
  unfold blankLoop
  induction List.range' i (stop - i) with
  | nil => exact digitsOnly_nil
  | cons i rest ih => exact digitsOnly_append.mpr ⟨setDigitRaw_digitsOnly, ih⟩

theorem charLoop_digitsOnly : DigitsOnly address (charLoop past address i string).2 := by
  induction string generalizing i with
  | nil => exact digitsOnly_nil
  | cons data string ih =>
    unfold charLoop
    split
    · exact digitsOnly_append.mpr ⟨setCharDigit_digitsOnly, ih⟩
    · exact digitsOnly_nil

theorem DisplayCall.digitsOnly (past : UInt8 → UInt16) (call : DisplayCall) :
    DigitsOnly call.address (call.digitEffects past) := by
  cases call with
  | setDigits | setNumbers => simp [digitEffects, address, setDigit_digitsOnly]
  | setCharDigits => simp [digitEffects, address, blankLoop_digitsOnly, charLoop_digitsOnly]
  | blankDigits => exact blankLoop_digitsOnly

-- ---------------------------------------------------------------------------
-- Panels
-- ---------------------------------------------------------------------------

section
variable {s : SevenSegment} {past : UInt8 → UInt16} {p : Panel} {call : DisplayCall} {bus : Bus}
  {address other : DisplayAddress} {colonType : ColonType} {k : Nat}

theorem setColon_register {w : DisplayWrite}
    (h : w ∈ displayWrites (sevenSegmentSetColon s address colonType).2) :
    w.register = (address, 4) := by
  by_cases hsame : s.colon address = colonType.value
  · simp [setColon_same hsame] at h
  · simp [setColon_new hsame] at h
    rw [h]

theorem panelStep_other (past : UInt8 → UInt16) (p : Panel) (call : DisplayCall) (bus : Bus)
    (h : call.address ≠ other) (register : UInt8) :
    (panelStep past p (call, bus)).registers (other, register) =
      p.registers (other, register) := by
  have hnone : lastValue (other, register)
      (delivered bus.arrives (displayWrites (call.run past p.driver).2)) = none := by
    refine lastValue_eq_none ?_
    rintro w hw heq
    refine h (Eq.trans ?_ (congrArg Prod.fst heq))
    rw [call.run_eq, displayWrites_append] at hw
    rcases List.mem_append.mp (mem_of_mem_delivered hw) with hdigit | hcolon
    · exact (call.digitsOnly past w hdigit).1.symm
    · rw [setColon_register hcolon]
  simp only [panelStep, Panel.transmit, storeAll_apply, hnone, Option.getD_none]

/-- One write to each digit, left to right. -/
theorem lastValue_digits (content : Nat → UInt8) (hk : k < 4) :
    lastValue (address, digitRegister k)
      ((List.range' 0 4).map fun i => digitWrite address i (content i)) = some (content k) := by
  match k, hk with
  | 0, _ | 1, _ | 2, _ | 3, _ => simp [List.range', digitWrite, digitRegister]

/-- Where all writes arrive, a digit shows what the call wrote to it last. -/
theorem panelStep_digit (past : UInt8 → UInt16) (p : Panel) (call : DisplayCall) (k : Nat)
    (hbus : ∀ n, bus.arrives n = true) :
    (panelStep past p (call, bus)).registers (call.address, digitRegister k) =
      (lastValue (call.address, digitRegister k) (displayWrites (call.digitEffects past))).getD
        (p.registers (call.address, digitRegister k)) := by
  have hcolon : lastValue (call.address, digitRegister k)
      (displayWrites (sevenSegmentSetColon p.driver call.address call.colonType).2) = none := by
    refine lastValue_eq_none ?_
    rintro w hw heq
    rw [setColon_register hw] at heq
    exact digitRegister_ne_colon k (congrArg Prod.snd heq).symm
  simp only [panelStep, Panel.transmit, call.run_eq, storeAll_apply, delivered_of_forall hbus,
    displayWrites_append, lastValue_append, hcolon, Option.none_or]

theorem panelStep_digits {content : Nat → UInt8} (p : Panel)
    (hdigits : displayWrites (call.digitEffects past) =
      (List.range' 0 4).map fun i => digitWrite call.address i (content i))
    (hbus : ∀ n, bus.arrives n = true) (hk : k < 4) :
    (panelStep past p (call, bus)).registers (call.address, digitRegister k) = content k := by
  rw [panelStep_digit past p call k hbus, hdigits, lastValue_digits content hk, Option.getD_some]

end

end WaterBall
