import WaterBall.Support.RegisterFile

/-!
# The seven-segment displays

`seven_segment.c` over `i2c.c`. The driver turns numbers and text into writes
to the registers of two HT16K33 displays and leaves out the colon when it was
asked for the same one before. Its functions give their effects: the writes,
and the entries of the font that they look up.

A panel is the driver with the registers of both displays behind the bus,
where a write that is given up changes nothing.
-/

namespace WaterBall

open Support RegisterFile

-- ---------------------------------------------------------------------------
-- Addresses and tables
-- ---------------------------------------------------------------------------

inductive ColonType
  | none
  | colon
  | topLeft
  | bottomLeft
  | topRight
  deriving DecidableEq, Repr

def ColonType.value : ColonType → UInt8
  | none => 0
  | colon => 2
  | topLeft => 4
  | bottomLeft => 8
  | topRight => 16

def ht16k33BaseAddress : UInt8 := 0x70
def timeAddress : UInt8 := 0x70
def scoreAddress : UInt8 := 0x71

def ht16k33OscOn : UInt8 := 0x21
def ht16k33DisplayOn : UInt8 := 0x81
def ht16k33Dim : UInt8 := 0xE0

structure DisplayAddress where
  value : UInt8
  isDisplay : value = timeAddress ∨ value = scoreAddress
  deriving DecidableEq

def DisplayAddress.time : DisplayAddress := ⟨timeAddress, .inl rfl⟩
def DisplayAddress.score : DisplayAddress := ⟨scoreAddress, .inr rfl⟩

def DisplayAddress.ofValue? (value : UInt8) : Option DisplayAddress :=
  if h : value = timeAddress ∨ value = scoreAddress then some ⟨value, h⟩ else none

def DisplayAddress.index (address : DisplayAddress) : Fin 2 :=
  ⟨(address.value - ht16k33BaseAddress).toNat, by
    rcases address with ⟨_, rfl | rfl⟩ <;> decide⟩

def numberTable : Vector UInt8 17 :=
  #v[0x3F, 0x06, 0x5B, 0x4F, 0x66, 0x6D, 0x7D, 0x07, 0x7F, 0x6F, 0x77, 0x7C, 0x39, 0x5E, 0x79, 0x71,
    0x00]

def alphafontTable : Vector UInt16 128 :=
  #v[0x00, 0x01, 0x02, 0x04, 0x08, 0x10, 0x20, 0x40, 0x80, 0x00, 0x00, 0x00, 0x00, 0x00, 0x00, 0x00,
    0x00, 0x00, 0x00, 0x00, 0x00, 0x00, 0x00, 0x00, 0x00, 0x00, 0x00, 0x00, 0x00, 0x00, 0x00, 0x00,
    0x00, 0x00, 0x00, 0x00, 0x00, 0x00, 0x00, 0x00, 0x00, 0x00, 0x00, 0x00, 0x00, 0x00, 0x00, 0x00,
    0x3F, 0x06, 0x5B, 0x4F, 0x66, 0x6D, 0x7D, 0x07, 0x7F, 0x6F, 0x00, 0x00, 0x00, 0x00, 0x00, 0x00,
    0x00, 0xF7, 0x7F, 0x69, 0x3F, 0x79, 0x71, 0x7D, 0xF6, 0x06, 0x0E, 0x70, 0x38, 0x36, 0x37, 0x3F,
    0xF3, 0x3F, 0xF3, 0xED, 0x01, 0x3E, 0x30, 0x3C, 0x00, 0x6E, 0x09, 0x00, 0x00, 0x00, 0x00, 0x00,
    0x00, 0x58, 0x78, 0xD8, 0x5E, 0x58, 0x71, 0x8E, 0x70, 0x04, 0x0E, 0x00, 0x06, 0xD4, 0x54, 0x5C,
    0x70, 0x86, 0x50, 0x88, 0x78, 0x1C, 0x04, 0x14, 0xC0, 0x0C, 0x48, 0x49, 0x00, 0x00, 0x00, 0x00]

-- ---------------------------------------------------------------------------
-- Effects of the driver
-- ---------------------------------------------------------------------------

structure SetValue where
  digits : Vector UInt8 4
  colon : UInt8
  deriving DecidableEq

structure SevenSegment where
  setValues : Vector SetValue 2
  deriving DecidableEq

def SevenSegment.colon (s : SevenSegment) (address : DisplayAddress) : UInt8 :=
  s.setValues[address.index].colon

def SevenSegment.storeColon (s : SevenSegment) (address : DisplayAddress) (colon : UInt8) :
    SevenSegment :=
  { setValues := s.setValues.set address.index { s.setValues[address.index] with colon } }

inductive SegmentEffect
  | alphafontLookup (index : Nat)
  | i2cByteWrite (address : DisplayAddress) (data : UInt8)
  | i2cDataWrite (address : DisplayAddress) (register data : UInt8)
  deriving DecidableEq

/-- The bytes of a C string before its NUL. -/
structure CString where
  bytes : List UInt8
  noNul : 0 ∉ bytes
  deriving DecidableEq

-- ---------------------------------------------------------------------------
-- Digits
-- ---------------------------------------------------------------------------

def sevenSegmentSetDigitRaw (address : DisplayAddress) (digit data : UInt8) : List SegmentEffect :=
  if 4 < digit then []
  else
    -- The colon is at position 2.
    let digit := if 1 < digit then digit + 1 else digit
    [.i2cDataWrite address (digit <<< 1) data]

def sevenSegmentBlankDigit (address : DisplayAddress) (digit : UInt8) : List SegmentEffect :=
  sevenSegmentSetDigitRaw address digit 0x00

def sevenSegmentSetDigit (address : DisplayAddress) (digit data : UInt8) : List SegmentEffect :=
  if h : 0x10 < data then []
  else sevenSegmentSetDigitRaw address digit
    (numberTable.get ⟨data.toNat, Nat.lt_succ_of_le (UInt8.not_lt.mp h)⟩)

/-- `sizeof(alphafont_table)`, whose entries have two bytes. -/
def sizeofAlphafontTable : Nat := alphafontTable.size * 2

section
variable (past : UInt8 → UInt16)

/-- The entry of the font at an index; behind the table is what the memory has there. -/
def alphafontEntry (data : UInt8) : UInt16 := alphafontTable[data.toNat]?.getD (past data)

def sevenSegmentSetCharDigit (address : DisplayAddress) (digit data : UInt8) :
    List SegmentEffect :=
  if sizeofAlphafontTable ≤ data.toNat then []
  else .alphafontLookup data.toNat ::
    sevenSegmentSetDigitRaw address digit (alphafontEntry past data).toUInt8

-- ---------------------------------------------------------------------------
-- Displays
-- ---------------------------------------------------------------------------

/-- It writes only a colon that differs from the one it was asked for last. -/
def sevenSegmentSetColon (s : SevenSegment) (address : DisplayAddress) (colonType : ColonType) :
    SevenSegment × List SegmentEffect :=
  if s.colon address = colonType.value then (s, [])
  else (s.storeColon address colonType.value, [.i2cDataWrite address 0x04 colonType.value])

def sevenSegmentSetDigits (s : SevenSegment) (address : DisplayAddress)
    (digit0 digit1 digit2 digit3 : UInt8) (colonType : ColonType) :
    SevenSegment × List SegmentEffect :=
  let (s, colon) := sevenSegmentSetColon s address colonType
  (s, sevenSegmentSetDigit address 0 digit0 ++ sevenSegmentSetDigit address 1 digit1 ++
    sevenSegmentSetDigit address 2 digit2 ++ sevenSegmentSetDigit address 3 digit3 ++ colon)

def sevenSegmentSetNumbers (s : SevenSegment) (address : DisplayAddress) (left right : UInt8)
    (colonType : ColonType) : SevenSegment × List SegmentEffect :=
  sevenSegmentSetDigits s address (left / 10) (left % 10) (right / 10) (right % 10) colonType

/-- `for (; i < stop; i++)`, blanking digit `i`. -/
def blankLoop (address : DisplayAddress) (i stop : Nat) : List SegmentEffect :=
  (List.range' i (stop - i)).flatMap fun i => sevenSegmentBlankDigit address i.toUInt8

/-- `for (; (i < 4) && (string[j] != 0); i++, j++)`, setting digit `i`, and the
`i` it ends with. -/
def charLoop (address : DisplayAddress) (i : Nat) : List UInt8 → Nat × List SegmentEffect
  | [] => (i, [])
  | data :: string =>
    if i < 4 then
      let (last, effects) := charLoop address (i + 1) string
      (last, sevenSegmentSetCharDigit past address i.toUInt8 data ++ effects)
    else (i, [])

def sevenSegmentSetCharDigits (s : SevenSegment) (address : DisplayAddress) (startDigit : UInt8)
    (string : CString) (colonType : ColonType) : SevenSegment × List SegmentEffect :=
  let (i, chars) := charLoop past address startDigit.toNat string.bytes
  let (s, colon) := sevenSegmentSetColon s address colonType
  (s, blankLoop address 0 startDigit.toNat ++ chars ++ blankLoop address i 4 ++ colon)

end

def sevenSegmentBlankDigits (s : SevenSegment) (address : DisplayAddress) :
    SevenSegment × List SegmentEffect :=
  let (s, colon) := sevenSegmentSetColon s address .none
  (s, blankLoop address 0 4 ++ colon)

def sevenSegmentStart (s : SevenSegment) (address : DisplayAddress) :
    SevenSegment × List SegmentEffect :=
  let (s, blank) := sevenSegmentBlankDigits s address
  (s, [.i2cByteWrite address ht16k33OscOn, .i2cByteWrite address ht16k33DisplayOn,
    .i2cByteWrite address (ht16k33Dim + 15)] ++ blank)

/-- `set_values` is filled with `0xFF` first, which is no colon type. -/
def sevenSegmentInit : SevenSegment × List SegmentEffect :=
  let s : SevenSegment := ⟨.replicate 2 ⟨.replicate 4 0xFF, 0xFF⟩⟩
  let (s, time) := sevenSegmentStart s .time
  let (s, score) := sevenSegmentStart s .score
  (s, time ++ score)

-- ---------------------------------------------------------------------------
-- The bus
-- ---------------------------------------------------------------------------

def numTries : Nat := 50

/-- The loop of `i2c_data_write` with `i` tries left; `tx` says which tries succeed. -/
def i2cTries (tx : Nat → Bool) (tried : Nat) : Nat → Bool
  | 0 => false
  | i + 1 => tx tried || i2cTries tx (tried + 1) i

/-- Whether the data gets to the display. The caller is not told. -/
def i2cDataWrite (tx : Nat → Bool) : Bool := i2cTries tx 0 numTries

/-- The tries of every data write of a call, in the order of the writes. -/
abbrev Bus := Nat → Nat → Bool

def Bus.arrives (bus : Bus) (n : Nat) : Bool := i2cDataWrite (bus n)

abbrev DisplayWrite := Write (DisplayAddress × UInt8) UInt8

def SegmentEffect.write? : SegmentEffect → Option DisplayWrite
  | .i2cDataWrite address register data => some ⟨(address, register), data⟩
  | _ => none

def displayWrites (effects : List SegmentEffect) : List DisplayWrite :=
  effects.filterMap SegmentEffect.write?

-- ---------------------------------------------------------------------------
-- The panel
-- ---------------------------------------------------------------------------

inductive DisplayCall
  | setDigits (address : DisplayAddress) (digit0 digit1 digit2 digit3 : UInt8)
      (colonType : ColonType)
  | setNumbers (address : DisplayAddress) (left right : UInt8) (colonType : ColonType)
  | setCharDigits (address : DisplayAddress) (startDigit : UInt8) (string : CString)
      (colonType : ColonType)
  | blankDigits (address : DisplayAddress)
  deriving DecidableEq

def DisplayCall.address : DisplayCall → DisplayAddress
  | setDigits address .. => address
  | setNumbers address .. => address
  | setCharDigits address .. => address
  | blankDigits address => address

def DisplayCall.colonType : DisplayCall → ColonType
  | setDigits _ _ _ _ _ colonType => colonType
  | setNumbers _ _ _ colonType => colonType
  | setCharDigits _ _ _ colonType => colonType
  | blankDigits _ => .none

def DisplayCall.run (past : UInt8 → UInt16) (s : SevenSegment) :
    DisplayCall → SevenSegment × List SegmentEffect
  | setDigits address digit0 digit1 digit2 digit3 colonType =>
    sevenSegmentSetDigits s address digit0 digit1 digit2 digit3 colonType
  | setNumbers address left right colonType =>
    sevenSegmentSetNumbers s address left right colonType
  | setCharDigits address startDigit string colonType =>
    sevenSegmentSetCharDigits past s address startDigit string colonType
  | blankDigits address => sevenSegmentBlankDigits s address

structure Panel where
  driver : SevenSegment
  registers : DisplayAddress × UInt8 → UInt8

def Panel.transmit (bus : Bus) (registers : DisplayAddress × UInt8 → UInt8)
    (result : SevenSegment × List SegmentEffect) : Panel where
  driver := result.1
  registers := storeAll registers (delivered bus.arrives (displayWrites result.2))

def panelStep (past : UInt8 → UInt16) (p : Panel) (call : DisplayCall × Bus) : Panel :=
  .transmit call.2 p.registers (call.1.run past p.driver)

def panelRun (past : UInt8 → UInt16) (p : Panel) (calls : List (DisplayCall × Bus)) : Panel :=
  calls.foldl (panelStep past) p

/-- The panel after `seven_segment_init`, from any content of the displays. -/
def panelBoot (bus : Bus) (registers : DisplayAddress × UInt8 → UInt8) : Panel :=
  .transmit bus registers sevenSegmentInit

end WaterBall
