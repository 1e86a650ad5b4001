import WaterBall.Support.Region

/-!
# The serial driver

`serial.c`: bytes received by the SDK's UART are moved to a ring of 256 bytes
and read from there, either as they are or a line at a time. Indices and
sizes are `UInt32` as in the source, `sizeof` included, so that the index
arithmetic wraps where the source's does.

The UART of the SDK is a parameter, seen through the bytes its receive FIFO
holds. A copy that leaves the memory it was given is undefined, and a loop
counts down fuel that the laws show to be enough; both give `none`.
-/

namespace WaterBall

open Support

/-- `app_uart_get`, on the bytes that wait in the receive FIFO: it pops the
oldest byte, or fails and changes nothing. -/
structure AppUart where
  appUartGet : List UInt8 → Option UInt8 × List UInt8
  pops : ∀ byte rest, appUartGet (byte :: rest) = (some byte, rest)
  fails : appUartGet [] = (none, [])

def AppUart.fifo : AppUart where
  appUartGet
    | [] => (none, [])
    | byte :: rest => (some byte, rest)
  pops _ _ := rfl
  fails := rfl

inductive SerialState
  | init
  | closed
  | opened
  | error
  deriving DecidableEq, Repr

abbrev serialRxBufSize : Nat := 256

structure Serial where
  state : SerialState
  rxBuffer : Vector UInt8 serialRxBufSize
  rxBufferWriteI : UInt32
  rxBufferReadI : UInt32
  errCode : UInt32
  uartFifo : List UInt8
  deriving DecidableEq

-- ---------------------------------------------------------------------------
-- Index arithmetic
-- ---------------------------------------------------------------------------

def incrementBufferIndex (index count : UInt32) : UInt32 := (index + count) % 256

def bufferFilledCount (readI writeI : UInt32) : UInt32 := (writeI + 256 - readI) % 256

def isBufferFull (readI writeI : UInt32) : Bool := bufferFilledCount readI writeI == 256 - 1

def isBufferEmpty (readI writeI : UInt32) : Bool := readI == writeI

-- ---------------------------------------------------------------------------
-- States and events
-- ---------------------------------------------------------------------------

inductive UartEvent
  | txEmpty
  | communicationError (code : UInt32)
  | fifoError (code : UInt32)
  | other

def nrfErrorNoMem : UInt32 := 4

def serialEvtHandler (s : Serial) : UartEvent → Serial
  | .txEmpty => s
  | .communicationError code => { s with errCode := code }
  | .fifoError code =>
    { s with errCode := code, state := if nrfErrorNoMem != code then .error else s.state }
  | .other => s

def serialInit (s : Serial) : Serial :=
  { s with state := .init, rxBufferWriteI := 0, rxBufferReadI := 0 }

def serialTryClose (s : Serial) : Serial × Bool := ({ s with state := .closed }, true)

-- ---------------------------------------------------------------------------
-- From the FIFO to the ring
-- ---------------------------------------------------------------------------

def serialFifoLoop (uart : AppUart) : Nat → Serial → UInt32 → UInt32 × Serial
  | 0, s, newBytes => (newBytes, s)
  | fuel + 1, s, newBytes =>
    if isBufferFull s.rxBufferReadI s.rxBufferWriteI then (newBytes, s)
    else match uart.appUartGet s.uartFifo with
      | (some byte, rest) =>
        serialFifoLoop uart fuel
          { s with
            rxBuffer := s.rxBuffer.setIfInBounds s.rxBufferWriteI.toNat byte
            rxBufferWriteI := incrementBufferIndex s.rxBufferWriteI 1
            uartFifo := rest }
          (newBytes + 1)
      | (none, rest) => (newBytes, { s with uartFifo := rest })

/-- The new bytes, and the state after them. Every round but the last fills a
byte of the ring, so there are no more rounds than bytes. -/
def serialFifoToRxBuffer (uart : AppUart) (s : Serial) : UInt32 × Serial :=
  serialFifoLoop uart serialRxBufSize s 0

def serialTasks (uart : AppUart) (s : Serial) : Option Serial :=
  match s.state with
  | .init => some { s with state := .closed }
  | .closed => some s
  | .opened => some (serialFifoToRxBuffer uart s).2
  | .error => none

-- ---------------------------------------------------------------------------
-- From the ring to the caller
-- ---------------------------------------------------------------------------

/-- The bytes copied to the caller's buffer, in two segments when the ring
rolls over, and the buffer after it. -/
def serialCopyRxBuffer (s : Serial) (pBuffer : List UInt8) (size : UInt32) :
    Option (UInt32 × List UInt8) :=
  let writeI := s.rxBufferWriteI
  let readI := s.rxBufferReadI
  if isBufferEmpty readI writeI || size == 0 then some (0, pBuffer)
  else do
    let returnSize := min (bufferFilledCount readI writeI) size
    let readSize := min returnSize (256 - readI)
    let first ← Region.read s.rxBuffer.toList readI.toNat readSize.toNat
    let pBuffer ← Region.write pBuffer 0 first
    let rest := returnSize - readSize
    let second ← Region.read s.rxBuffer.toList 0 rest.toNat
    let pBuffer ← Region.write pBuffer readSize.toNat second
    return (returnSize, pBuffer)

def serialReadExisting (s : Serial) (pBuffer : List UInt8) (size : UInt32) :
    Option (UInt32 × Serial × List UInt8) := do
  let (returnSize, pBuffer) ← serialCopyRxBuffer s pBuffer size
  let s := if 0 < returnSize then
      { s with rxBufferReadI := incrementBufferIndex s.rxBufferReadI returnSize }
    else s
  return (returnSize, s, pBuffer)

/-- `strpbrk`: where the C string that starts the region has its first byte of
`accept`. `none` is a string that the region does not end. -/
def strpbrk (accept : List UInt8) : List UInt8 → Option (Option Nat)
  | [] => none
  | byte :: rest =>
    if byte = 0 then some none
    else if byte ∈ accept then some (some 0)
    else (strpbrk accept rest).map (Option.map (· + 1))

def lineEnds : List UInt8 := [0x0D, 0x0A]

/-- How the scan of `serial_try_read_line` ends: with no bytes at all, or with
what the last search found. -/
inductive LineScan
  | empty (s : Serial) (pBuffer : List UInt8)
  | done (s : Serial) (pBuffer : List UInt8) (carriageReturn : Option Nat)

def serialScanLine (uart : AppUart) (size : UInt32) :
    Nat → Serial → List UInt8 → Option LineScan
  | 0, _, _ => none
  | fuel + 1, s, pBuffer => do
    let (returnSize, pBuffer) ← serialCopyRxBuffer s pBuffer size
    if returnSize = 0 then return .empty s pBuffer
    let carriageReturn ← strpbrk lineEnds pBuffer
    if carriageReturn.isNone && isBufferFull s.rxBufferReadI s.rxBufferWriteI then
      -- Drop the oldest byte and scan again if another one takes its place.
      let s := { s with rxBufferReadI := incrementBufferIndex s.rxBufferReadI 1 }
      let (newBytes, s) := serialFifoToRxBuffer uart s
      if 0 < newBytes then serialScanLine uart size fuel s pBuffer
      else return .done s pBuffer carriageReturn
    else return .done s pBuffer carriageReturn

/-- The size of the line, with one added to make sure the newline is returned. -/
def lineSize : Option Nat → UInt32
  | some i => UInt32.ofNat i + 1
  | none => 0

def serialTakeLine : LineScan → Option (UInt32 × Serial × List UInt8)
  | .empty s pBuffer => some (0, s, pBuffer)
  | .done s pBuffer carriageReturn => do
    let returnSize := lineSize carriageReturn
    let zeros := List.replicate (256 - returnSize).toNat 0
    let pBuffer ← Region.write pBuffer returnSize.toNat zeros
    let s := if 0 < returnSize then
        { s with rxBufferReadI := incrementBufferIndex s.rxBufferReadI returnSize }
      else s
    return (returnSize, s, pBuffer)

/-- Every round but the last takes a byte from the FIFO, so there are no more
rounds than bytes in it and one. -/
def serialTryReadLine (uart : AppUart) (s : Serial) (pBuffer : List UInt8) (size : UInt32) :
    Option (UInt32 × Serial × List UInt8) := do
  serialTakeLine (← serialScanLine uart size (s.uartFifo.length + 1) s pBuffer)

end WaterBall
