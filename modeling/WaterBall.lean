import WaterBall.Support.Region
import WaterBall.Support.Circular
import WaterBall.Support.BoundedFifo
import WaterBall.Support.LittleEndian
import WaterBall.Support.Runs
import WaterBall.Support.Mirror
import WaterBall.Support.Polling
import WaterBall.Support.RegisterFile
import WaterBall.Support.Rounding
import WaterBall.Support.Copying
import WaterBall.Support.Mailbox
import WaterBall.Support.ServedQueue
import WaterBall.Support.Countdown
import WaterBall.Support.Texts
import WaterBall.Support.Sessions
import WaterBall.Support.Awaited
import WaterBall.Display.SevenSegment
import WaterBall.Display.SegmentLaws
import WaterBall.Display.ColonCache
import WaterBall.Display.Text
import WaterBall.Display.Numbers
import WaterBall.Serial.Driver
import WaterBall.Serial.RingLaws
import WaterBall.Serial.RingRuns
import WaterBall.Serial.LineLaws
import WaterBall.Serial.StaleLines
import WaterBall.Storage.Driver
import WaterBall.Storage.ImageLaws
import WaterBall.Storage.UpdateSteps
import WaterBall.Storage.ImageRuns
import WaterBall.Storage.Durability
import WaterBall.Storage.PowerLoss
import WaterBall.Storage.FactoryReset
import WaterBall.Service.Events
import WaterBall.Service.Server
import WaterBall.Service.Registers
import WaterBall.Service.Requests
import WaterBall.Service.Client
import WaterBall.Service.ClientLaws
import WaterBall.Service.Copies
import WaterBall.Service.Discovery
import WaterBall.Game.Clock
import WaterBall.Game.ClockLaws
import WaterBall.Game.Device
import WaterBall.Game.DeviceLaws
import WaterBall.Game.WaterLaws
import WaterBall.Game.OwnSteps
import WaterBall.Game.Verdict
import WaterBall.Game.Timing
import WaterBall.Game.StateOrder
import WaterBall.Game.Polled
import WaterBall.Game.ScoreDisplay
import WaterBall.Game.Console
import WaterBall.Game.Readout
import WaterBall.Game.Log
import WaterBall.Pair.Link
import WaterBall.Pair.Messages
import WaterBall.Pair.Wiring
import WaterBall.Pair.Agreement
import WaterBall.Pair.Verdicts
import WaterBall.Pair.Handshake
import WaterBall.Pair.InOrder
import WaterBall.Pair.NilNil
import WaterBall.Serial.LineReads
import WaterBall.Serial.LineWrites
import WaterBall.Radio.Attempts
import WaterBall.Radio.Mirroring
import WaterBall.Radio.Roles
import WaterBall.Application.Dispatch
import WaterBall.Application.Links
import WaterBall.Application.Sessions
import WaterBall.Application.Players
import WaterBall.Bootloader.PeerData
import WaterBall.Bootloader.Handover
import WaterBall.Bootloader.Boot
import WaterBall.Bootloader.Transport
import WaterBall.Bootloader.DataLaws
import WaterBall.Bootloader.Transfer
import WaterBall.Bootloader.LinkLaws
