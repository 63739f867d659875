import HatchSensor.Bench.Action
import HatchSensor.Bench.Clock
import HatchSensor.Bench.Cloud
import HatchSensor.Bench.Link
import HatchSensor.Bench.Run
import HatchSensor.Bench.Sensor
import HatchSensor.Bench.Transport
import HatchSensor.Bench.World
import HatchSensor.Blob.Map
import HatchSensor.Blob.Store
import HatchSensor.Board.Assembly
import HatchSensor.Board.Broker
import HatchSensor.Board.Button
import HatchSensor.Board.Clock
import HatchSensor.Board.Firmware
import HatchSensor.Board.FlashStore
import HatchSensor.Board.Gatt
import HatchSensor.Board.Inbox
import HatchSensor.Board.Platform
import HatchSensor.Board.Power
import HatchSensor.Board.Radio
import HatchSensor.Board.Sensor
import HatchSensor.Board.Startup
import HatchSensor.Board.Transport
import HatchSensor.Button.Detector
import HatchSensor.Button.Monitor
import HatchSensor.Bytes
import HatchSensor.Calendar
import HatchSensor.Clock
import HatchSensor.Device.Cycle
import HatchSensor.Device.Lifecycle
import HatchSensor.Device.Link
import HatchSensor.Device.Phase
import HatchSensor.Device.Surroundings
import HatchSensor.Hatch.Config
import HatchSensor.Hatch.Record
import HatchSensor.Hatch.Store
import HatchSensor.Hatch.Thresholds
import HatchSensor.Identity.Credentials
import HatchSensor.Identity.Store
import HatchSensor.Identity.Uuid
import HatchSensor.Json.Printer
import HatchSensor.Json.Reader
import HatchSensor.Json.Value
import HatchSensor.Main
import HatchSensor.Number.Binary
import HatchSensor.Number.Double
import HatchSensor.Number.Layout
import HatchSensor.Number.Shortest
import HatchSensor.Number.Single
import HatchSensor.Program
import HatchSensor.Proofs.Accounts
import HatchSensor.Proofs.Acknowledged
import HatchSensor.Proofs.AppendCourse
import HatchSensor.Proofs.BenchParts
import HatchSensor.Proofs.BenchRuns
import HatchSensor.Proofs.Blobs
import HatchSensor.Proofs.Boot
import HatchSensor.Proofs.Brackets
import HatchSensor.Proofs.BrokerAcknowledgements
import HatchSensor.Proofs.ButtonBits
import HatchSensor.Proofs.Bytes
import HatchSensor.Proofs.Commands
import HatchSensor.Proofs.Conduct
import HatchSensor.Proofs.ConfigKept
import HatchSensor.Proofs.Consulting
import HatchSensor.Proofs.CredentialPayload
import HatchSensor.Proofs.CredentialsInForce
import HatchSensor.Proofs.DeepSleep
import HatchSensor.Proofs.Dialogue
import HatchSensor.Proofs.DurableIdentity
import HatchSensor.Proofs.ExchangeCourse
import HatchSensor.Proofs.FailedOpening
import HatchSensor.Proofs.FlashArea
import HatchSensor.Proofs.Footprints
import HatchSensor.Proofs.FramedWrites
import HatchSensor.Proofs.FriendlyBench
import HatchSensor.Proofs.FriendlyPhases
import HatchSensor.Proofs.HatchInForce
import HatchSensor.Proofs.HatchOfReadings
import HatchSensor.Proofs.HatchRecord
import HatchSensor.Proofs.HeldButton
import HatchSensor.Proofs.HelpfulWorld
import HatchSensor.Proofs.Holdings
import HatchSensor.Proofs.InterruptedReset
import HatchSensor.Proofs.InterruptedSave
import HatchSensor.Proofs.Life
import HatchSensor.Proofs.LogKept
import HatchSensor.Proofs.LogRecovery
import HatchSensor.Proofs.LogReplay
import HatchSensor.Proofs.LongWrites
import HatchSensor.Proofs.MessageMembers
import HatchSensor.Proofs.ModemOwnership
import HatchSensor.Proofs.NamedRequests
import HatchSensor.Proofs.NotedWorld
import HatchSensor.Proofs.Numerals
import HatchSensor.Proofs.PhaseNeeds
import HatchSensor.Proofs.PhaseRows
import HatchSensor.Proofs.PhaseTable
import HatchSensor.Proofs.PressRuns
import HatchSensor.Proofs.PrintedJson
import HatchSensor.Proofs.PrintedNumbers
import HatchSensor.Proofs.PublishCounters
import HatchSensor.Proofs.Publishing
import HatchSensor.Proofs.RadioConduct
import HatchSensor.Proofs.RadioSessions
import HatchSensor.Proofs.Reached
import HatchSensor.Proofs.ReadingRecords
import HatchSensor.Proofs.Reassembly
import HatchSensor.Proofs.Received
import HatchSensor.Proofs.Refinement
import HatchSensor.Proofs.Secrecy
import HatchSensor.Proofs.Session
import HatchSensor.Proofs.ShadowContents
import HatchSensor.Proofs.ShadowExchange
import HatchSensor.Proofs.ShadowMerge
import HatchSensor.Proofs.SharedRegister
import HatchSensor.Proofs.ShortestDecimals
import HatchSensor.Proofs.Signals
import HatchSensor.Proofs.SimulatedHatch
import HatchSensor.Proofs.SimulatedLife
import HatchSensor.Proofs.SoundConfig
import HatchSensor.Proofs.StableRecord
import HatchSensor.Proofs.StoredConfig
import HatchSensor.Proofs.StoredCredentials
import HatchSensor.Proofs.StoredIdentity
import HatchSensor.Proofs.SurvivingCredentials
import HatchSensor.Proofs.Trimming
import HatchSensor.Proofs.Undisturbed
import HatchSensor.Proofs.Unrequested
import HatchSensor.Proofs.UuidSpellings
import HatchSensor.Proofs.Waits
import HatchSensor.Proofs.Wakeups
import HatchSensor.Proofs.World
import HatchSensor.Provisioning.Message
import HatchSensor.Provisioning.Reply
import HatchSensor.Provisioning.Session
import HatchSensor.Reading.Basic
import HatchSensor.Reading.Log
import HatchSensor.Reading.Message
import HatchSensor.Sha256
import HatchSensor.Shadow.Document
import HatchSensor.Shadow.Exchange
import HatchSensor.Signals.Bits
import HatchSensor.Signals.Register
import HatchSensor.Signals.Waits
import HatchSensor.Simulator.Chance
import HatchSensor.Simulator.Options
import HatchSensor.Simulator.Run
import HatchSensor.Simulator.Walk
import HatchSensor.Stand.Chip
import HatchSensor.Stand.PowerOn
import HatchSensor.Stand.Script
import HatchSensor.Stand.Transcript
import HatchSensor.Text.Blank
import HatchSensor.Text.Numeral
import HatchSensor.Text.Quoted
import HatchSensor.Timeline
