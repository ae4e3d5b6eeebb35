import ScreenCapture.Capture.Session
import ScreenCapture.Display.Json
import ScreenCapture.Frame.Json
import ScreenCapture.Frame.Script
import ScreenCapture.Main
import ScreenCapture.Proofs.RegistryLaws
import ScreenCapture.Proofs.Feed
import ScreenCapture.Proofs.Hosting
import ScreenCapture.Proofs.Rendering
import ScreenCapture.Proofs.Reading
import ScreenCapture.Proofs.TearDown
import ScreenCapture.Proofs.SetUp
import ScreenCapture.Proofs.Holding
import ScreenCapture.Proofs.Managing
import ScreenCapture.Proofs.Replacing
import ScreenCapture.Proofs.Capturing
import ScreenCapture.Proofs.Consistency
import ScreenCapture.Proofs.Delivery
import ScreenCapture.Proofs.HandOff
import ScreenCapture.Proofs.EventLog
import ScreenCapture.Proofs.Calls
import ScreenCapture.Proofs.Accounting
import ScreenCapture.Proofs.Holders
import ScreenCapture.Proofs.Ledger
import ScreenCapture.Proofs.Passing
import ScreenCapture.Proofs.Stakes
import ScreenCapture.Proofs.Sharing
import ScreenCapture.Proofs.QueueCalls
import ScreenCapture.Proofs.SlotDiscipline
import ScreenCapture.Proofs.Announcements
import ScreenCapture.Proofs.WireFormat
import ScreenCapture.Proofs.Pairing
import ScreenCapture.Proofs.Describing
import ScreenCapture.Proofs.Listening
import ScreenCapture.Proofs.Settings
import ScreenCapture.Proofs.Looping
import ScreenCapture.Proofs.Running
import ScreenCapture.Proofs.Misuse
import ScreenCapture.Proofs.Overlap
import ScreenCapture.Proofs.Atomicity
import ScreenCapture.Proofs.StatusNames
import ScreenCapture.Proofs.Kinship
import ScreenCapture.Proofs.Twins
import ScreenCapture.Proofs.Retrying
import ScreenCapture.Proofs.Isolation
import ScreenCapture.Proofs.Decoding
import ScreenCapture.Proofs.Fates
import ScreenCapture.Proofs.Abandonment
import ScreenCapture.Proofs.Publishing
import ScreenCapture.Proofs.Ranges
import ScreenCapture.Proofs.Slicing
import ScreenCapture.Proofs.Containment
import ScreenCapture.Proofs.Drawing
import ScreenCapture.Proofs.Numerals
import ScreenCapture.Proofs.Spelling
import ScreenCapture.Proofs.Turning
import ScreenCapture.Proofs.Waking
import ScreenCapture.Proofs.Restating
