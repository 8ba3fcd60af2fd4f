import RcController.Lib.DeviceProg
import RcController.Lib.Pass
import RcController.Lib.FirstFit
import RcController.Lib.Limited
import RcController.Lib.Placement
import RcController.Lib.WrapClock
import RcController.Lib.Runs
import RcController.Lib.Keyed
import RcController.Lib.BoundedMap
import RcController.Lib.Curve
import RcController.Lib.Json
import RcController.Lib.JsonDoc
import RcController.Lib.Watchdog
import RcController.Lib.Leases
import RcController.Lib.UrlForm
import RcController.Lib.FirstBest
import RcController.Model.Sketch
import RcController.Model.StateService
import RcController.Model.Bluepad
import RcController.Model.Loop
import RcController.Model.Page
import RcController.Model.WebServer
import RcController.Signals.Mixer
import RcController.Signals.Response
import RcController.Signals.Neutral
import RcController.Signals.Toggle
import RcController.Signals.Alike
import RcController.Service.Json
import RcController.Service.Writing
import RcController.Service.Activity
import RcController.Service.Request
import RcController.Service.Replies
import RcController.Service.Learn
import RcController.Store.Names
import RcController.Store.Shelf
import RcController.Store.Delete
import RcController.Store.Interrupted
import RcController.Store.Map
import RcController.Store.Reads
import RcController.Store.Load
import RcController.Store.Save
import RcController.Store.Sanitized
import RcController.Store.Suggest
import RcController.Store.Writes
import RcController.Wiring.RoundTrip
import RcController.Wiring.Edit
import RcController.Wiring.Tweak
import RcController.Wiring.Managed
import RcController.Wiring.Rollback
import RcController.Wiring.Failsafe
import RcController.Wiring.Remap
import RcController.Wiring.Ranges
import RcController.Wiring.Capacity
import RcController.Wiring.Rejected
import RcController.Wiring.Saved
import RcController.Wiring.Pulse
import RcController.Signals.Rejected
import RcController.Device.Handlers
import RcController.Device.Servos
import RcController.Device.Failsafe
import RcController.Device.Models
import RcController.Device.Names
import RcController.Device.Scan
import RcController.Device.Boot
import RcController.Device.Ranges
import RcController.Device.Created
import RcController.Device.Rejected
import RcController.Device.Saved
import RcController.Device.AccessPoint
import RcController.Device.Fresh
import RcController.Device.Telemetry
import RcController.Device.Pairing
import RcController.Device.Credentials
import RcController.Device.Partial
import RcController.Device.Payloads
import RcController.Device.Loop
import RcController.Device.Deadline
import RcController.Device.Seats
import RcController.Device.Packets
import RcController.Device.Swap
import RcController.Device.Web
import RcController.Device.Controls
import RcController.Device.Editor
import RcController.Device.Resave
