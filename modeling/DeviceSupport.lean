import DeviceSupport.LogFilter
import DeviceSupport.Main
import DeviceSupport.Message.Envelope
import DeviceSupport.Proofs.Bytes.Field
import DeviceSupport.Proofs.Bytes.Walk
import DeviceSupport.Proofs.Package.Image
import DeviceSupport.Proofs.Package.Grammar
import DeviceSupport.Proofs.Package.Layout
import DeviceSupport.Proofs.Package.RoundTrip
import DeviceSupport.Proofs.Dispatch.Recording
import DeviceSupport.Proofs.Dispatch.Trial
import DeviceSupport.Proofs.Buffer
import DeviceSupport.Proofs.Dispatch.Entry
import DeviceSupport.Proofs.Dispatch.Fallback
import DeviceSupport.Proofs.Dispatch.Answer
import DeviceSupport.Proofs.Package.Truncation
import DeviceSupport.Proofs.Dispatch.Restoration
import DeviceSupport.Proofs.Message
import DeviceSupport.Proofs.Dispatch.Conversion
import DeviceSupport.Proofs.Dispatch.Effects
import DeviceSupport.Proofs.Dispatch.Writes
import DeviceSupport.Proofs.Profile.Positions
import DeviceSupport.Proofs.Registry.History
import DeviceSupport.Proofs.Registry.Best
import DeviceSupport.Proofs.Participants
import DeviceSupport.Proofs.Context.Operations
import DeviceSupport.Proofs.Context.Binding
import DeviceSupport.Proofs.Action.Expansion
import DeviceSupport.Proofs.Dispatch.Configuration
import DeviceSupport.Proofs.Context.Configuration
import DeviceSupport.Proofs.Profile.Duplicates
import DeviceSupport.Proofs.Registry.Handles
import DeviceSupport.Proofs.Context.Creation
import DeviceSupport.Proofs.Context.Lifecycle
import DeviceSupport.Proofs.Buffer.History
import DeviceSupport.Proofs.Package.Offsets
import DeviceSupport.Proofs.Files.Path
import DeviceSupport.Proofs.Json.RoundTrip
import DeviceSupport.Proofs.Files.Directory
import DeviceSupport.Proofs.Loader.Directory
import DeviceSupport.Proofs.Settings.Saving
import DeviceSupport.Proofs.Message.Windows
import DeviceSupport.Proofs.Dispatch.Capacity
import DeviceSupport.Proofs.Dispatch.Types
import DeviceSupport.Proofs.Context.Changes
import DeviceSupport.Proofs.Units.Reading
import DeviceSupport.Proofs.Units.Power
import DeviceSupport.Proofs.Units.Time
import DeviceSupport.Proofs.Units.Range
import DeviceSupport.Proofs.Selection.Relaxation
import DeviceSupport.Proofs.Action.Names
import DeviceSupport.Proofs.Action.Store
import DeviceSupport.Proofs.Package.Container
import DeviceSupport.Proofs.Package.Texts
import DeviceSupport.Proofs.Message.Loopback
import DeviceSupport.Proofs.Files.Making
import DeviceSupport.Proofs.Settings.Cache
import DeviceSupport.Proofs.Bytes.Tiling
