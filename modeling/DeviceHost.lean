import DeviceHost.Http.Server
import DeviceHost.Main
import DeviceHost.Profile.Tree
import DeviceHost.Proofs.Store
import DeviceHost.Proofs.NameIndex
import DeviceHost.Proofs.Activity
import DeviceHost.Proofs.Trace
import DeviceHost.Proofs.Notification
import DeviceHost.Proofs.Profiles
import DeviceHost.Proofs.Listening
import DeviceHost.Proofs.Mirror
import DeviceHost.Proofs.Reachable
import DeviceHost.Proofs.Departure
import DeviceHost.Proofs.Resolution
import DeviceHost.Proofs.Writing
import DeviceHost.Proofs.Reading
import DeviceHost.Proofs.Traffic
import DeviceHost.Proofs.Sessions
import DeviceHost.Proofs.Consent
import DeviceHost.Proofs.Json
import DeviceHost.Proofs.Octets
import DeviceHost.Proofs.Buffering
import DeviceHost.Proofs.DeviceList
import DeviceHost.Proofs.Documents
import DeviceHost.Proofs.Contents
import DeviceHost.Proofs.Alike
import DeviceHost.Proofs.Restart
import DeviceHost.Proofs.Uploads
import DeviceHost.Proofs.Callback
import DeviceHost.Proofs.Redelivery
import DeviceHost.Proofs.Commuting
import DeviceHost.Proofs.FailedStart
import DeviceHost.Proofs.Base64
import DeviceHost.Proofs.Integers
import DeviceHost.Proofs.ValueText
import DeviceHost.Proofs.Recall
import DeviceHost.Proofs.Recollection
import DeviceHost.Proofs.Folders
import DeviceHost.Proofs.Handover
import DeviceHost.Proofs.JsonNumbers
import DeviceHost.Proofs.Assignment
import DeviceHost.Proofs.DocumentOrder
import DeviceHost.Proofs.Rearrangement
import DeviceHost.Proofs.Percent
import DeviceHost.Proofs.Addressing
import DeviceHost.Proofs.Drivers
import DeviceHost.Proofs.Registrations
import DeviceHost.Proofs.Layers
import DeviceHost.Proofs.Printing
import DeviceHost.Proofs.WriteBodies
