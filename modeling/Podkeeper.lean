import Podkeeper.Engine.Containers
import Podkeeper.Engine.Exchange
import Podkeeper.Engine.Host
import Podkeeper.Main
import Podkeeper.Pod.Manifest
import Podkeeper.Simulation.World
import Podkeeper.Proofs.Locks.Table
import Podkeeper.Proofs.Interleaving.System
import Podkeeper.Proofs.Interleaving.Conduct
import Podkeeper.Proofs.Interleaving.Turns
import Podkeeper.Proofs.Interleaving.Serial
import Podkeeper.Proofs.Interleaving.Ownership
import Podkeeper.Proofs.Interleaving.Requests
import Podkeeper.Proofs.Files.Containment
import Podkeeper.Proofs.Pods.Admission
import Podkeeper.Proofs.Pods.Mounts
import Podkeeper.Proofs.Interleaving.Worlds
import Podkeeper.Proofs.Files.Trees
import Podkeeper.Proofs.Files.Effects
import Podkeeper.Proofs.Pods.Volumes
import Podkeeper.Proofs.Pods.Namespaces
import Podkeeper.Proofs.Lifecycle.Traces
import Podkeeper.Proofs.Lifecycle.Creating
import Podkeeper.Proofs.Lifecycle.Deleting
import Podkeeper.Proofs.Lifecycle.Reading
import Podkeeper.Proofs.Pods.ContainerNames
import Podkeeper.Proofs.Lifecycle.Entries
import Podkeeper.Proofs.Interleaving.Calls
import Podkeeper.Proofs.Interleaving.Deletes
import Podkeeper.Proofs.Interleaving.Files
import Podkeeper.Proofs.Interleaving.Reports
import Podkeeper.Proofs.Interleaving.Recreation
import Podkeeper.Proofs.Interleaving.Completion
import Podkeeper.Proofs.Interleaving.Dropping
import Podkeeper.Proofs.Interleaving.Clients
import Podkeeper.Proofs.Interleaving.Disconnects
import Podkeeper.Proofs.Pods.Bundles
import Podkeeper.Proofs.Pods.Confinement
import Podkeeper.Proofs.Requests.Wire
import Podkeeper.Proofs.Requests.References
import Podkeeper.Proofs.Text.Order
import Podkeeper.Proofs.Pods.Keys
import Podkeeper.Proofs.Pods.Selection
import Podkeeper.Proofs.Pods.Rewriting
import Podkeeper.Proofs.Json.Records
import Podkeeper.Proofs.Pods.Prefixes
import Podkeeper.Proofs.Requests.Statuses
import Podkeeper.Proofs.Time.Calendar
import Podkeeper.Proofs.Time.Texts
import Podkeeper.Proofs.Engine.Exchanges
import Podkeeper.Proofs.Engine.Windows
import Podkeeper.Proofs.Engine.LogStreams
import Podkeeper.Proofs.Engine.Runs
import Podkeeper.Proofs.Lifecycle.Variables
import Podkeeper.Proofs.Pods.ExitCodes
import Podkeeper.Proofs.Engine.Inspections
import Podkeeper.Proofs.Pods.Binds
import Podkeeper.Proofs.Engine.Creations
import Podkeeper.Proofs.Pods.Admissible
import Podkeeper.Proofs.Locks.Queues
import Podkeeper.Proofs.Settings.Layers
import Podkeeper.Proofs.Requests.ByteMaps
import Podkeeper.Proofs.Lifecycle.ConfigMaps
