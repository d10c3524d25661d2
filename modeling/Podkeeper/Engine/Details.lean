/-
Details that engines tell.

An engine tells much about images and containers that nobody here asks for. It must be well formed
all the same: a reply with a number where a text belongs is not understood at all. The checks below
say what each part looks like. Nearly every field may be absent or without a value, and fields that
are not listed may hold anything.
-/

import Podkeeper.Wire.Source

namespace Podkeeper.Engine.Details

open Wire Wire.Source

variable {N : Type} {m : Type → Type} [Monad m] [Source N m]

/-! ### Kinds of values -/

/-- Reads a value and drops it. -/
def drop {α : Type} (read : N → m α) (n : N) : m Unit := do
  let _ ← read n
  return ()

def aText : N → m Unit := drop text

def aFlag : N → m Unit := drop flag

/-- A whole number of 64 bits. -/
def aWhole : N → m Unit := drop (whole .i64)

def aNumber : N → m Unit :=
  checked opaqueValue fun o =>
    match o.value with
    | .number _ => .ok ()
    | _ => .error "not a number"

def listOf (check : N → m Unit) : N → m Unit := drop (sequence check)

def texts : N → m Unit := listOf aText

def mapOf (check : N → m Unit) : N → m Unit := drop (mapping check)

def textMap : N → m Unit := mapOf aText

/-- A value that may be absent. -/
def nullable (check : N → m Unit) : N → m Unit := drop (option check)

def aWord (known : List String) : N → m Unit := drop (choice known)

/-- Names, each with an object that has no members. -/
def nameSet : N → m Unit :=
  mapOf (checked (mapping (drop opaqueValue)) fun members =>
    if members.isEmpty then .ok () else .error "not empty")

/-- Fields that may be absent. -/
def fields (checks : List (String × (N → m Unit))) : Record N m Unit :=
  checks.foldr (fun c rest => (fun _ _ => ()) <$> maybe c.1 c.2 <*> rest) (pure ())

/-- Fields that must be there. -/
def needed (checks : List (String × (N → m Unit))) : Record N m Unit :=
  checks.foldr (fun c rest => (fun _ _ => ()) <$> .required c.1 c.2 <*> rest) (pure ())

def object (fields : Record N m Unit) : N → m Unit := record .exhaustive "object" fields

/-! ### Images -/

def platform : N → m Unit := object <| fields [
  ("architecture", aText), ("os", aText), ("os.version", aText), ("os.features", texts),
  ("variant", aText)]

/-- Where a part of an image is to be found. -/
def descriptor : N → m Unit := object <| fields [
  ("mediaType", aText), ("digest", aText), ("size", aWhole), ("urls", texts),
  ("annotations", textMap), ("data", aText), ("platform", platform), ("artifactType", aText)]

/-- What is known about the contents of an image for a platform. -/
def imageData : N → m Unit := object <| needed [
  ("Platform", platform), ("Containers", nullable texts),
  ("Size", object (needed [("Unpacked", aWhole)]))]

/-- An image for a platform, or what belongs to one. -/
def imageManifest : N → m Unit := object <|
  (fun _ _ => ()) <$> needed [
      ("ID", aText), ("Descriptor", descriptor), ("Available", aFlag),
      ("Size", object (needed [("Total", aWhole), ("Content", aWhole)])),
      ("Kind", aWord ["", "image", "attestation", "unknown"])]
    <*> fields [
      ("ImageData", imageData), ("AttestationData", object (needed [("For", aText)]))]

/-- How a command is run to see whether a container is well. -/
def healthCheck : N → m Unit := object <| fields [
  ("Test", texts), ("Interval", aWhole), ("Timeout", aWhole), ("Retries", aWhole),
  ("StartPeriod", aWhole), ("StartInterval", aWhole)]

/-- What a container is made from, wherever it runs. -/
def containerConfig : N → m Unit := object <| fields [
  ("Hostname", aText), ("Domainname", aText), ("User", aText), ("AttachStdin", aFlag),
  ("AttachStdout", aFlag), ("AttachStderr", aFlag), ("ExposedPorts", nameSet), ("Tty", aFlag),
  ("OpenStdin", aFlag), ("StdinOnce", aFlag), ("Env", texts), ("Cmd", texts),
  ("Healthcheck", healthCheck), ("ArgsEscaped", aFlag), ("Image", aText), ("Volumes", nameSet),
  ("WorkingDir", aText), ("Entrypoint", texts), ("NetworkDisabled", aFlag), ("MacAddress", aText),
  ("OnBuild", texts), ("Labels", textMap), ("StopSignal", aText), ("StopTimeout", aWhole),
  ("Shell", texts)]

/-- How the files of an image or a container are kept. -/
def graphDriver : N → m Unit := object <| needed [("Name", aText), ("Data", nullable textMap)]

def rootFiles : N → m Unit := object <|
  (fun _ _ => ()) <$> needed [("Type", aText)] <*> fields [("Layers", texts)]

def image : N → m Unit := object <| fields [
  ("Id", aText), ("Descriptor", descriptor), ("Manifests", listOf imageManifest),
  ("RepoTags", texts), ("RepoDigests", texts), ("Parent", aText), ("Comment", aText),
  ("Created", aText), ("DockerVersion", aText), ("Author", aText), ("Config", containerConfig),
  ("Architecture", aText), ("Variant", aText), ("Os", aText), ("OsVersion", aText),
  ("Size", aWhole), ("VirtualSize", aWhole), ("GraphDriver", graphDriver), ("RootFS", rootFiles),
  ("Metadata", object (fields [("LastTagTime", aText)]))]

/-! ### States -/

def health : N → m Unit := object <| fields [
  ("Status", aWord ["", "none", "starting", "healthy", "unhealthy"]),
  ("FailingStreak", aWhole),
  ("Log", listOf (object (fields [
    ("Start", aText), ("End", aText), ("ExitCode", aWhole), ("Output", aText)])))]

/-! ### Resources and mounts -/

def mountKinds : List String :=
  ["", "bind", "cluster", "image", "npipe", "tmpfs", "volume"]

def mountPoint : N → m Unit := object <| fields [
  ("Type", aWord mountKinds), ("Name", aText), ("Source", aText), ("Destination", aText),
  ("Driver", aText), ("Mode", aText), ("RW", aFlag), ("Propagation", aText)]

/-- Options of a mount of a path. -/
def bindOptions : N → m Unit := object <| fields [
  ("Propagation", aWord ["", "private", "rprivate", "shared", "rshared", "slave", "rslave"]),
  ("NonRecursive", aFlag), ("CreateMountpoint", aFlag), ("ReadOnlyNonRecursive", aFlag),
  ("ReadOnlyForceRecursive", aFlag)]

/-- Options of a mount of a volume. -/
def volumeOptions : N → m Unit := object <| fields [
  ("NoCopy", aFlag), ("Labels", textMap),
  ("DriverConfig", object (fields [("Name", aText), ("Options", textMap)])), ("Subpath", aText)]

/-- Options of a mount of memory. -/
def memoryOptions : N → m Unit := object <| fields [
  ("SizeBytes", aWhole), ("Mode", aWhole), ("Options", listOf texts)]

/-- A mount that is asked for. -/
def mount : N → m Unit := object <| fields [
  ("Target", aText), ("Source", aText), ("Type", aWord mountKinds), ("ReadOnly", aFlag),
  ("Consistency", aText), ("BindOptions", bindOptions), ("VolumeOptions", volumeOptions),
  ("ImageOptions", object (fields [("Subpath", aText)])), ("TmpfsOptions", memoryOptions)]

/-- A bound on how fast a device may be used. -/
def throttle : N → m Unit := object <| fields [("Path", aText), ("Rate", aWhole)]

/-- How a device is weighed against others. -/
def deviceWeight : N → m Unit := object <| fields [
  ("Path", aText), ("Weight", drop (whole .u64))]

/-- A device of the host within the container. -/
def device : N → m Unit := object <| fields [
  ("PathOnHost", aText), ("PathInContainer", aText), ("CgroupPermissions", aText)]

/-- Devices that a driver shall find. -/
def deviceRequest : N → m Unit := object <| fields [
  ("Driver", aText), ("Count", aWhole), ("DeviceIDs", texts), ("Capabilities", listOf texts),
  ("Options", textMap)]

def limit : N → m Unit := object <| fields [("Name", aText), ("Soft", aWhole), ("Hard", aWhole)]

/-- Ports of the container, each with the places of the host where it can be reached. -/
def ports : N → m Unit := mapOf (nullable (listOf (object (fields [
  ("HostIp", aText), ("HostPort", aText)]))))

/-! ### Hosts and networks -/

/-- How a container runs on its host. -/
def hostConfig : N → m Unit := object <| fields [
  ("CpuShares", aWhole), ("Memory", aWhole), ("CgroupParent", aText),
  ("BlkioWeight", drop (whole .u16)), ("BlkioWeightDevice", listOf deviceWeight),
  ("BlkioDeviceReadBps", listOf throttle), ("BlkioDeviceWriteBps", listOf throttle),
  ("BlkioDeviceReadIOps", listOf throttle), ("BlkioDeviceWriteIOps", listOf throttle),
  ("CpuPeriod", aWhole), ("CpuQuota", aWhole), ("CpuRealtimePeriod", aWhole),
  ("CpuRealtimeRuntime", aWhole), ("CpusetCpus", aText), ("CpusetMems", aText),
  ("Devices", listOf device), ("DeviceCgroupRules", texts),
  ("DeviceRequests", listOf deviceRequest), ("KernelMemoryTCP", aWhole),
  ("MemoryReservation", aWhole), ("MemorySwap", aWhole), ("MemorySwappiness", aWhole),
  ("NanoCpus", aWhole), ("OomKillDisable", aFlag), ("Init", aFlag), ("PidsLimit", aWhole),
  ("Ulimits", listOf limit), ("CpuCount", aWhole), ("CpuPercent", aWhole),
  ("IOMaximumIOps", aWhole), ("IOMaximumBandwidth", aWhole), ("Binds", texts),
  ("ContainerIDFile", aText),
  ("LogConfig", object (fields [("Type", aText), ("Config", textMap)])),
  ("NetworkMode", aText), ("PortBindings", ports),
  ("RestartPolicy", object (fields [
    ("Name", aWord ["", "no", "always", "unless-stopped", "on-failure"]),
    ("MaximumRetryCount", aWhole)])),
  ("AutoRemove", aFlag), ("VolumeDriver", aText), ("VolumesFrom", texts),
  ("Mounts", listOf mount), ("ConsoleSize", listOf (drop (whole .i32))),
  ("Annotations", textMap), ("CapAdd", texts), ("CapDrop", texts),
  ("CgroupnsMode", aWord ["", "private", "host"]), ("Dns", texts), ("DnsOptions", texts),
  ("DnsSearch", texts), ("ExtraHosts", texts), ("GroupAdd", texts), ("IpcMode", aText),
  ("Cgroup", aText), ("Links", texts), ("OomScoreAdj", aWhole), ("PidMode", aText),
  ("Privileged", aFlag), ("PublishAllPorts", aFlag), ("ReadonlyRootfs", aFlag),
  ("SecurityOpt", texts), ("StorageOpt", textMap), ("Tmpfs", textMap), ("UTSMode", aText),
  ("UsernsMode", aText), ("ShmSize", aWhole), ("Sysctls", textMap), ("Runtime", aText),
  ("Isolation", aWord ["", "default", "process", "hyperv"]), ("MaskedPaths", texts),
  ("ReadonlyPaths", texts)]

/-- An address of a network with the length of its fixed part. -/
def address : N → m Unit := object <| fields [("Addr", aText), ("PrefixLen", aWhole)]

/-- How a container is attached to a network. -/
def attachment : N → m Unit := object <| fields [
  ("IPAMConfig", object (fields [
    ("IPv4Address", aText), ("IPv6Address", aText), ("LinkLocalIPs", texts)])),
  ("Links", texts), ("MacAddress", aText), ("Aliases", texts), ("DriverOpts", textMap),
  ("GwPriority", aNumber), ("NetworkID", aText), ("EndpointID", aText), ("Gateway", aText),
  ("IPAddress", aText), ("IPPrefixLen", aWhole), ("IPv6Gateway", aText),
  ("GlobalIPv6Address", aText), ("GlobalIPv6PrefixLen", aWhole), ("DNSNames", texts)]

def networks : N → m Unit := object <| fields [
  ("Bridge", aText), ("SandboxID", aText), ("HairpinMode", aFlag),
  ("LinkLocalIPv6Address", aText), ("LinkLocalIPv6PrefixLen", aWhole), ("Ports", ports),
  ("SandboxKey", aText), ("SecondaryIPAddresses", listOf address),
  ("SecondaryIPv6Addresses", listOf address), ("EndpointID", aText), ("Gateway", aText),
  ("GlobalIPv6Address", aText), ("GlobalIPv6PrefixLen", aWhole), ("IPAddress", aText),
  ("IPPrefixLen", aWhole), ("IPv6Gateway", aText), ("MacAddress", aText),
  ("Networks", mapOf attachment)]

end Podkeeper.Engine.Details
