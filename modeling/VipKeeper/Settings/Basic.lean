import VipKeeper.LoadBalancer.Written
import VipKeeper.Queue.Backoff
import VipKeeper.Time.SpanText

/-! The settings of the program, their defaults, and what is wrong with bad ones. -/

namespace VipKeeper

/-- Where the daemon keeps its files. It reports changes of role to a pipe, if one is named. -/
structure DaemonSettings where
  configPath : String
  pidFile : String
  reportPath : Option String
  deriving DecidableEq

structure SourceSettings where
  path : String
  pollInterval : Span
  deriving DecidableEq

structure SyncSettings where
  workers : Nat
  backoff : Backoff
  eventCapacity : Nat
  deriving DecidableEq

structure MetricsSettings where
  enabled : Bool
  listenAddress : String
  deriving DecidableEq

structure LogSettings where
  level : Option String
  format : Option String
  deriving DecidableEq

structure Settings where
  target : ObjectKey
  nodeAddress : Option Address
  daemon : DaemonSettings
  source : SourceSettings
  sync : SyncSettings
  metrics : MetricsSettings
  log : LogSettings
  deriving DecidableEq

namespace Settings

def default : Settings where
  target := ⟨"kube-system", "lb"⟩
  nodeAddress := none
  daemon := ⟨"/etc/keepalived/keepalived.conf", "/var/run/keepalived.pid", some "/var/run/lb-sync/notify.fifo"⟩
  source := ⟨"/etc/lb-sync/state.yaml", Span.ofSeconds 2⟩
  sync := ⟨1, Backoff.default, 256⟩
  metrics := ⟨true, "0.0.0.0:9443"⟩
  log := ⟨none, none⟩

/-- Whether log lines are JSON. -/
def logsJson (settings : Settings) : Bool :=
  settings.log.format == some "json"

/-! ### Reading -/

open Format

variable {ν : Type} (format : Format ν)

def span? (value : ν) : Option Span :=
  (format.text? value).bind Span.ofText?

/-- A section that is left out has its default. -/
def group? {α : Type} (fallback : α) (names : List String) (read : (String → Option ν) → Option α)
    (value : Option ν) : Option α :=
  defaulted fallback (fun value => do read (← format.record? (names.map Field.named) value)) value

def target? : Option ν → Option ObjectKey :=
  group? format default.target ["namespace", "name"] (fun member => do
    return ⟨← defaulted default.target.scope format.text? (member "namespace"),
      ← defaulted default.target.name format.text? (member "name")⟩)

def nodeAddress? : Option ν → Option (Option Address) :=
  group? format none ["address"] (fun member =>
    defaulted none (format.option? format.address?) (member "address"))

def daemon? : Option ν → Option DaemonSettings :=
  group? format default.daemon ["config_path", "pid_file", "notify_fifo"] (fun member => do
    return ⟨← defaulted default.daemon.configPath format.text? (member "config_path"),
      ← defaulted default.daemon.pidFile format.text? (member "pid_file"),
      ← defaulted default.daemon.reportPath (format.option? format.text?) (member "notify_fifo")⟩)

def source? : Option ν → Option SourceSettings :=
  group? format default.source ["path", "poll_interval"] (fun member => do
    return ⟨← defaulted default.source.path format.text? (member "path"),
      ← defaulted default.source.pollInterval (span? format) (member "poll_interval")⟩)

def sync? : Option ν → Option SyncSettings :=
  group? format default.sync ["workers", "base_delay", "max_delay", "event_channel"] (fun member => do
    return ⟨← defaulted default.sync.workers format.natural? (member "workers"),
      ⟨← defaulted default.sync.backoff.base (span? format) (member "base_delay"),
        ← defaulted default.sync.backoff.limit (span? format) (member "max_delay")⟩,
      ← defaulted default.sync.eventCapacity format.natural? (member "event_channel")⟩)

def metrics? : Option ν → Option MetricsSettings :=
  group? format default.metrics ["enabled", "listen_addr"] (fun member => do
    return ⟨← defaulted default.metrics.enabled format.flag? (member "enabled"),
      ← defaulted default.metrics.listenAddress format.text? (member "listen_addr")⟩)

def log? : Option ν → Option LogSettings :=
  group? format default.log ["level", "format"] (fun member => do
    return ⟨← defaulted none (format.option? format.text?) (member "level"),
      ← defaulted none (format.option? format.text?) (member "format")⟩)

def read? (value : ν) : Option Settings := do
  let member ← format.record? (["target", "node", "keepalived", "source", "reconciler", "metrics",
    "logging"].map Field.named) value
  return ⟨← target? format (member "target"), ← nodeAddress? format (member "node"),
    ← daemon? format (member "keepalived"), ← source? format (member "source"),
    ← sync? format (member "reconciler"), ← metrics? format (member "metrics"),
    ← log? format (member "logging")⟩

end Settings

/-! ### Validity -/

inductive SettingProblem where
  | empty
  | outOfRange
  | relativePath
  | pathNotPlain
  | pollInterval
  | logFormat
  | delayOrder
  deriving DecidableEq

namespace SettingProblem

def code : SettingProblem → String
  | empty => "length"
  | outOfRange => "range"
  | relativePath => "path_not_absolute"
  | pathNotPlain => "notify_fifo_not_plain"
  | pollInterval => "poll_interval_out_of_range"
  | logFormat => "log_format_unknown"
  | delayOrder => "max_delay_below_base_delay"

end SettingProblem

namespace Settings

/-- A problem with the setting of a name. -/
abbrev Complaint := String × SettingProblem

def complain (holds : Bool) (name : String) (problem : SettingProblem) : List Complaint :=
  if holds then [(name, problem)] else []

def isAbsolute (path : String) : Bool :=
  path.toList.head? == some '/'

/-- Whether a path can stand in the daemon's configuration as it is. -/
def isPlainPath (path : String) : Bool :=
  path.toList.all (fun c => Text.isVisibleAscii c && !"\x7b\x7d\"#!".toList.contains c)

def reportPathComplaints : Option String → List Complaint
  | none => []
  | some path =>
    if !isAbsolute path then [("notify_fifo", .relativePath)]
    else complain (!isPlainPath path) "notify_fifo" .pathNotPlain

/-- The problems of each section, section by section. -/
def groupComplaints (settings : Settings) : List (List Complaint) := [
  complain settings.target.scope.isEmpty "namespace" .empty ++
    complain settings.target.name.isEmpty "name" .empty,
  complain (!isAbsolute settings.daemon.configPath) "config_path" .relativePath ++
    complain (!isAbsolute settings.daemon.pidFile) "pid_file" .relativePath ++
    reportPathComplaints settings.daemon.reportPath,
  let millis := settings.source.pollInterval.millis
  complain (decide (millis < 100) || decide (300000 < millis)) "poll_interval" .pollInterval,
  complain (settings.sync.workers == 0 || decide (64 < settings.sync.workers)) "workers" .outOfRange ++
    complain (settings.sync.eventCapacity == 0 || decide (100000 < settings.sync.eventCapacity))
      "event_channel" .outOfRange,
  complain settings.metrics.listenAddress.isEmpty "listen_addr" .empty,
  complain (settings.log.format.any (fun name => name != "text" && name != "json")) "format" .logFormat]

/-- The problems of the first section that has any. The order of the delays is looked at last. -/
def complaints (settings : Settings) : List Complaint :=
  match settings.groupComplaints.find? (fun found => !found.isEmpty) with
  | some found => found
  | none =>
    complain (decide (settings.sync.backoff.limit.nanoseconds < settings.sync.backoff.base.nanoseconds))
      "max_delay" .delayOrder

end Settings

end VipKeeper
