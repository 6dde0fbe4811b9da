import VipKeeper.Decimal.Short
import VipKeeper.Metrics.Basic

/-! The text in which metrics are published: families of samples, each with a help line and a type line. -/

namespace VipKeeper.Metrics

/-- A family has a name, a help text, a type and samples; the order of its samples is fixed or free. -/
structure Family where
  name : String
  help : String
  type : String
  fixed : Bool
  samples : List String

/-- Counters have 64 binary digits. -/
def counterText (n : Nat) : String :=
  toString (n % UInt64.size)

/-- A gauge has 64 binary digits, the first of which is a sign. -/
def gaugeText (n : Nat) : String :=
  toString (Int.bmod n UInt64.size)

def label (name value : String) : String :=
  "\x7b" ++ name ++ "=\"" ++ value ++ "\"\x7d"

def counterSample (name labels : String) (n : Nat) : String :=
  name ++ "_total" ++ labels ++ " " ++ counterText n

def counter (name help : String) (n : Nat) : Family :=
  ⟨name, help, "counter", true, [counterSample name "" n]⟩

/-- One sample for every name that something was counted for. -/
def counters (name help labelName : String) (tallies : Tallies) : Family :=
  ⟨name, help, "counter", false,
    tallies.entries.map (fun (value, n) => counterSample name (label labelName value) n)⟩

def gauge (name help : String) (n : Nat) : Family :=
  ⟨name, help, "gauge", true, [name ++ " " ++ gaugeText n]⟩

def bucketSample (name bound : String) (n : Nat) : String :=
  name ++ "_bucket" ++ label "le" bound ++ " " ++ counterText n

def countSample (name : String) (histogram : Histogram) : String :=
  name ++ "_count " ++ counterText histogram.count

def histogram (name help : String) (histogram : Histogram) : Family :=
  ⟨name, help, "histogram", true,
    (name ++ "_sum " ++ histogram.sum.text) :: countSample name histogram ::
      List.zipWith (fun bound n => bucketSample name (Histogram.inSeconds bound).text n)
        Histogram.bounds histogram.within ++
      [bucketSample name "+Inf" histogram.count]⟩

def durationName : String := "lbsync_sync_duration_seconds"

def families (metrics : Metrics) : List Family :=
  [counters "lbsync_syncs" "Synchronization passes by outcome" "outcome" metrics.passes,
    histogram durationName "Duration of a synchronization pass" metrics.durations,
    counter "lbsync_reloads" "keepalived reloads triggered" metrics.reloads,
    counters "lbsync_sync_errors" "Failed synchronization passes by error kind" "kind" metrics.errors,
    counters "lbsync_transitions" "VRRP transitions reported by keepalived" "state" metrics.transitions,
    counter "lbsync_neighbor_invalidations" "Neighbor entries removed after failover" metrics.invalidations,
    gauge "lbsync_queue_depth" "Keys waiting in the work queue" metrics.depth]

def inOrder (lines : List String) : List String :=
  lines.mergeSort (fun a b => decide (a ≤ b))

/-- The lines of a family. Samples of free order are put in the order of their texts. -/
def Family.lines (family : Family) : List String :=
  ("# HELP " ++ family.name ++ " " ++ family.help ++ ".") :: ("# TYPE " ++ family.name ++ " " ++ family.type) ::
    if family.fixed then family.samples else inOrder family.samples

def lines (metrics : Metrics) : List String :=
  metrics.families.flatMap Family.lines ++ ["# EOF"]

/-- The samples of all families in the order of their texts; of a histogram only the number of observations. -/
def readings (metrics : Metrics) : List String :=
  inOrder (metrics.families.flatMap (fun family =>
    if family.name = durationName then [countSample durationName metrics.durations] else family.samples))

/-- The readings that are new or different. -/
def changes (earlier later : Metrics) : List String :=
  let known := earlier.readings
  later.readings.filter (fun reading => !known.contains reading)

end VipKeeper.Metrics
