import TelemetryManager.MetricAgentReceivers

/-! What the receivers of the runtime input emit.
The receivers come with metrics that they emit by default. The kubelet-stats receiver collects its
metrics in groups, the other metrics of a group that is not configured are left out. -/
namespace TelemetryManager.MetricAgent

open Collector MetricPipelineUtils Ottl RuntimeMetrics RuntimeResource

/-- A metric is emitted as the settings say, and by default if they say nothing. -/
def isMetricEnabled (byDefault : List String) (settings : MetricSettings) (m : String) : Bool :=
  (settings.lookup m).getD (m ∈ byDefault)

def k8sClusterEnabledByDefault : List String :=
  RuntimeResource.all.flatMap (·.k8sClusterCurated) ++ k8sClusterDefaultMetricsToDrop

def kubeletStatsEnabledByDefault : List String :=
  RuntimeResource.all.flatMap (·.kubeletStatsCurated) ++ kubeletStatsDefaultMetricsToDrop

def kubeletStatsGroup (m : String) : Option MetricGroupType :=
  if containerMetricPattern.accepts m then some .container
  else if podMetricPattern.accepts m then some .pod
  else if nodeMetricPattern.accepts m then some .node
  else if volumeMetricPattern.accepts m then some .volume
  else none

def emits (m : String) : ReceiverConfig → Bool
  | .k8sCluster config =>
    m ∈ k8sClusterReceiverMetrics && isMetricEnabled k8sClusterEnabledByDefault config.metrics m
  | .kubeletStats config =>
    m ∈ kubeletStatsReceiverMetrics && (kubeletStatsGroup m).any (· ∈ config.metricGroups) &&
      isMetricEnabled kubeletStatsEnabledByDefault config.metrics m
  | .otlp _ _ | .kymaStats _ _ _ _ | .prometheus _ | .fileLog _ => false

namespace RuntimeResource

/-- No beginning of a pattern is the beginning of one of another pattern. -/
theorem beginnings_apart : ∀ r ∈ RuntimeResource.all, ∀ r' ∈ all, ∀ b ∈ r.pattern.beginnings,
    ∀ b' ∈ r'.pattern.beginnings, b.toList.isPrefixOf b'.toList → r = r' := by
  decide +kernel

variable {m : String}

variable {r : RuntimeResource}

end RuntimeResource

variable {m : String}

def RuntimeAdditionalMetricsResources.of (additional : RuntimeAdditionalMetricsResources) :
    RuntimeResource → Bool
  | .pod => additional.pod
  | .container => additional.container
  | .node => additional.node
  | .volume => additional.volume
  | .deployment | .daemonset | .statefulset | .job => false

end TelemetryManager.MetricAgent
