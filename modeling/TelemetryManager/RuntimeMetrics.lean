import Mathlib.Data.List.Basic

/-! Names of the metrics that the kubelet-stats and the cluster receiver can emit, in the curated
groups of the metric agent. -/
namespace TelemetryManager.RuntimeMetrics

def kubeletStatsReceiverContainerMetrics : List String :=
  ["container.cpu.time", "container.cpu.usage", "container.filesystem.available",
   "container.filesystem.capacity", "container.filesystem.usage", "container.memory.available",
   "container.memory.major_page_faults", "container.memory.page_faults", "container.memory.rss",
   "container.memory.usage", "container.memory.working_set"]

def kubeletStatsReceiverNodeMetrics : List String :=
  ["k8s.node.cpu.usage", "k8s.node.filesystem.available", "k8s.node.filesystem.capacity",
   "k8s.node.filesystem.usage", "k8s.node.memory.available", "k8s.node.memory.rss",
   "k8s.node.memory.usage", "k8s.node.memory.working_set", "k8s.node.network.errors",
   "k8s.node.network.io"]

def kubeletStatsReceiverPodMetrics : List String :=
  ["k8s.pod.cpu.time", "k8s.pod.cpu.usage", "k8s.pod.filesystem.available",
   "k8s.pod.filesystem.capacity", "k8s.pod.filesystem.usage", "k8s.pod.memory.available",
   "k8s.pod.memory.major_page_faults", "k8s.pod.memory.page_faults", "k8s.pod.memory.rss",
   "k8s.pod.memory.usage", "k8s.pod.memory.working_set", "k8s.pod.network.errors",
   "k8s.pod.network.io"]

def kubeletStatsReceiverVolumeMetrics : List String :=
  ["k8s.volume.available", "k8s.volume.capacity", "k8s.volume.inodes", "k8s.volume.inodes.free",
   "k8s.volume.inodes.used"]

/-- Metrics that the kubelet-stats receiver emits by default and that are always disabled. -/
def kubeletStatsDefaultMetricsToDrop : List String :=
  ["k8s.node.cpu.time", "k8s.node.memory.major_page_faults", "k8s.node.memory.page_faults"]

def kubeletStatsOptionalMetrics : List String :=
  ["container.uptime", "k8s.container.cpu.node.utilization",
   "k8s.container.cpu_limit_utilization", "k8s.container.cpu_request_utilization",
   "k8s.container.ephemeral_storage.usage", "k8s.container.memory.node.utilization",
   "k8s.container.memory_limit_utilization", "k8s.container.memory_request_utilization",
   "k8s.node.system_container.cpu.time", "k8s.node.system_container.cpu.usage",
   "k8s.node.system_container.memory.usage", "k8s.node.system_container.memory.working_set",
   "k8s.node.uptime", "k8s.pod.cpu.node.utilization", "k8s.pod.cpu_limit_utilization",
   "k8s.pod.cpu_request_utilization", "k8s.pod.memory.node.utilization",
   "k8s.pod.memory_limit_utilization", "k8s.pod.memory_request_utilization", "k8s.pod.uptime",
   "k8s.pod.volume.usage"]

/-- Metrics that are disabled by default and optional metrics. -/
def kubeletStatsReceiverExtraMetrics : List String :=
  kubeletStatsDefaultMetricsToDrop ++ kubeletStatsOptionalMetrics

def kubeletStatsReceiverMetrics : List String :=
  kubeletStatsReceiverContainerMetrics ++
  kubeletStatsReceiverNodeMetrics ++
  kubeletStatsReceiverPodMetrics ++
  kubeletStatsReceiverVolumeMetrics ++
  kubeletStatsReceiverExtraMetrics

def k8sClusterReceiverPodMetrics : List String :=
  ["k8s.pod.phase"]

def k8sClusterReceiverContainerMetrics : List String :=
  ["k8s.container.cpu_request", "k8s.container.cpu_limit", "k8s.container.memory_request",
   "k8s.container.memory_limit", "k8s.container.restarts"]

def k8sClusterReceiverStatefulSetMetrics : List String :=
  ["k8s.statefulset.current_pods", "k8s.statefulset.desired_pods", "k8s.statefulset.ready_pods",
   "k8s.statefulset.updated_pods"]

def k8sClusterReceiverJobMetrics : List String :=
  ["k8s.job.active_pods", "k8s.job.desired_successful_pods", "k8s.job.failed_pods",
   "k8s.job.max_parallel_pods", "k8s.job.successful_pods"]

def k8sClusterReceiverDeploymentMetrics : List String :=
  ["k8s.deployment.available", "k8s.deployment.desired"]

def k8sClusterReceiverDaemonSetMetrics : List String :=
  ["k8s.daemonset.current_scheduled_nodes", "k8s.daemonset.desired_scheduled_nodes",
   "k8s.daemonset.misscheduled_nodes", "k8s.daemonset.ready_nodes"]

/-- Metrics that the cluster receiver emits by default and that are always disabled. -/
def k8sClusterDefaultMetricsToDrop : List String :=
  ["k8s.container.storage_request", "k8s.container.storage_limit",
   "k8s.container.ephemeralstorage_request", "k8s.container.ephemeralstorage_limit",
   "k8s.container.ready", "k8s.namespace.phase", "k8s.hpa.current_replicas",
   "k8s.hpa.desired_replicas", "k8s.hpa.min_replicas", "k8s.hpa.max_replicas",
   "k8s.replicaset.available", "k8s.replicaset.desired", "k8s.replication_controller.available",
   "k8s.replication_controller.desired", "k8s.resource_quota.hard_limit",
   "k8s.resource_quota.used", "k8s.cronjob.active_jobs"]

def k8sClusterOptionalMetrics : List String :=
  ["k8s.container.status.reason", "k8s.container.status.state", "k8s.node.condition",
   "k8s.persistentvolume.status.phase", "k8s.persistentvolume.storage.capacity",
   "k8s.persistentvolumeclaim.status.phase", "k8s.persistentvolumeclaim.storage.capacity",
   "k8s.persistentvolumeclaim.storage.request", "k8s.pod.status_reason",
   "k8s.service.endpoint.count", "k8s.service.load_balancer.ingress.count"]

def k8sClusterReceiverExtraMetrics : List String :=
  k8sClusterDefaultMetricsToDrop ++ k8sClusterOptionalMetrics

def k8sClusterReceiverMetrics : List String :=
  k8sClusterReceiverPodMetrics ++
  k8sClusterReceiverContainerMetrics ++
  k8sClusterReceiverStatefulSetMetrics ++
  k8sClusterReceiverJobMetrics ++
  k8sClusterReceiverDeploymentMetrics ++
  k8sClusterReceiverDaemonSetMetrics ++
  k8sClusterReceiverExtraMetrics

end TelemetryManager.RuntimeMetrics
