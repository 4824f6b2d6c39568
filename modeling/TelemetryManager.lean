import TelemetryManager.BackendPorts
import TelemetryManager.BuildOrder
import TelemetryManager.ConfigChecksum
import TelemetryManager.ConversionHistory
import TelemetryManager.DirectorySizes
import TelemetryManager.ExporterPlaceholders
import TelemetryManager.FluentBitTags
import TelemetryManager.GatewayDeployment
import TelemetryManager.GatewayResources
import TelemetryManager.InsecureTransport
import TelemetryManager.LockConcurrency
import TelemetryManager.LogPaths
import TelemetryManager.MetricAgentDelivery
import TelemetryManager.MetricAgentStructure
import TelemetryManager.MigrationSafety
import TelemetryManager.NamespaceFilters
import TelemetryManager.OttlTrees
import TelemetryManager.PipelineStatus
import TelemetryManager.PodLabelExtraction
import TelemetryManager.PrometheusTargets
import TelemetryManager.SecretCoverage
import TelemetryManager.SecretWatchClient
import TelemetryManager.SectionRendering
import TelemetryManager.SelfMonitor
import TelemetryManager.SharedDeletion
import TelemetryManager.TelemetryReconciler
import TelemetryManager.WebhookCertSafety
import TelemetryManager.WorkloadMetadata
import TelemetryManager.WorkloadStatus
