import TelemetryManager.MetricAgentConfig
import TelemetryManager.MetricAgentEmission

/-! Which runtime metrics a metric pipeline receives.
The receivers of the runtime input emit the union of what all pipelines ask for; the filters of an
output take away what its own pipeline did not ask for. -/
namespace TelemetryManager.MetricAgent

open Collector Interaction MetricPipelineUtils OtlpExporter Ottl RuntimeMetrics RuntimeResource

/-- The filters as they were configured, whatever is registered under their IDs. -/
def Passes (engine : Engine) (components : List Component) (d : Datapoint) : Prop :=
  ∀ e ∈ components.filterMap Component.processorEntry, drops engine d e.2 = false

section RuntimeFilters

variable {engine : Engine} {mp : MetricPipeline} {d : Datapoint}
  (hruntime : d.resourceAttribute kymaInputNameAttribute = some InputSourceType.runtime.text)

include hruntime

variable (henabled : isRuntimeInputEnabled mp.input)

include henabled

variable {allAdditionalMetrics : List String}

end RuntimeFilters

section Receivers

variable (lib : ExporterLib) (opts : BuildOptions) (pipelines : List MetricPipeline)

end Receivers

end TelemetryManager.MetricAgent
