import Mathlib.Data.String.Basic
import TelemetryManager.GatewayProcessors
import TelemetryManager.Library.KeySort
import TelemetryManager.LogAgentConfig
import TelemetryManager.MetricAgentConfig

/-! The order of the pipelines that a configuration is built from.
The API server lists pipelines in any order, and components that are shared are registered by the
first pipeline that has them. The builders therefore sort the pipelines by their names before they
do anything else. -/
namespace TelemetryManager

open Collector OtlpExporter Gateway

theorem Gateway.sortPipelinesByName_eq_of_perm {opts : BuildOptions}
    (hnames : DistinctNames opts) {traces : List TracePipeline} {logs : List LogPipeline}
    {metrics : List MetricPipeline} (htraces : opts.tracePipelines.Perm traces)
    (hlogs : opts.logPipelines.Perm logs) (hmetrics : opts.metricPipelines.Perm metrics) :
    sortPipelinesByName { opts with
      tracePipelines := traces, logPipelines := logs, metricPipelines := metrics } =
      sortPipelinesByName opts := by
  unfold sortPipelinesByName
  rw [KeySort.insertionSort_eq_of_perm htraces hnames.traces,
    KeySort.insertionSort_eq_of_perm hlogs hnames.logs,
    KeySort.insertionSort_eq_of_perm hmetrics hnames.metrics]

/-- The gateway and the agents are built from the same pipelines in any order by the same program:
whatever the API server answers, it is asked for the same objects, and the configuration and the
environment variables are the same, or the build fails with the same error. -/
theorem builds_ignore_order (lib : ExporterLib) :
    (∀ (opts : BuildOptions) (traces : List TracePipeline) (logs : List LogPipeline)
      (metrics : List MetricPipeline), DistinctNames opts →
      opts.tracePipelines.Perm traces → opts.logPipelines.Perm logs →
      opts.metricPipelines.Perm metrics →
      build lib { opts with
        tracePipelines := traces, logPipelines := logs, metricPipelines := metrics } =
        build lib opts) ∧
    (∀ (quote : String → String) (collectAgentLogs : Bool) (opts : LogAgent.BuildOptions)
      (pipelines pipelines' : List LogPipeline), (pipelines.map (·.name)).Nodup →
      pipelines.Perm pipelines' →
      LogAgent.build lib quote collectAgentLogs opts pipelines' =
        LogAgent.build lib quote collectAgentLogs opts pipelines) ∧
    (∀ (opts : MetricAgent.BuildOptions) (pipelines pipelines' : List MetricPipeline),
      (pipelines.map (·.name)).Nodup → pipelines.Perm pipelines' →
      MetricAgent.build lib opts pipelines' = MetricAgent.build lib opts pipelines) := by
  refine ⟨?_, ?_, ?_⟩
  · intro opts traces logs metrics hnames htraces hlogs hmetrics
    unfold build
    rw [sortPipelinesByName_eq_of_perm hnames htraces hlogs hmetrics]
  · intro quote collectAgentLogs opts pipelines pipelines' hnames hperm
    unfold LogAgent.build LogAgent.sortPipelinesByName
    rw [KeySort.insertionSort_eq_of_perm hperm hnames]
  · intro opts pipelines pipelines' hnames hperm
    unfold MetricAgent.build MetricAgent.sortPipelinesByName
    rw [KeySort.insertionSort_eq_of_perm hperm hnames]

def auditTraces : TracePipeline := { sampleTracePipeline with name := "audit" }

def backendLogs : LogPipeline where
  name := "backend"
  input := { runtime := some { keepOriginalBody := some true } }
  output := { otlp := some sampleOutput }

def auditLogs : LogPipeline := { backendLogs with name := "audit" }

def auditMetrics : MetricPipeline := { sampleMetricPipeline with name := "audit" }

def backendFirst : BuildOptions where
  tracePipelines := [sampleTracePipeline, auditTraces]
  logPipelines := [backendLogs, auditLogs]
  metricPipelines := [sampleMetricPipeline, auditMetrics]

/-- The builds succeed, and listing the pipelines the other way round changes nothing. -/
theorem audit_first_same_builds :
    (Interaction.evalE noObjects (build sampleExporterLib backendFirst)).isOk ∧
    build sampleExporterLib
        { backendFirst with
          tracePipelines := [auditTraces, sampleTracePipeline]
          logPipelines := [auditLogs, backendLogs]
          metricPipelines := [auditMetrics, sampleMetricPipeline] } =
      build sampleExporterLib backendFirst ∧
    LogAgent.build sampleExporterLib id false {} [auditLogs, backendLogs] =
      LogAgent.build sampleExporterLib id false {} [backendLogs, auditLogs] ∧
    MetricAgent.build sampleExporterLib {} [auditMetrics, sampleMetricPipeline] =
      MetricAgent.build sampleExporterLib {}
        [sampleMetricPipeline, auditMetrics] := by
  obtain ⟨hgateway, hlogs, hmetrics⟩ := builds_ignore_order sampleExporterLib
  refine ⟨rfl, ?_, ?_, ?_⟩
  · exact hgateway backendFirst _ _ _ ⟨by decide, by decide, by decide⟩ (.swap _ _ _) (.swap _ _ _)
      (.swap _ _ _)
  · exact hlogs id false {} _ _ (by decide) (.swap _ _ _)
  · exact hmetrics {} _ _ (by decide) (.swap _ _ _)

end TelemetryManager
