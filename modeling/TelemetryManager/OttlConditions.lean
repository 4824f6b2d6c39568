import TelemetryManager.OttlExpressions

/-! Conditions that the filters and routes of the metric agent ask of a datapoint.
The configuration holds their texts; here each of them has a meaning as well. What the collector
makes of a text is a parameter of the results that depend on it. -/
namespace TelemetryManager.Ottl

open Collector

structure Datapoint where
  metricName : String
  resourceAttribute : String → Option String

structure MetricPattern where
  text : String
  beginnings : List String

/-- `regexp.MatchString`. -/
def MetricPattern.accepts (pattern : MetricPattern) (name : String) : Bool :=
  pattern.beginnings.any fun beginning => beginning.toList.isPrefixOf name.toList

inductive Condition where
  | inputNameEquals (source : InputSourceType)
  | nameMatches (pattern : MetricPattern)
  | nameAmong (names : List String)
  | attributeEquals (key value : String)
  | not (c : Condition)
  | and (c c' : Condition)

namespace Condition

/-- The text of the condition. Attributes are those of the context of the condition, which is the
resource wherever they are used. -/
def text : Condition → String
  | .inputNameEquals source => kymaInputNameEquals source
  | .nameMatches pattern => isMatch "metric.name" pattern.text
  | .nameAmong names => joinWithOr (nameConditions names)
  | .attributeEquals key value => "attributes[\"" ++ key ++ "\"] == \"" ++ value ++ "\""
  | .not c => Ottl.not c.text
  | .and c c' => joinWithAnd [c.text, c'.text]

def holds (d : Datapoint) : Condition → Bool
  | .inputNameEquals source => d.resourceAttribute kymaInputNameAttribute = some source.text
  | .nameMatches pattern => pattern.accepts d.metricName
  | .nameAmong names => d.metricName ∈ names
  | .attributeEquals key value => d.resourceAttribute key = some value
  | .not c => !c.holds d
  | .and c c' => c.holds d && c'.holds d

end Condition

/-- How the collector evaluates the text of a condition. -/
abbrev Engine := String → Datapoint → Bool

/-- The collector reads the text of the condition as it is meant. -/
def Engine.Reads (engine : Engine) (c : Condition) : Prop := ∀ d, engine c.text d = c.holds d

def Engine.knowing (textOf : Condition → String) (conditions : List Condition) : Engine :=
  fun text d => (conditions.find? fun c => textOf c = text).any (·.holds d)

/-- How the collector treats a datapoint: its evaluation of conditions and statements, and what its
processors do that are neither transformations nor filters. -/
structure Machine where
  engine : Engine
  statement : String → Datapoint → Datapoint
  own : ProcessorConfig → Datapoint → Option Datapoint

/-- Of several conditions for a group of statements one has to hold. -/
def Machine.execute (m : Machine) (d : Datapoint) (group : TransformProcessorStatements) :
    Datapoint :=
  if group.conditions = [] ∨ group.conditions.any (m.engine · d) then
    group.statements.foldl (fun d text => m.statement text d) d
  else d

def drops (engine : Engine) (d : Datapoint) : ProcessorConfig → Bool
  | .filter config => config.metrics.any fun filter => filter.conditions.any (engine · d)
  | _ => false

/-- What leaves a processor: nothing if it drops the datapoint. -/
def Machine.process (m : Machine) (d : Datapoint) : ProcessorConfig → Option Datapoint
  | .transform config => some (config.metricStatements.foldl m.execute d)
  | .filter config => if drops m.engine d (.filter config) then none else some d
  | config => m.own config d

/-- Conditions with texts of their own can be read by one engine. -/
theorem Engine.knowing_eq_holds {textOf : Condition → String} {conditions : List Condition}
    (htexts : (conditions.map textOf).Nodup) {c : Condition} (hc : c ∈ conditions)
    (d : Datapoint) : Engine.knowing textOf conditions (textOf c) d = c.holds d := by
  have hfind : conditions.find? (fun c' => textOf c' = textOf c) = some c := by
    induction conditions with
    | nil => cases hc
    | cons c' conditions ih =>
      rw [List.map_cons, List.nodup_cons] at htexts
      rcases List.mem_cons.mp hc with rfl | hc
      · simp
      · have hne : textOf c' ≠ textOf c := fun h => htexts.1 (h ▸ List.mem_map_of_mem hc)
        simp [hne, ih htexts.2 hc]
  simp [Engine.knowing, hfind]

end TelemetryManager.Ottl
