import TelemetryManager.CollectorConfig

/-! The texts of OTTL conditions and statements that the configuration builders generate. -/
namespace TelemetryManager.Ottl

open Collector

def k8sNamespaceName : String := "k8s.namespace.name"

def kymaInputNameAttribute : String := "kyma.input.name"

def resourceAttribute (key : String) : String := "resource.attributes[\"" ++ key ++ "\"]"

def resourceAttributeEquals (key value : String) : String :=
  resourceAttribute key ++ " == \"" ++ value ++ "\""

def resourceAttributeNotEquals (key value : String) : String :=
  resourceAttribute key ++ " != \"" ++ value ++ "\""

def resourceAttributeIsNotNil (key : String) : String := resourceAttribute key ++ " != nil"

def resourceAttributeIsNilOrEmpty (key : String) : String :=
  resourceAttribute key ++ " == nil or " ++ resourceAttribute key ++ " == \"\""

def resourceAttributeHasPrefix (key pre : String) : String :=
  "HasPrefix(resource.attributes[\"" ++ key ++ "\"], \"" ++ pre ++ "\")"

def namespaceEquals (name : String) : String := resourceAttributeEquals k8sNamespaceName name

def isNotNil (key : String) : String := key ++ " != nil"

def attributeOf (key : String) : String := "attributes[\"" ++ key ++ "\"]"

def attributeIsNotNil (key : String) : String := isNotNil (attributeOf key)

def joinWithOr (parts : List String) : String := "(" ++ String.intercalate " or " parts ++ ")"

def joinWithAnd (parts : List String) : String := String.intercalate " and " parts

def joinWithWhere (statement condition : String) : String := statement ++ " where " ++ condition

def kymaInputNameEquals (sourceType : InputSourceType) : String :=
  resourceAttributeEquals kymaInputNameAttribute sourceType.text

def metricNameAttributeEquals (name : String) : String := "metric.name == \"" ++ name ++ "\""

def isMatch (key regexPattern : String) : String :=
  "IsMatch(" ++ key ++ ", \"" ++ regexPattern ++ "\")"

def nameConditions (names : List String) : List String := names.map metricNameAttributeEquals

def isWrappedInParentheses (expression : String) : Bool :=
  ['('].isPrefixOf expression.toList && [')'].isSuffixOf expression.toList

def not (expression : String) : String :=
  if isWrappedInParentheses expression then "not" ++ expression else "not(" ++ expression ++ ")"

def deleteResourceAttribute (key : String) : String :=
  "delete_key(resource.attributes, \"" ++ key ++ "\")"

def setResourceAttribute (key value : String) : String :=
  "set(resource.attributes[\"" ++ key ++ "\"], \"" ++ value ++ "\")"

def setIfNilOrEmptyStatement (attributeKey attributeValue : String) : String :=
  joinWithWhere (setResourceAttribute attributeKey attributeValue)
    (resourceAttributeIsNilOrEmpty attributeKey)

end TelemetryManager.Ottl
