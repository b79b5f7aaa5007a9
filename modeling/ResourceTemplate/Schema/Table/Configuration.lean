import ResourceTemplate.Schema.FieldType

/-!
# Configuration and limits

The records of namespaces, configuration data, secrets, service accounts, limits and quotas.
-/

namespace ResourceTemplate.Schema

open RecordType

/-- Records: configuration and limits. -/
def configurationTypes : List RecordType :=
  [resource "ConfigMap" "v1"
      [("binaryData", .dict .bytes), ("data", .dict .text), ("immutable", .flag),
       ("metadata", .record "ObjectMeta")],
   resource "LimitRange" "v1"
      [("metadata", .record "ObjectMeta"), ("spec", .record "LimitRangeSpec")],
   part "LimitRangeItem"
      [("default", .dict .quantity), ("defaultRequest", .dict .quantity),
       ("max", .dict .quantity), ("maxLimitRequestRatio", .dict .quantity),
       ("min", .dict .quantity), ("type", .text)],
   part "LimitRangeSpec"
      [("limits", .list (.record "LimitRangeItem"))],
   resource "Namespace" "v1"
      [("metadata", .record "ObjectMeta"), ("spec", .record "NamespaceSpec"),
       ("status", .record "NamespaceStatus")],
   part "NamespaceCondition"
      [("lastTransitionTime", .time), ("message", .text), ("reason", .text), ("status", .text),
       ("type", .text)],
   part "NamespaceSpec"
      [("finalizers", .list .text)],
   part "NamespaceStatus"
      [("conditions", .list (.record "NamespaceCondition")), ("phase", .text)],
   resource "ResourceQuota" "v1"
      [("metadata", .record "ObjectMeta"), ("spec", .record "ResourceQuotaSpec"),
       ("status", .record "ResourceQuotaStatus")],
   part "ResourceQuotaSpec"
      [("hard", .dict .quantity), ("scopeSelector", .record "ScopeSelector"),
       ("scopes", .list .text)],
   part "ResourceQuotaStatus"
      [("hard", .dict .quantity), ("used", .dict .quantity)],
   part "ScopeSelector"
      [("matchExpressions", .list (.record "ScopedResourceSelectorRequirement"))],
   part "ScopedResourceSelectorRequirement"
      [("operator", .text), ("scopeName", .text), ("values", .list .text)],
   resource "Secret" "v1"
      [("data", .dict .bytes), ("immutable", .flag), ("metadata", .record "ObjectMeta"),
       ("stringData", .dict .text), ("type", .text)],
   resource "ServiceAccount" "v1"
      [("automountServiceAccountToken", .flag),
       ("imagePullSecrets", .list (.record "LocalObjectReference")),
       ("metadata", .record "ObjectMeta"), ("secrets", .list (.record "ObjectReference"))]]

end ResourceTemplate.Schema
