import ResourceTemplate.Schema.FieldType

/-!
# Metadata and references

The records that say what an object is called, who owns and manages it, and how objects refer to
each other.
-/

namespace ResourceTemplate.Schema

open RecordType

/-- Records: metadata and references. -/
def metaTypes : List RecordType :=
  [part "APIResource"
      [("categories", .list .text), ("group", .text), ("kind", .text), ("name", .text),
       ("namespaced", .flag), ("shortNames", .list .text), ("singularName", .text),
       ("storageVersionHash", .text), ("verbs", .list .text), ("version", .text)],
   resource "APIResourceList" "v1"
      [("groupVersion", .text), ("resources", .list (.record "APIResource"))],
   part "Condition"
      [("lastTransitionTime", .time), ("message", .text), ("observedGeneration", .int64),
       ("reason", .text), ("status", .text), ("type", .text)],
   part "LabelSelector"
      [("matchExpressions", .list (.record "LabelSelectorRequirement")),
       ("matchLabels", .dict .text)],
   part "LabelSelectorRequirement"
      [("key", .text), ("operator", .text), ("values", .list .text)],
   part "LocalObjectReference"
      [("name", .text)],
   part "ManagedFieldsEntry"
      [("apiVersion", .text), ("fieldsType", .text), ("fieldsV1", .anything), ("manager", .text),
       ("operation", .text), ("subresource", .text), ("time", .time)],
   part "ObjectMeta"
      [("annotations", .dict .text), ("creationTimestamp", .time),
       ("deletionGracePeriodSeconds", .int64), ("deletionTimestamp", .time),
       ("finalizers", .list .text), ("generateName", .text), ("generation", .int64),
       ("labels", .dict .text), ("managedFields", .list (.record "ManagedFieldsEntry")),
       ("name", .text), ("namespace", .text),
       ("ownerReferences", .list (.record "OwnerReference")), ("resourceVersion", .text),
       ("selfLink", .text), ("uid", .text)],
   part "ObjectReference"
      [("apiVersion", .text), ("fieldPath", .text), ("kind", .text), ("name", .text),
       ("namespace", .text), ("resourceVersion", .text), ("uid", .text)],
   { part "OwnerReference"
      [("apiVersion", .text), ("blockOwnerDeletion", .flag), ("controller", .flag),
       ("kind", .text), ("name", .text), ("uid", .text)] with
      always := ["apiVersion", "kind", "name", "uid"] },
   part "TypedLocalObjectReference"
      [("apiGroup", .text), ("kind", .text), ("name", .text)],
   part "TypedObjectReference"
      [("apiGroup", .text), ("kind", .text), ("name", .text), ("namespace", .text)]]

end ResourceTemplate.Schema
