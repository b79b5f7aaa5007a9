import ResourceTemplate.Schema.FieldType

/-!
# Roles

The records that say who may do what.
-/

namespace ResourceTemplate.Schema

open RecordType

/-- Records: roles. -/
def accessTypes : List RecordType :=
  [part "AggregationRule"
      [("clusterRoleSelectors", .list (.record "LabelSelector"))],
   resource "ClusterRole" "rbac.authorization.k8s.io/v1"
      [("aggregationRule", .record "AggregationRule"), ("metadata", .record "ObjectMeta"),
       ("rules", .list (.record "PolicyRule"))],
   resource "ClusterRoleBinding" "rbac.authorization.k8s.io/v1"
      [("metadata", .record "ObjectMeta"), ("roleRef", .record "RoleRef"),
       ("subjects", .list (.record "Subject"))],
   part "PolicyRule"
      [("apiGroups", .list .text), ("nonResourceURLs", .list .text),
       ("resourceNames", .list .text), ("resources", .list .text), ("verbs", .list .text)],
   resource "Role" "rbac.authorization.k8s.io/v1"
      [("metadata", .record "ObjectMeta"), ("rules", .list (.record "PolicyRule"))],
   resource "RoleBinding" "rbac.authorization.k8s.io/v1"
      [("metadata", .record "ObjectMeta"), ("roleRef", .record "RoleRef"),
       ("subjects", .list (.record "Subject"))],
   part "RoleRef"
      [("apiGroup", .text), ("kind", .text), ("name", .text)],
   part "Subject"
      [("apiGroup", .text), ("kind", .text), ("name", .text), ("namespace", .text)]]

end ResourceTemplate.Schema
