import ResourceTemplate.Schema.Table.Access
import ResourceTemplate.Schema.Table.Configuration
import ResourceTemplate.Schema.Table.Container
import ResourceTemplate.Schema.Table.Meta
import ResourceTemplate.Schema.Table.Network
import ResourceTemplate.Schema.Table.Pod
import ResourceTemplate.Schema.Table.Volume
import ResourceTemplate.Schema.Table.Workload

/-!
# The table of record types

All record types together, and the kinds that are known without being asked for.
-/

namespace ResourceTemplate.Schema

/-- All record types. -/
def recordTypes : List RecordType :=
  metaTypes ++ configurationTypes ++ workloadTypes ++ podTypes ++ containerTypes ++ volumeTypes ++
    networkTypes ++ accessTypes

/-- A record type by its name; a name outside the table is a record without fields. -/
def recordType (name : String) : RecordType :=
  (recordTypes.find? fun r => r.name = name).getD (RecordType.part name [])

/-- The names of the record types that objects are usually made of. -/
def builtinKinds : List String :=
  ["Namespace", "ConfigMap", "Secret", "Service", "ServiceAccount", "PersistentVolumeClaim",
   "LimitRange", "ResourceQuota", "Deployment", "StatefulSet", "DaemonSet", "Role", "RoleBinding",
   "ClusterRole", "ClusterRoleBinding", "NetworkPolicy", "Ingress"]

end ResourceTemplate.Schema
