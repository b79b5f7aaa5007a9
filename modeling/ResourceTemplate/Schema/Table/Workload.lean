import ResourceTemplate.Schema.FieldType

/-!
# Workloads

The records of deployments, stateful sets and daemon sets.
-/

namespace ResourceTemplate.Schema

open RecordType

/-- Records: workloads. -/
def workloadTypes : List RecordType :=
  [resource "DaemonSet" "apps/v1"
      [("metadata", .record "ObjectMeta"), ("spec", .record "DaemonSetSpec"),
       ("status", .record "DaemonSetStatus")],
   part "DaemonSetCondition"
      [("lastTransitionTime", .time), ("message", .text), ("reason", .text), ("status", .text),
       ("type", .text)],
   part "DaemonSetSpec"
      [("minReadySeconds", .int32), ("revisionHistoryLimit", .int32),
       ("selector", .record "LabelSelector"), ("template", .record "PodTemplateSpec"),
       ("updateStrategy", .record "DaemonSetUpdateStrategy")],
   part "DaemonSetStatus"
      [("collisionCount", .int32), ("conditions", .list (.record "DaemonSetCondition")),
       ("currentNumberScheduled", .int32), ("desiredNumberScheduled", .int32),
       ("numberAvailable", .int32), ("numberMisscheduled", .int32), ("numberReady", .int32),
       ("numberUnavailable", .int32), ("observedGeneration", .int64),
       ("updatedNumberScheduled", .int32)],
   part "DaemonSetUpdateStrategy"
      [("rollingUpdate", .record "RollingUpdateDaemonSet"), ("type", .text)],
   resource "Deployment" "apps/v1"
      [("metadata", .record "ObjectMeta"), ("spec", .record "DeploymentSpec"),
       ("status", .record "DeploymentStatus")],
   part "DeploymentCondition"
      [("lastTransitionTime", .time), ("lastUpdateTime", .time), ("message", .text),
       ("reason", .text), ("status", .text), ("type", .text)],
   part "DeploymentSpec"
      [("minReadySeconds", .int32), ("paused", .flag), ("progressDeadlineSeconds", .int32),
       ("replicas", .int32), ("revisionHistoryLimit", .int32),
       ("selector", .record "LabelSelector"), ("strategy", .record "DeploymentStrategy"),
       ("template", .record "PodTemplateSpec")],
   part "DeploymentStatus"
      [("availableReplicas", .int32), ("collisionCount", .int32),
       ("conditions", .list (.record "DeploymentCondition")), ("observedGeneration", .int64),
       ("readyReplicas", .int32), ("replicas", .int32), ("unavailableReplicas", .int32),
       ("updatedReplicas", .int32)],
   part "DeploymentStrategy"
      [("rollingUpdate", .record "RollingUpdateDeployment"), ("type", .text)],
   part "RollingUpdateDaemonSet"
      [("maxSurge", .intOrText), ("maxUnavailable", .intOrText)],
   part "RollingUpdateDeployment"
      [("maxSurge", .intOrText), ("maxUnavailable", .intOrText)],
   part "RollingUpdateStatefulSetStrategy"
      [("maxUnavailable", .intOrText), ("partition", .int32)],
   resource "StatefulSet" "apps/v1"
      [("metadata", .record "ObjectMeta"), ("spec", .record "StatefulSetSpec"),
       ("status", .record "StatefulSetStatus")],
   part "StatefulSetCondition"
      [("lastTransitionTime", .time), ("message", .text), ("reason", .text), ("status", .text),
       ("type", .text)],
   part "StatefulSetOrdinals"
      [("start", .int32)],
   part "StatefulSetPersistentVolumeClaimRetentionPolicy"
      [("whenDeleted", .text), ("whenScaled", .text)],
   part "StatefulSetSpec"
      [("minReadySeconds", .int32), ("ordinals", .record "StatefulSetOrdinals"),
       ("persistentVolumeClaimRetentionPolicy",
         .record "StatefulSetPersistentVolumeClaimRetentionPolicy"),
       ("podManagementPolicy", .text), ("replicas", .int32), ("revisionHistoryLimit", .int32),
       ("selector", .record "LabelSelector"), ("serviceName", .text),
       ("template", .record "PodTemplateSpec"),
       ("updateStrategy", .record "StatefulSetUpdateStrategy"),
       ("volumeClaimTemplates", .list (.record "PersistentVolumeClaim"))],
   part "StatefulSetStatus"
      [("availableReplicas", .int32), ("collisionCount", .int32),
       ("conditions", .list (.record "StatefulSetCondition")), ("currentReplicas", .int32),
       ("currentRevision", .text), ("observedGeneration", .int64), ("readyReplicas", .int32),
       ("replicas", .int32), ("updateRevision", .text), ("updatedReplicas", .int32)],
   part "StatefulSetUpdateStrategy"
      [("rollingUpdate", .record "RollingUpdateStatefulSetStrategy"), ("type", .text)]]

end ResourceTemplate.Schema
