import ResourceTemplate.Schema.FieldType

/-!
# Pods

The records that describe a pod and the nodes it may run on.
-/

namespace ResourceTemplate.Schema

open RecordType

/-- Records: pods. -/
def podTypes : List RecordType :=
  [part "Affinity"
      [("nodeAffinity", .record "NodeAffinity"), ("podAffinity", .record "PodAffinity"),
       ("podAntiAffinity", .record "PodAntiAffinity")],
   part "HostAlias"
      [("hostnames", .list .text), ("ip", .text)],
   part "HostIP"
      [("ip", .text)],
   part "NodeAffinity"
      [
       ("preferredDuringSchedulingIgnoredDuringExecution", .list (.record "PreferredSchedulingTerm")),
       ("requiredDuringSchedulingIgnoredDuringExecution", .record "NodeSelector")],
   part "NodeSelector"
      [("nodeSelectorTerms", .list (.record "NodeSelectorTerm"))],
   part "NodeSelectorRequirement"
      [("key", .text), ("operator", .text), ("values", .list .text)],
   part "NodeSelectorTerm"
      [("matchExpressions", .list (.record "NodeSelectorRequirement")),
       ("matchFields", .list (.record "NodeSelectorRequirement"))],
   resource "Pod" "v1"
      [("metadata", .record "ObjectMeta"), ("spec", .record "PodSpec"),
       ("status", .record "PodStatus")],
   part "PodAffinity"
      [
       ("preferredDuringSchedulingIgnoredDuringExecution", .list (.record "WeightedPodAffinityTerm")),
       ("requiredDuringSchedulingIgnoredDuringExecution", .list (.record "PodAffinityTerm"))],
   part "PodAffinityTerm"
      [("labelSelector", .record "LabelSelector"), ("matchLabelKeys", .list .text),
       ("mismatchLabelKeys", .list .text), ("namespaceSelector", .record "LabelSelector"),
       ("namespaces", .list .text), ("topologyKey", .text)],
   part "PodAntiAffinity"
      [
       ("preferredDuringSchedulingIgnoredDuringExecution", .list (.record "WeightedPodAffinityTerm")),
       ("requiredDuringSchedulingIgnoredDuringExecution", .list (.record "PodAffinityTerm"))],
   part "PodCondition"
      [("lastProbeTime", .time), ("lastTransitionTime", .time), ("message", .text),
       ("reason", .text), ("status", .text), ("type", .text)],
   part "PodDNSConfig"
      [("nameservers", .list .text), ("options", .list (.record "PodDNSConfigOption")),
       ("searches", .list .text)],
   part "PodDNSConfigOption"
      [("name", .text), ("value", .text)],
   part "PodIP"
      [("ip", .text)],
   part "PodOS"
      [("name", .text)],
   part "PodReadinessGate"
      [("conditionType", .text)],
   part "PodResourceClaim"
      [("name", .text), ("resourceClaimName", .text), ("resourceClaimTemplateName", .text)],
   part "PodResourceClaimStatus"
      [("name", .text), ("resourceClaimName", .text)],
   part "PodSchedulingGate"
      [("name", .text)],
   part "PodSecurityContext"
      [("appArmorProfile", .record "AppArmorProfile"), ("fsGroup", .int64),
       ("fsGroupChangePolicy", .text), ("runAsGroup", .int64), ("runAsNonRoot", .flag),
       ("runAsUser", .int64), ("seLinuxChangePolicy", .text),
       ("seLinuxOptions", .record "SELinuxOptions"), ("seccompProfile", .record "SeccompProfile"),
       ("supplementalGroups", .list .int64), ("supplementalGroupsPolicy", .text),
       ("sysctls", .list (.record "Sysctl")),
       ("windowsOptions", .record "WindowsSecurityContextOptions")],
   part "PodSpec"
      [("activeDeadlineSeconds", .int64), ("affinity", .record "Affinity"),
       ("automountServiceAccountToken", .flag), ("containers", .list (.record "Container")),
       ("dnsConfig", .record "PodDNSConfig"), ("dnsPolicy", .text), ("enableServiceLinks", .flag),
       ("ephemeralContainers", .list (.record "EphemeralContainer")),
       ("hostAliases", .list (.record "HostAlias")), ("hostIPC", .flag), ("hostNetwork", .flag),
       ("hostPID", .flag), ("hostUsers", .flag), ("hostname", .text),
       ("imagePullSecrets", .list (.record "LocalObjectReference")),
       ("initContainers", .list (.record "Container")), ("nodeName", .text),
       ("nodeSelector", .dict .text), ("os", .record "PodOS"), ("overhead", .dict .quantity),
       ("preemptionPolicy", .text), ("priority", .int32), ("priorityClassName", .text),
       ("readinessGates", .list (.record "PodReadinessGate")),
       ("resourceClaims", .list (.record "PodResourceClaim")),
       ("resources", .record "ResourceRequirements"), ("restartPolicy", .text),
       ("runtimeClassName", .text), ("schedulerName", .text),
       ("schedulingGates", .list (.record "PodSchedulingGate")),
       ("securityContext", .record "PodSecurityContext"), ("serviceAccount", .text),
       ("serviceAccountName", .text), ("setHostnameAsFQDN", .flag),
       ("shareProcessNamespace", .flag), ("subdomain", .text),
       ("terminationGracePeriodSeconds", .int64), ("tolerations", .list (.record "Toleration")),
       ("topologySpreadConstraints", .list (.record "TopologySpreadConstraint")),
       ("volumes", .list (.record "Volume"))],
   part "PodStatus"
      [("conditions", .list (.record "PodCondition")),
       ("containerStatuses", .list (.record "ContainerStatus")),
       ("ephemeralContainerStatuses", .list (.record "ContainerStatus")), ("hostIP", .text),
       ("hostIPs", .list (.record "HostIP")),
       ("initContainerStatuses", .list (.record "ContainerStatus")), ("message", .text),
       ("nominatedNodeName", .text), ("phase", .text), ("podIP", .text),
       ("podIPs", .list (.record "PodIP")), ("qosClass", .text), ("reason", .text),
       ("resize", .text), ("resourceClaimStatuses", .list (.record "PodResourceClaimStatus")),
       ("startTime", .time)],
   part "PodTemplateSpec"
      [("metadata", .record "ObjectMeta"), ("spec", .record "PodSpec")],
   part "PreferredSchedulingTerm"
      [("preference", .record "NodeSelectorTerm"), ("weight", .int32)],
   part "Sysctl"
      [("name", .text), ("value", .text)],
   part "Toleration"
      [("effect", .text), ("key", .text), ("operator", .text), ("tolerationSeconds", .int64),
       ("value", .text)],
   part "TopologySpreadConstraint"
      [("labelSelector", .record "LabelSelector"), ("matchLabelKeys", .list .text),
       ("maxSkew", .int32), ("minDomains", .int32), ("nodeAffinityPolicy", .text),
       ("nodeTaintsPolicy", .text), ("topologyKey", .text), ("whenUnsatisfiable", .text)],
   part "WeightedPodAffinityTerm"
      [("podAffinityTerm", .record "PodAffinityTerm"), ("weight", .int32)]]

end ResourceTemplate.Schema
