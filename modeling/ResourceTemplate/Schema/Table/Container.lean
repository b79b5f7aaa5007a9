import ResourceTemplate.Schema.FieldType

/-!
# Containers

The records that describe a container: its image, environment, ports, probes and privileges.
-/

namespace ResourceTemplate.Schema

open RecordType

/-- Records: containers. -/
def containerTypes : List RecordType :=
  [part "AppArmorProfile"
      [("localhostProfile", .text), ("type", .text)],
   part "Capabilities"
      [("add", .list .text), ("drop", .list .text)],
   part "ConfigMapEnvSource"
      [("name", .text), ("optional", .flag)],
   part "ConfigMapKeySelector"
      [("key", .text), ("name", .text), ("optional", .flag)],
   part "Container"
      [("args", .list .text), ("command", .list .text), ("env", .list (.record "EnvVar")),
       ("envFrom", .list (.record "EnvFromSource")), ("image", .text), ("imagePullPolicy", .text),
       ("lifecycle", .record "Lifecycle"), ("livenessProbe", .record "Probe"), ("name", .text),
       ("ports", .list (.record "ContainerPort")), ("readinessProbe", .record "Probe"),
       ("resizePolicy", .list (.record "ContainerResizePolicy")),
       ("resources", .record "ResourceRequirements"), ("restartPolicy", .text),
       ("securityContext", .record "SecurityContext"), ("startupProbe", .record "Probe"),
       ("stdin", .flag), ("stdinOnce", .flag), ("terminationMessagePath", .text),
       ("terminationMessagePolicy", .text), ("tty", .flag),
       ("volumeDevices", .list (.record "VolumeDevice")),
       ("volumeMounts", .list (.record "VolumeMount")), ("workingDir", .text)],
   part "ContainerPort"
      [("containerPort", .int32), ("hostIP", .text), ("hostPort", .int32), ("name", .text),
       ("protocol", .text)],
   part "ContainerResizePolicy"
      [("resourceName", .text), ("restartPolicy", .text)],
   part "ContainerState"
      [("running", .record "ContainerStateRunning"),
       ("terminated", .record "ContainerStateTerminated"),
       ("waiting", .record "ContainerStateWaiting")],
   part "ContainerStateRunning"
      [("startedAt", .time)],
   part "ContainerStateTerminated"
      [("containerID", .text), ("exitCode", .int32), ("finishedAt", .time), ("message", .text),
       ("reason", .text), ("signal", .int32), ("startedAt", .time)],
   part "ContainerStateWaiting"
      [("message", .text), ("reason", .text)],
   part "ContainerStatus"
      [("allocatedResources", .dict .quantity),
       ("allocatedResourcesStatus", .list (.record "ResourceStatus")), ("containerID", .text),
       ("image", .text), ("imageID", .text), ("lastState", .record "ContainerState"),
       ("name", .text), ("ready", .flag), ("resources", .record "ResourceRequirements"),
       ("restartCount", .int32), ("started", .flag), ("state", .record "ContainerState"),
       ("user", .record "ContainerUser"), ("volumeMounts", .list (.record "VolumeMountStatus"))],
   part "ContainerUser"
      [("linux", .record "LinuxContainerUser")],
   part "EnvFromSource"
      [("configMapRef", .record "ConfigMapEnvSource"), ("prefix", .text),
       ("secretRef", .record "SecretEnvSource")],
   part "EnvVar"
      [("name", .text), ("value", .text), ("valueFrom", .record "EnvVarSource")],
   part "EnvVarSource"
      [("configMapKeyRef", .record "ConfigMapKeySelector"),
       ("fieldRef", .record "ObjectFieldSelector"),
       ("resourceFieldRef", .record "ResourceFieldSelector"),
       ("secretKeyRef", .record "SecretKeySelector")],
   part "EphemeralContainer"
      [("args", .list .text), ("command", .list .text), ("env", .list (.record "EnvVar")),
       ("envFrom", .list (.record "EnvFromSource")), ("image", .text), ("imagePullPolicy", .text),
       ("lifecycle", .record "Lifecycle"), ("livenessProbe", .record "Probe"), ("name", .text),
       ("ports", .list (.record "ContainerPort")), ("readinessProbe", .record "Probe"),
       ("resizePolicy", .list (.record "ContainerResizePolicy")),
       ("resources", .record "ResourceRequirements"), ("restartPolicy", .text),
       ("securityContext", .record "SecurityContext"), ("startupProbe", .record "Probe"),
       ("stdin", .flag), ("stdinOnce", .flag), ("targetContainerName", .text),
       ("terminationMessagePath", .text), ("terminationMessagePolicy", .text), ("tty", .flag),
       ("volumeDevices", .list (.record "VolumeDevice")),
       ("volumeMounts", .list (.record "VolumeMount")), ("workingDir", .text)],
   part "ExecAction"
      [("command", .list .text)],
   part "GRPCAction"
      [("port", .int32), ("service", .text)],
   part "HTTPGetAction"
      [("host", .text), ("httpHeaders", .list (.record "HTTPHeader")), ("path", .text),
       ("port", .intOrText), ("scheme", .text)],
   part "HTTPHeader"
      [("name", .text), ("value", .text)],
   part "Lifecycle"
      [("postStart", .record "LifecycleHandler"), ("preStop", .record "LifecycleHandler")],
   part "LifecycleHandler"
      [("exec", .record "ExecAction"), ("httpGet", .record "HTTPGetAction"),
       ("sleep", .record "SleepAction"), ("tcpSocket", .record "TCPSocketAction")],
   part "LinuxContainerUser"
      [("gid", .int64), ("supplementalGroups", .list .int64), ("uid", .int64)],
   part "ObjectFieldSelector"
      [("apiVersion", .text), ("fieldPath", .text)],
   part "Probe"
      [("exec", .record "ExecAction"), ("failureThreshold", .int32),
       ("grpc", .record "GRPCAction"), ("httpGet", .record "HTTPGetAction"),
       ("initialDelaySeconds", .int32), ("periodSeconds", .int32), ("successThreshold", .int32),
       ("tcpSocket", .record "TCPSocketAction"), ("terminationGracePeriodSeconds", .int64),
       ("timeoutSeconds", .int32)],
   part "ResourceClaim"
      [("name", .text), ("request", .text)],
   part "ResourceFieldSelector"
      [("containerName", .text), ("divisor", .quantity), ("resource", .text)],
   part "ResourceHealth"
      [("health", .text), ("resourceID", .text)],
   part "ResourceRequirements"
      [("claims", .list (.record "ResourceClaim")), ("limits", .dict .quantity),
       ("requests", .dict .quantity)],
   part "ResourceStatus"
      [("name", .text), ("resources", .list (.record "ResourceHealth"))],
   part "SELinuxOptions"
      [("level", .text), ("role", .text), ("type", .text), ("user", .text)],
   part "SeccompProfile"
      [("localhostProfile", .text), ("type", .text)],
   part "SecretEnvSource"
      [("name", .text), ("optional", .flag)],
   part "SecretKeySelector"
      [("key", .text), ("name", .text), ("optional", .flag)],
   part "SecurityContext"
      [("allowPrivilegeEscalation", .flag), ("appArmorProfile", .record "AppArmorProfile"),
       ("capabilities", .record "Capabilities"), ("privileged", .flag), ("procMount", .text),
       ("readOnlyRootFilesystem", .flag), ("runAsGroup", .int64), ("runAsNonRoot", .flag),
       ("runAsUser", .int64), ("seLinuxOptions", .record "SELinuxOptions"),
       ("seccompProfile", .record "SeccompProfile"),
       ("windowsOptions", .record "WindowsSecurityContextOptions")],
   part "SleepAction"
      [("seconds", .int64)],
   part "TCPSocketAction"
      [("host", .text), ("port", .intOrText)],
   part "VolumeDevice"
      [("devicePath", .text), ("name", .text)],
   part "VolumeMount"
      [("mountPath", .text), ("mountPropagation", .text), ("name", .text), ("readOnly", .flag),
       ("recursiveReadOnly", .text), ("subPath", .text), ("subPathExpr", .text)],
   part "VolumeMountStatus"
      [("mountPath", .text), ("name", .text), ("readOnly", .flag), ("recursiveReadOnly", .text)],
   part "WindowsSecurityContextOptions"
      [("gmsaCredentialSpec", .text), ("gmsaCredentialSpecName", .text), ("hostProcess", .flag),
       ("runAsUserName", .text)]]

end ResourceTemplate.Schema
