import ResourceTemplate.Schema.FieldType

/-!
# Volumes

The records that describe where the files of a pod come from, and claims to storage.
-/

namespace ResourceTemplate.Schema

open RecordType

/-- Records: volumes. -/
def volumeTypes : List RecordType :=
  [part "AWSElasticBlockStoreVolumeSource"
      [("fsType", .text), ("partition", .int32), ("readOnly", .flag), ("volumeID", .text)],
   part "AzureDiskVolumeSource"
      [("cachingMode", .text), ("diskName", .text), ("diskURI", .text), ("fsType", .text),
       ("kind", .text), ("readOnly", .flag)],
   part "AzureFileVolumeSource"
      [("readOnly", .flag), ("secretName", .text), ("shareName", .text)],
   part "CSIVolumeSource"
      [("driver", .text), ("fsType", .text),
       ("nodePublishSecretRef", .record "LocalObjectReference"), ("readOnly", .flag),
       ("volumeAttributes", .dict .text)],
   part "CephFSVolumeSource"
      [("monitors", .list .text), ("path", .text), ("readOnly", .flag), ("secretFile", .text),
       ("secretRef", .record "LocalObjectReference"), ("user", .text)],
   part "CinderVolumeSource"
      [("fsType", .text), ("readOnly", .flag), ("secretRef", .record "LocalObjectReference"),
       ("volumeID", .text)],
   part "ClusterTrustBundleProjection"
      [("labelSelector", .record "LabelSelector"), ("name", .text), ("optional", .flag),
       ("path", .text), ("signerName", .text)],
   part "ConfigMapProjection"
      [("items", .list (.record "KeyToPath")), ("name", .text), ("optional", .flag)],
   part "ConfigMapVolumeSource"
      [("defaultMode", .int32), ("items", .list (.record "KeyToPath")), ("name", .text),
       ("optional", .flag)],
   part "DownwardAPIProjection"
      [("items", .list (.record "DownwardAPIVolumeFile"))],
   part "DownwardAPIVolumeFile"
      [("fieldRef", .record "ObjectFieldSelector"), ("mode", .int32), ("path", .text),
       ("resourceFieldRef", .record "ResourceFieldSelector")],
   part "DownwardAPIVolumeSource"
      [("defaultMode", .int32), ("items", .list (.record "DownwardAPIVolumeFile"))],
   part "EmptyDirVolumeSource"
      [("medium", .text), ("sizeLimit", .quantity)],
   part "EphemeralVolumeSource"
      [("volumeClaimTemplate", .record "PersistentVolumeClaimTemplate")],
   part "FCVolumeSource"
      [("fsType", .text), ("lun", .int32), ("readOnly", .flag), ("targetWWNs", .list .text),
       ("wwids", .list .text)],
   part "FlexVolumeSource"
      [("driver", .text), ("fsType", .text), ("options", .dict .text), ("readOnly", .flag),
       ("secretRef", .record "LocalObjectReference")],
   part "FlockerVolumeSource"
      [("datasetName", .text), ("datasetUUID", .text)],
   part "GCEPersistentDiskVolumeSource"
      [("fsType", .text), ("partition", .int32), ("pdName", .text), ("readOnly", .flag)],
   part "GitRepoVolumeSource"
      [("directory", .text), ("repository", .text), ("revision", .text)],
   part "GlusterfsVolumeSource"
      [("endpoints", .text), ("path", .text), ("readOnly", .flag)],
   part "HostPathVolumeSource"
      [("path", .text), ("type", .text)],
   part "ISCSIVolumeSource"
      [("chapAuthDiscovery", .flag), ("chapAuthSession", .flag), ("fsType", .text),
       ("initiatorName", .text), ("iqn", .text), ("iscsiInterface", .text), ("lun", .int32),
       ("portals", .list .text), ("readOnly", .flag),
       ("secretRef", .record "LocalObjectReference"), ("targetPortal", .text)],
   part "ImageVolumeSource"
      [("pullPolicy", .text), ("reference", .text)],
   part "KeyToPath"
      [("key", .text), ("mode", .int32), ("path", .text)],
   part "ModifyVolumeStatus"
      [("status", .text), ("targetVolumeAttributesClassName", .text)],
   part "NFSVolumeSource"
      [("path", .text), ("readOnly", .flag), ("server", .text)],
   resource "PersistentVolumeClaim" "v1"
      [("metadata", .record "ObjectMeta"), ("spec", .record "PersistentVolumeClaimSpec"),
       ("status", .record "PersistentVolumeClaimStatus")],
   part "PersistentVolumeClaimCondition"
      [("lastProbeTime", .time), ("lastTransitionTime", .time), ("message", .text),
       ("reason", .text), ("status", .text), ("type", .text)],
   part "PersistentVolumeClaimSpec"
      [("accessModes", .list .text), ("dataSource", .record "TypedLocalObjectReference"),
       ("dataSourceRef", .record "TypedObjectReference"),
       ("resources", .record "VolumeResourceRequirements"), ("selector", .record "LabelSelector"),
       ("storageClassName", .text), ("volumeAttributesClassName", .text), ("volumeMode", .text),
       ("volumeName", .text)],
   part "PersistentVolumeClaimStatus"
      [("accessModes", .list .text), ("allocatedResourceStatuses", .dict .text),
       ("allocatedResources", .dict .quantity), ("capacity", .dict .quantity),
       ("conditions", .list (.record "PersistentVolumeClaimCondition")),
       ("currentVolumeAttributesClassName", .text),
       ("modifyVolumeStatus", .record "ModifyVolumeStatus"), ("phase", .text)],
   part "PersistentVolumeClaimTemplate"
      [("metadata", .record "ObjectMeta"), ("spec", .record "PersistentVolumeClaimSpec")],
   part "PersistentVolumeClaimVolumeSource"
      [("claimName", .text), ("readOnly", .flag)],
   part "PhotonPersistentDiskVolumeSource"
      [("fsType", .text), ("pdID", .text)],
   part "PortworxVolumeSource"
      [("fsType", .text), ("readOnly", .flag), ("volumeID", .text)],
   part "ProjectedVolumeSource"
      [("defaultMode", .int32), ("sources", .list (.record "VolumeProjection"))],
   part "QuobyteVolumeSource"
      [("group", .text), ("readOnly", .flag), ("registry", .text), ("tenant", .text),
       ("user", .text), ("volume", .text)],
   part "RBDVolumeSource"
      [("fsType", .text), ("image", .text), ("keyring", .text), ("monitors", .list .text),
       ("pool", .text), ("readOnly", .flag), ("secretRef", .record "LocalObjectReference"),
       ("user", .text)],
   part "ScaleIOVolumeSource"
      [("fsType", .text), ("gateway", .text), ("protectionDomain", .text), ("readOnly", .flag),
       ("secretRef", .record "LocalObjectReference"), ("sslEnabled", .flag),
       ("storageMode", .text), ("storagePool", .text), ("system", .text), ("volumeName", .text)],
   part "SecretProjection"
      [("items", .list (.record "KeyToPath")), ("name", .text), ("optional", .flag)],
   part "SecretVolumeSource"
      [("defaultMode", .int32), ("items", .list (.record "KeyToPath")), ("optional", .flag),
       ("secretName", .text)],
   part "ServiceAccountTokenProjection"
      [("audience", .text), ("expirationSeconds", .int64), ("path", .text)],
   part "StorageOSVolumeSource"
      [("fsType", .text), ("readOnly", .flag), ("secretRef", .record "LocalObjectReference"),
       ("volumeName", .text), ("volumeNamespace", .text)],
   part "Volume"
      [("awsElasticBlockStore", .record "AWSElasticBlockStoreVolumeSource"),
       ("azureDisk", .record "AzureDiskVolumeSource"),
       ("azureFile", .record "AzureFileVolumeSource"), ("cephfs", .record "CephFSVolumeSource"),
       ("cinder", .record "CinderVolumeSource"), ("configMap", .record "ConfigMapVolumeSource"),
       ("csi", .record "CSIVolumeSource"), ("downwardAPI", .record "DownwardAPIVolumeSource"),
       ("emptyDir", .record "EmptyDirVolumeSource"),
       ("ephemeral", .record "EphemeralVolumeSource"), ("fc", .record "FCVolumeSource"),
       ("flexVolume", .record "FlexVolumeSource"), ("flocker", .record "FlockerVolumeSource"),
       ("gcePersistentDisk", .record "GCEPersistentDiskVolumeSource"),
       ("gitRepo", .record "GitRepoVolumeSource"), ("glusterfs", .record "GlusterfsVolumeSource"),
       ("hostPath", .record "HostPathVolumeSource"), ("image", .record "ImageVolumeSource"),
       ("iscsi", .record "ISCSIVolumeSource"), ("name", .text),
       ("nfs", .record "NFSVolumeSource"),
       ("persistentVolumeClaim", .record "PersistentVolumeClaimVolumeSource"),
       ("photonPersistentDisk", .record "PhotonPersistentDiskVolumeSource"),
       ("portworxVolume", .record "PortworxVolumeSource"),
       ("projected", .record "ProjectedVolumeSource"), ("quobyte", .record "QuobyteVolumeSource"),
       ("rbd", .record "RBDVolumeSource"), ("scaleIO", .record "ScaleIOVolumeSource"),
       ("secret", .record "SecretVolumeSource"), ("storageos", .record "StorageOSVolumeSource"),
       ("vsphereVolume", .record "VsphereVirtualDiskVolumeSource")],
   part "VolumeProjection"
      [("clusterTrustBundle", .record "ClusterTrustBundleProjection"),
       ("configMap", .record "ConfigMapProjection"),
       ("downwardAPI", .record "DownwardAPIProjection"), ("secret", .record "SecretProjection"),
       ("serviceAccountToken", .record "ServiceAccountTokenProjection")],
   part "VolumeResourceRequirements"
      [("limits", .dict .quantity), ("requests", .dict .quantity)],
   part "VsphereVirtualDiskVolumeSource"
      [("fsType", .text), ("storagePolicyID", .text), ("storagePolicyName", .text),
       ("volumePath", .text)]]

end ResourceTemplate.Schema
