import BuildTrial.Api.Pod.Parts

/-!
# Volumes of pods

A volume has a name and a source, which is one of many kinds.
-/

namespace BuildTrial.Api.Pod

open Shape

/-! ## Data of the cluster -/

/-- Keys of an object as files. -/
def keyFiles : Shape := listOf (fields [("key", text), ("mode", signed 32), ("path", text)])

def downwardFiles : Shape :=
  listOf (fields
    [("fieldRef", fieldReference), ("mode", signed 32), ("path", text),
      ("resourceFieldRef", resourceReference)])

def configMapSource : Shape :=
  fields
    [("defaultMode", signed 32), ("items", keyFiles), ("name", text), ("optional", flag)]

def secretSource : Shape :=
  fields
    [("defaultMode", signed 32), ("items", keyFiles), ("optional", flag), ("secretName", text)]

def downwardSource : Shape := fields [("defaultMode", signed 32), ("items", downwardFiles)]

/-- Files from one of several sources. -/
def projection : Shape :=
  fields
    [("clusterTrustBundle", fields
        [("labelSelector", labelSelector), ("name", text), ("optional", flag), ("path", text),
          ("signerName", text)]),
      ("configMap", fields [("items", keyFiles), ("name", text), ("optional", flag)]),
      ("downwardAPI", fields [("items", downwardFiles)]),
      ("secret", fields [("items", keyFiles), ("name", text), ("optional", flag)]),
      ("serviceAccountToken", fields
        [("audience", text), ("expirationSeconds", signed 64), ("path", text)])]

def projectedSource : Shape :=
  fields [("defaultMode", signed 32), ("sources", listOf projection)]

/-! ## Claims -/

def dataSource : Shape := fields [("apiGroup", text), ("kind", text), ("name", text)]

def dataReference : Shape :=
  fields [("apiGroup", text), ("kind", text), ("name", text), ("namespace", text)]

def claimTemplate : Shape :=
  fields
    [("metadata", Metadata.shape),
      ("spec", fields
        [("accessModes", listOf text), ("dataSource", dataSource),
          ("dataSourceRef", dataReference),
          ("resources", fields [("limits", amounts), ("requests", amounts)]),
          ("selector", labelSelector), ("storageClassName", text),
          ("volumeAttributesClassName", text), ("volumeMode", text), ("volumeName", text)])]

/-! ## Storage -/

def cloudSources : List (String × Shape) :=
  [("awsElasticBlockStore", fields
      [("fsType", text), ("partition", signed 32), ("readOnly", flag), ("volumeID", text)]),
    ("azureDisk", fields
      [("cachingMode", text), ("diskName", text), ("diskURI", text), ("fsType", text),
        ("kind", text), ("readOnly", flag)]),
    ("azureFile", fields [("readOnly", flag), ("secretName", text), ("shareName", text)]),
    ("cephfs", fields
      [("monitors", listOf text), ("path", text), ("readOnly", flag), ("secretFile", text),
        ("secretRef", localReference), ("user", text)]),
    ("cinder", fields
      [("fsType", text), ("readOnly", flag), ("secretRef", localReference), ("volumeID", text)])]

def driverSource : Shape :=
  fields
    [("driver", text), ("fsType", text), ("nodePublishSecretRef", localReference),
      ("readOnly", flag), ("volumeAttributes", mapOf text)]

def fibreChannelSource : Shape :=
  fields
    [("fsType", text), ("lun", signed 32), ("readOnly", flag), ("targetWWNs", listOf text),
      ("wwids", listOf text)]

def iscsiSource : Shape :=
  fields
    [("chapAuthDiscovery", flag), ("chapAuthSession", flag), ("fsType", text),
      ("initiatorName", text), ("iqn", text), ("iscsiInterface", text), ("lun", signed 32),
      ("portals", listOf text), ("readOnly", flag), ("secretRef", localReference),
      ("targetPortal", text)]

def networkSources : List (String × Shape) :=
  [("persistentVolumeClaim", fields [("claimName", text), ("readOnly", flag)]),
    ("photonPersistentDisk", fields [("fsType", text), ("pdID", text)]),
    ("portworxVolume", fields [("fsType", text), ("readOnly", flag), ("volumeID", text)]),
    ("projected", projectedSource),
    ("quobyte", fields
      [("group", text), ("readOnly", flag), ("registry", text), ("tenant", text), ("user", text),
        ("volume", text)]),
    ("rbd", fields
      [("fsType", text), ("image", text), ("keyring", text), ("monitors", listOf text),
        ("pool", text), ("readOnly", flag), ("secretRef", localReference), ("user", text)]),
    ("scaleIO", fields
      [("fsType", text), ("gateway", text), ("protectionDomain", text), ("readOnly", flag),
        ("secretRef", localReference), ("sslEnabled", flag), ("storageMode", text),
        ("storagePool", text), ("system", text), ("volumeName", text)]),
    ("secret", secretSource),
    ("storageos", fields
      [("fsType", text), ("readOnly", flag), ("secretRef", localReference), ("volumeName", text),
        ("volumeNamespace", text)]),
    ("vsphereVolume", fields
      [("fsType", text), ("storagePolicyID", text), ("storagePolicyName", text),
        ("volumePath", text)])]

def volume : Shape :=
  fields <| cloudSources ++
    [("configMap", configMapSource), ("csi", driverSource), ("downwardAPI", downwardSource),
      ("emptyDir", fields [("medium", text), ("sizeLimit", quantity)]),
      ("ephemeral", fields [("volumeClaimTemplate", claimTemplate)]),
      ("fc", fibreChannelSource),
      ("flexVolume", fields
        [("driver", text), ("fsType", text), ("options", mapOf text), ("readOnly", flag),
          ("secretRef", localReference)]),
      ("flocker", fields [("datasetName", text), ("datasetUUID", text)]),
      ("gcePersistentDisk", fields
        [("fsType", text), ("partition", signed 32), ("pdName", text), ("readOnly", flag)]),
      ("gitRepo", fields [("directory", text), ("repository", text), ("revision", text)]),
      ("glusterfs", fields [("endpoints", text), ("path", text), ("readOnly", flag)]),
      ("hostPath", fields [("path", text), ("type", text)]),
      ("image", fields [("pullPolicy", text), ("reference", text)]), ("iscsi", iscsiSource),
      ("name", text),
      ("nfs", fields [("path", text), ("readOnly", flag), ("server", text)])] ++
    networkSources

end BuildTrial.Api.Pod
