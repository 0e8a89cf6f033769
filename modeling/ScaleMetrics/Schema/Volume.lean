import ScaleMetrics.Schema.Container

/-!
# Schema — Volume

The volumes of a pod, of every kind, and claims for storage.
-/

namespace ScaleMetrics.Schema

/-! ### Claims -/

/-- The object that a claim starts from. -/
def dataSource : Schema :=
  .object (texts ["kind", "name"]) (texts ["apiGroup"])

/-- The object that a claim starts from, of any namespace. -/
def dataSourceRef : Schema :=
  .object (texts ["kind", "name"]) (texts ["apiGroup", "namespace"])

/-- What a claim asks for. -/
def claimSpec : Schema :=
  .object []
    (texts ["storageClassName", "volumeMode", "volumeName"] ++ textLists ["accessModes"] ++
      [("dataSource", dataSource), ("dataSourceRef", dataSourceRef),
        ("resources", containerResources), ("selector", labelSelector)])

/-- A claim that is made for a pod. -/
def claimTemplate : Schema :=
  .object [("spec", claimSpec)] [("metadata", metadata)]

/-- A condition of a claim. -/
def claimCondition : Schema :=
  .object (texts ["status", "type"])
    (texts ["message", "reason"] ++ each .time ["lastProbeTime", "lastTransitionTime"])

/-- What became of a claim so far. -/
def claimStatus : Schema :=
  .object []
    (texts ["phase"] ++ textLists ["accessModes"] ++
      textDicts ["allocatedResourceStatuses", "allocatedResources", "capacity"] ++
      [("conditions", .list claimCondition)])

/-- A claim for storage. -/
def claim : Schema :=
  .resource "v1" "PersistentVolumeClaim" [("metadata", metadata)]
    [("spec", claimSpec), ("status", claimStatus)]

/-! ### Files made of other objects -/

/-- A file that holds the value at a key. -/
def keyFile : Schema :=
  .object (texts ["key", "path"]) (int32s ["mode"])

/-- A file that holds a field of the pod. -/
def fieldFile : Schema :=
  .object (texts ["path"])
    (int32s ["mode"] ++ [("fieldRef", fieldRef), ("resourceFieldRef", resourceFieldRef)])

/-- A token that proves the identity of the pod. -/
def tokenFile : Schema :=
  .object (texts ["path"]) (texts ["audience"] ++ int64s ["expirationSeconds"])

/-- Files that hold the values of another object. -/
def keyFiles : Schema :=
  .object [] (texts ["name"] ++ flags ["optional"] ++ [("items", .list keyFile)])

/-- One of several sources of files. -/
def projection : Schema :=
  .object []
    [("configMap", keyFiles), ("downwardAPI", .object [] [("items", .list fieldFile)]),
      ("secret", keyFiles), ("serviceAccountToken", tokenFile)]

/-- The volumes that hold other objects, by kind. -/
def objectVolumes : List (String × Schema) :=
  [("configMap",
      .object []
        (texts ["name"] ++ flags ["optional"] ++ int32s ["defaultMode"] ++
          [("items", .list keyFile)])),
    ("downwardAPI", .object [] (int32s ["defaultMode"] ++ [("items", .list fieldFile)])),
    ("projected", .object [] (int32s ["defaultMode"] ++ [("sources", .list projection)])),
    ("secret",
      .object []
        (texts ["secretName"] ++ flags ["optional"] ++ int32s ["defaultMode"] ++
          [("items", .list keyFile)]))]

/-! ### Storage -/

/-- The volumes of a node and of claims, by kind. -/
def localVolumes : List (String × Schema) :=
  [("emptyDir", .object [] (texts ["medium", "sizeLimit"])),
    ("ephemeral", .object [] [("volumeClaimTemplate", claimTemplate)]),
    ("gitRepo", .object (texts ["repository"]) (texts ["directory", "revision"])),
    ("hostPath", .object (texts ["path"]) (texts ["type"])),
    ("persistentVolumeClaim", .object (texts ["claimName"]) (flags ["readOnly"]))]

/-- The volumes of disks that are attached to a node, by kind. -/
def diskVolumes : List (String × Schema) :=
  [("awsElasticBlockStore",
      .object (texts ["volumeID"]) (texts ["fsType"] ++ int32s ["partition"] ++
        flags ["readOnly"])),
    ("azureDisk",
      .object (texts ["diskName", "diskURI"]) (texts ["cachingMode", "fsType", "kind"] ++
        flags ["readOnly"])),
    ("cinder",
      .object (texts ["volumeID"]) (texts ["fsType"] ++ flags ["readOnly"] ++
        [("secretRef", named)])),
    ("fc",
      .object [] (texts ["fsType"] ++ int32s ["lun"] ++ flags ["readOnly"] ++
        textLists ["targetWWNs", "wwids"])),
    ("gcePersistentDisk",
      .object (texts ["pdName"]) (texts ["fsType"] ++ int32s ["partition"] ++
        flags ["readOnly"])),
    ("iscsi",
      .object (texts ["iqn", "targetPortal"] ++ int32s ["lun"])
        (texts ["fsType", "initiatorName", "iscsiInterface"] ++
          flags ["chapAuthDiscovery", "chapAuthSession", "readOnly"] ++ textLists ["portals"] ++
          [("secretRef", named)])),
    ("photonPersistentDisk", .object (texts ["pdID"]) (texts ["fsType"])),
    ("portworxVolume",
      .object (texts ["volumeID"]) (texts ["fsType"] ++ flags ["readOnly"])),
    ("scaleIO",
      .object (texts ["gateway", "system"] ++ [("secretRef", named)])
        (texts ["fsType", "protectionDomain", "storageMode", "storagePool", "volumeName"] ++
          flags ["readOnly", "sslEnabled"])),
    ("storageos",
      .object [] (texts ["fsType", "volumeName", "volumeNamespace"] ++ flags ["readOnly"] ++
        [("secretRef", named)])),
    ("vsphereVolume",
      .object (texts ["volumePath"]) (texts ["fsType", "storagePolicyID", "storagePolicyName"]))]

/-- The volumes of file servers and drivers, by kind. -/
def sharedVolumes : List (String × Schema) :=
  [("azureFile", .object (texts ["secretName", "shareName"]) (flags ["readOnly"])),
    ("cephfs",
      .object (textLists ["monitors"]) (texts ["path", "secretFile", "user"] ++
        flags ["readOnly"] ++ [("secretRef", named)])),
    ("csi",
      .object (texts ["driver"]) (texts ["fsType"] ++ flags ["readOnly"] ++
        textDicts ["volumeAttributes"] ++ [("nodePublishSecretRef", named)])),
    ("flexVolume",
      .object (texts ["driver"]) (texts ["fsType"] ++ flags ["readOnly"] ++
        textDicts ["options"] ++ [("secretRef", named)])),
    ("flocker", .object [] (texts ["datasetName", "datasetUUID"])),
    ("glusterfs", .object (texts ["endpoints", "path"]) (flags ["readOnly"])),
    ("nfs", .object (texts ["path", "server"]) (flags ["readOnly"])),
    ("quobyte",
      .object (texts ["registry", "volume"]) (texts ["group", "tenant", "user"] ++
        flags ["readOnly"])),
    ("rbd",
      .object (texts ["image"] ++ textLists ["monitors"])
        (texts ["fsType", "keyring", "pool", "user"] ++ flags ["readOnly"] ++
          [("secretRef", named)]))]

/-- A volume. -/
def volume : Schema :=
  .object (texts ["name"]) (objectVolumes ++ localVolumes ++ diskVolumes ++ sharedVolumes)

end ScaleMetrics.Schema
