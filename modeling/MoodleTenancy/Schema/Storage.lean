import MoodleTenancy.Schema.Object

/-!
# Shapes of volumes and volume claims

* `Shape.volumeClaim`: a claim to a volume, as an object of the cluster.
* `Shape.volume`: a volume of a pod, from any of the sources that there are.
-/

namespace MoodleTenancy.Shape
set_option autoImplicit false

/-! ## Claims -/

def volumeClaimResources : Shape := model "V1VolumeResourceRequirements"
  (givens (map text) ["limits", "requests"])

def volumeClaimSpec : Shape := model "V1PersistentVolumeClaimSpec" [
  given "accessModes" (list text), given "dataSource" typedLocalReference,
  given "dataSourceRef" typedReference, given "resources" volumeClaimResources,
  given "selector" labelSelector, given "storageClassName" text,
  given "volumeAttributesClassName" text, given "volumeMode" text, given "volumeName" text]

def volumeClaimCondition : Shape := conditionOf "V1PersistentVolumeClaimCondition"
  (givens moment ["lastProbeTime", "lastTransitionTime"])

def modifyVolumeStatus : Shape := model "V1ModifyVolumeStatus" [
  needed "status" text, given "targetVolumeAttributesClassName" text]

def volumeHealthCondition : Shape := model "V1VolumeHealthCondition" [
  given "message" text, needed "reason" text, needed "status" text]

def volumeHealthStatus : Shape := model "V1VolumeHealthStatus" [
  given "healthConditions" (list volumeHealthCondition), given "lastTransitionTime" moment]

def volumeClaimStatus : Shape := model "V1PersistentVolumeClaimStatus" [
  given "accessModes" (list text), given "allocatedResourceStatuses" (map text),
  given "allocatedResources" (map text), given "capacity" (map text),
  given "conditions" (list volumeClaimCondition),
  given "currentVolumeAttributesClassName" text, given "healthStatus" volumeHealthStatus,
  given "modifyVolumeStatus" modifyVolumeStatus,
  given "phase" text]

def volumeClaim : Shape := object "V1PersistentVolumeClaim" [
  given "spec" volumeClaimSpec, given "status" volumeClaimStatus]

/-! ## Parts of sources -/

def fieldSelector : Shape := model "V1ObjectFieldSelector" [
  given "apiVersion" text, needed "fieldPath" text]

def resourceFieldSelector : Shape := model "V1ResourceFieldSelector" [
  given "containerName" text, given "divisor" text, needed "resource" text]

def keyToPath : Shape := model "V1KeyToPath" [
  needed "key" text, given "mode" integer, needed "path" text, given "user" integer]

def downwardFile : Shape := model "V1DownwardAPIVolumeFile" [
  given "fieldRef" fieldSelector, given "mode" integer, needed "path" text,
  given "resourceFieldRef" resourceFieldSelector, given "user" integer]

def volumeClaimTemplate : Shape := model "V1PersistentVolumeClaimTemplate" [
  given "metadata" objectMeta, needed "spec" volumeClaimSpec]

/-! ## Projections -/

def clusterTrustProjection : Shape := model "V1ClusterTrustBundleProjection" [
  given "labelSelector" labelSelector, given "name" text, given "optional" flag,
  needed "path" text, given "signerName" text, given "user" integer]

def configMapProjection : Shape := model "V1ConfigMapProjection" [
  given "items" (list keyToPath), given "name" text, given "optional" flag]

def downwardProjection : Shape := model "V1DownwardAPIProjection" [
  given "items" (list downwardFile)]

def certificateProjection : Shape := model "V1PodCertificateProjection" [
  given "certificateChainPath" text, given "credentialBundlePath" text, given "keyPath" text,
  needed "keyType" text, given "maxExpirationSeconds" integer, needed "signerName" text,
  given "user" integer, given "userAnnotations" (map text)]

def secretProjection : Shape := model "V1SecretProjection" [
  given "items" (list keyToPath), given "name" text, given "optional" flag]

def tokenProjection : Shape := model "V1ServiceAccountTokenProjection" [
  given "audience" text, given "expirationSeconds" integer, needed "path" text,
  given "user" integer]

def volumeProjection : Shape := model "V1VolumeProjection" [
  given "clusterTrustBundle" clusterTrustProjection, given "configMap" configMapProjection,
  given "downwardAPI" downwardProjection, given "podCertificate" certificateProjection,
  given "secret" secretProjection, given "serviceAccountToken" tokenProjection]

/-! ## Sources -/

def awsVolume : Shape := model "V1AWSElasticBlockStoreVolumeSource" [
  given "fsType" text, given "partition" integer, given "readOnly" flag, needed "volumeID" text]

def azureDiskVolume : Shape := model "V1AzureDiskVolumeSource" [
  given "cachingMode" text, needed "diskName" text, needed "diskURI" text, given "fsType" text,
  given "kind" text, given "readOnly" flag]

def azureFileVolume : Shape := model "V1AzureFileVolumeSource" [
  given "readOnly" flag, needed "secretName" text, needed "shareName" text]

def cephVolume : Shape := model "V1CephFSVolumeSource" [
  needed "monitors" (list text), given "path" text, given "readOnly" flag,
  given "secretFile" text, given "secretRef" localReference, given "user" text]

def cinderVolume : Shape := model "V1CinderVolumeSource" [
  given "fsType" text, given "readOnly" flag, given "secretRef" localReference,
  needed "volumeID" text]

def configMapVolume : Shape := model "V1ConfigMapVolumeSource" [
  given "defaultMode" integer, given "defaultUser" integer, given "items" (list keyToPath),
  given "name" text, given "optional" flag]

def csiVolume : Shape := model "V1CSIVolumeSource" [
  needed "driver" text, given "fsType" text, given "nodePublishSecretRef" localReference,
  given "readOnly" flag, given "volumeAttributes" (map text)]

def downwardVolume : Shape := model "V1DownwardAPIVolumeSource" [
  given "defaultMode" integer, given "defaultUser" integer, given "items" (list downwardFile)]

def emptyVolume : Shape := model "V1EmptyDirVolumeSource" [
  given "medium" text, given "mode" integer, given "sizeLimit" text]

def ephemeralVolume : Shape := model "V1EphemeralVolumeSource" [
  given "volumeClaimTemplate" volumeClaimTemplate]

def fibreVolume : Shape := model "V1FCVolumeSource" [
  given "fsType" text, given "lun" integer, given "readOnly" flag,
  given "targetWWNs" (list text), given "wwids" (list text)]

def flexVolume : Shape := model "V1FlexVolumeSource" [
  needed "driver" text, given "fsType" text, given "options" (map text),
  given "readOnly" flag, given "secretRef" localReference]

def flockerVolume : Shape := model "V1FlockerVolumeSource" [
  given "datasetName" text, given "datasetUUID" text]

def gceVolume : Shape := model "V1GCEPersistentDiskVolumeSource" [
  given "fsType" text, given "partition" integer, needed "pdName" text, given "readOnly" flag]

def gitVolume : Shape := model "V1GitRepoVolumeSource" [
  given "directory" text, needed "repository" text, given "revision" text]

def glusterVolume : Shape := model "V1GlusterfsVolumeSource" [
  needed "endpoints" text, needed "path" text, given "readOnly" flag]

def hostVolume : Shape := model "V1HostPathVolumeSource" [
  needed "path" text, given "type" text]

def imageVolume : Shape := model "V1ImageVolumeSource" [
  given "pullPolicy" text, given "reference" text]

def iscsiVolume : Shape := model "V1ISCSIVolumeSource" [
  given "chapAuthDiscovery" flag, given "chapAuthSession" flag, given "fsType" text,
  given "initiatorName" text, needed "iqn" text, given "iscsiInterface" text,
  needed "lun" integer, given "portals" (list text), given "readOnly" flag,
  given "secretRef" localReference, needed "targetPortal" text]

def nfsVolume : Shape := model "V1NFSVolumeSource" [
  needed "path" text, given "readOnly" flag, needed "server" text]

def claimVolume : Shape := model "V1PersistentVolumeClaimVolumeSource" [
  needed "claimName" text, given "readOnly" flag]

def photonVolume : Shape := model "V1PhotonPersistentDiskVolumeSource" [
  given "fsType" text, needed "pdID" text]

def portworxVolume : Shape := model "V1PortworxVolumeSource" [
  given "fsType" text, given "readOnly" flag, needed "volumeID" text]

def projectedVolume : Shape := model "V1ProjectedVolumeSource" [
  given "defaultMode" integer, given "defaultUser" integer, given "sources" (list volumeProjection)]

def quobyteVolume : Shape := model "V1QuobyteVolumeSource" [
  given "group" text, given "readOnly" flag, needed "registry" text, given "tenant" text,
  given "user" text, needed "volume" text]

def rbdVolume : Shape := model "V1RBDVolumeSource" [
  given "fsType" text, needed "image" text, given "keyring" text,
  needed "monitors" (list text), given "pool" text, given "readOnly" flag,
  given "secretRef" localReference, given "user" text]

def scaleVolume : Shape := model "V1ScaleIOVolumeSource" [
  given "fsType" text, needed "gateway" text, given "protectionDomain" text,
  given "readOnly" flag, needed "secretRef" localReference, given "sslEnabled" flag,
  given "storageMode" text, given "storagePool" text, needed "system" text,
  given "volumeName" text]

def secretVolume : Shape := model "V1SecretVolumeSource" [
  given "defaultMode" integer, given "defaultUser" integer, given "items" (list keyToPath),
  given "optional" flag, given "secretName" text]

def storageVolume : Shape := model "V1StorageOSVolumeSource" [
  given "fsType" text, given "readOnly" flag, given "secretRef" localReference,
  given "volumeName" text, given "volumeNamespace" text]

def vsphereVolume : Shape := model "V1VsphereVirtualDiskVolumeSource" [
  given "fsType" text, given "storagePolicyID" text, given "storagePolicyName" text,
  needed "volumePath" text]

def volume : Shape := model "V1Volume" [
  given "awsElasticBlockStore" awsVolume, given "azureDisk" azureDiskVolume,
  given "azureFile" azureFileVolume, given "cephfs" cephVolume, given "cinder" cinderVolume,
  given "configMap" configMapVolume, given "csi" csiVolume, given "downwardAPI" downwardVolume,
  given "emptyDir" emptyVolume, given "ephemeral" ephemeralVolume, given "fc" fibreVolume,
  given "flexVolume" flexVolume, given "flocker" flockerVolume,
  given "gcePersistentDisk" gceVolume, given "gitRepo" gitVolume,
  given "glusterfs" glusterVolume, given "hostPath" hostVolume, given "image" imageVolume,
  given "iscsi" iscsiVolume, needed "name" text, given "nfs" nfsVolume,
  given "persistentVolumeClaim" claimVolume, given "photonPersistentDisk" photonVolume,
  given "portworxVolume" portworxVolume, given "projected" projectedVolume,
  given "quobyte" quobyteVolume, given "rbd" rbdVolume, given "scaleIO" scaleVolume,
  given "secret" secretVolume, given "storageos" storageVolume,
  given "vsphereVolume" vsphereVolume]

end MoodleTenancy.Shape
