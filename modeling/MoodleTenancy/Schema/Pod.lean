import MoodleTenancy.Schema.Storage

/-!
# Shapes of pods

* `Shape.container`: a container with its environment, probes and bounds.
* `Shape.podSpec`, `Shape.podTemplate`: a pod, and pods to be made.
-/

namespace MoodleTenancy.Shape
set_option autoImplicit false

/-! ## Environment -/

/-- A selector of one entry of a named object. -/
def entrySelector (name : String) : Shape := model name [
  needed "key" text, given "name" text, given "optional" flag]

def fileKeySelector : Shape := model "V1FileKeySelector" [
  needed "key" text, given "optional" flag, needed "path" text, needed "volumeName" text]

def envVarSource : Shape := model "V1EnvVarSource" [
  given "configMapKeyRef" (entrySelector "V1ConfigMapKeySelector"),
  given "fieldRef" fieldSelector, given "fileKeyRef" fileKeySelector,
  given "resourceFieldRef" resourceFieldSelector,
  given "secretKeyRef" (entrySelector "V1SecretKeySelector")]

def envVar : Shape := model "V1EnvVar" [
  needed "name" text, given "value" text, given "valueFrom" envVarSource]

/-- All entries of a named object. -/
def envSource (name : String) : Shape := model name [given "name" text, given "optional" flag]

def envFromSource : Shape := model "V1EnvFromSource" [
  given "configMapRef" (envSource "V1ConfigMapEnvSource"), given "prefix" text,
  given "secretRef" (envSource "V1SecretEnvSource")]

/-! ## Actions and probes -/

def execAction : Shape := model "V1ExecAction" [given "command" (list text)]

def httpHeader : Shape := model "V1HTTPHeader" [needed "name" text, needed "value" text]

def httpAction : Shape := model "V1HTTPGetAction" [
  given "host" text, given "httpHeaders" (list httpHeader), given "path" text,
  needed "port" integerOrText, given "protocol" text, given "scheme" text]

def sleepAction : Shape := model "V1SleepAction" [needed "seconds" integer]

def tcpAction : Shape := model "V1TCPSocketAction" [given "host" text, needed "port" integerOrText]

def grpcAction : Shape := model "V1GRPCAction" [
  given "mode" text, needed "port" integer, given "service" text]

def lifecycleHandler : Shape := model "V1LifecycleHandler" [
  given "exec" execAction, given "httpGet" httpAction, given "sleep" sleepAction,
  given "tcpSocket" tcpAction]

def lifecycle : Shape := model "V1Lifecycle" [
  given "postStart" lifecycleHandler, given "preStop" lifecycleHandler, given "stopSignal" text]

def probe : Shape := model "V1Probe" [
  given "exec" execAction, given "failureThreshold" integer, given "grpc" grpcAction,
  given "httpGet" httpAction, given "initialDelaySeconds" integer,
  given "periodSeconds" integer, given "successThreshold" integer,
  given "tcpSocket" tcpAction, given "terminationGracePeriodSeconds" integer,
  given "timeoutSeconds" integer]

/-! ## Security -/

def appArmorProfile : Shape := model "V1AppArmorProfile" [
  given "localhostProfile" text, needed "type" text]

def seccompProfile : Shape := model "V1SeccompProfile" [
  given "localhostProfile" text, needed "type" text]

def capabilities : Shape := model "V1Capabilities" (givens (list text) ["add", "drop"])

def seLinuxOptions : Shape := model "V1SELinuxOptions"
  (givens text ["level", "role", "type", "user"])

def windowsOptions : Shape := model "V1WindowsSecurityContextOptions" [
  given "gmsaCredentialSpec" text, given "gmsaCredentialSpecName" text,
  given "hostProcess" flag, given "runAsUserName" text]

def securityContext : Shape := model "V1SecurityContext" [
  given "allowPrivilegeEscalation" flag, given "appArmorProfile" appArmorProfile,
  given "capabilities" capabilities, given "privileged" flag, given "procMount" text,
  given "readOnlyRootFilesystem" flag, given "runAsGroup" integer, given "runAsNonRoot" flag,
  given "runAsUser" integer, given "seLinuxOptions" seLinuxOptions,
  given "seccompProfile" seccompProfile, given "windowsOptions" windowsOptions]

def sysctl : Shape := model "V1Sysctl" [needed "name" text, needed "value" text]

def podSecurityContext : Shape := model "V1PodSecurityContext" [
  given "appArmorProfile" appArmorProfile, given "fsGroup" integer,
  given "fsGroupChangePolicy" text, given "runAsGroup" integer, given "runAsNonRoot" flag,
  given "runAsUser" integer, given "seLinuxChangePolicy" text,
  given "seLinuxOptions" seLinuxOptions, given "seccompProfile" seccompProfile,
  given "supplementalGroups" (list integer), given "supplementalGroupsPolicy" text,
  given "sysctls" (list sysctl), given "windowsOptions" windowsOptions]

/-! ## Containers -/

def containerPort : Shape := model "V1ContainerPort" [
  needed "containerPort" integer, given "hostIP" text, given "hostPort" integer,
  given "name" text, given "protocol" text]

def resizePolicy : Shape := model "V1ContainerResizePolicy" [
  needed "resourceName" text, needed "restartPolicy" text]

def restartExitCodes : Shape := model "V1ContainerRestartRuleOnExitCodes" [
  needed "operator" text, given "values" (list integer)]

def restartRule : Shape := model "V1ContainerRestartRule" [
  needed "action" text, given "exitCodes" restartExitCodes]

def resourceClaim : Shape := model "CoreV1ResourceClaim" [
  needed "name" text, given "request" text]

def resourceRequirements : Shape := model "V1ResourceRequirements" [
  given "claims" (list resourceClaim), given "limits" (map text), given "requests" (map text)]

def volumeDevice : Shape := model "V1VolumeDevice" [
  needed "devicePath" text, needed "name" text]

def volumeMount : Shape := model "V1VolumeMount" [
  given "bindMountOptions" (list text), needed "mountPath" text,
  given "mountPropagation" text, needed "name" text, given "readOnly" flag,
  given "recursiveReadOnly" text, given "subPath" text, given "subPathExpr" text]

/-- A container of some kind, with members of that kind behind the standard streams. -/
def containerOf (name : String) (own : List Member) : Shape := model name ([
  given "args" (list text), given "command" (list text), given "env" (list envVar),
  given "envFrom" (list envFromSource), given "image" text, given "imagePullPolicy" text,
  given "lifecycle" lifecycle, given "livenessProbe" probe, needed "name" text,
  given "ports" (list containerPort), given "readinessProbe" probe,
  given "resizePolicy" (list resizePolicy), given "resources" resourceRequirements,
  given "restartPolicy" text, given "restartPolicyRules" (list restartRule),
  given "securityContext" securityContext, given "startupProbe" probe, given "stdin" flag,
  given "stdinOnce" flag] ++ own ++ [
  given "terminationMessagePath" text, given "terminationMessagePolicy" text,
  given "tty" flag, given "volumeDevices" (list volumeDevice),
  given "volumeMounts" (list volumeMount), given "workingDir" text])

def container : Shape := containerOf "V1Container" []

def ephemeralContainer : Shape :=
  containerOf "V1EphemeralContainer" [given "targetContainerName" text]

/-! ## Scheduling -/

def nodeSelectorRequirement : Shape := model "V1NodeSelectorRequirement" [
  needed "key" text, needed "operator" text, given "values" (list text)]

def nodeSelectorTerm : Shape := model "V1NodeSelectorTerm"
  (givens (list nodeSelectorRequirement) ["matchExpressions", "matchFields"])

def preferredNodes : Shape := model "V1PreferredSchedulingTerm" [
  needed "preference" nodeSelectorTerm, needed "weight" integer]

def requiredNodes : Shape := model "V1NodeSelector" [
  needed "nodeSelectorTerms" (list nodeSelectorTerm)]

def podAffinityTerm : Shape := model "V1PodAffinityTerm" [
  given "labelSelector" labelSelector, given "matchLabelKeys" (list text),
  given "mismatchLabelKeys" (list text), given "namespaceSelector" labelSelector,
  given "namespaces" (list text), needed "topologyKey" text]

def weightedPodAffinity : Shape := model "V1WeightedPodAffinityTerm" [
  needed "podAffinityTerm" podAffinityTerm, needed "weight" integer]

/-- Preferences and requirements for where a pod goes. -/
def affinityOf (name : String) (preferred required : Shape) : Shape := model name [
  given "preferredDuringSchedulingIgnoredDuringExecution" (list preferred),
  given "requiredDuringSchedulingIgnoredDuringExecution" required]

def affinity : Shape := model "V1Affinity" [
  given "nodeAffinity" (affinityOf "V1NodeAffinity" preferredNodes requiredNodes),
  given "podAffinity" (affinityOf "V1PodAffinity" weightedPodAffinity (list podAffinityTerm)),
  given "podAntiAffinity"
    (affinityOf "V1PodAntiAffinity" weightedPodAffinity (list podAffinityTerm))]

def toleration : Shape := model "V1Toleration" [
  given "effect" text, given "key" text, given "operator" text,
  given "tolerationSeconds" integer, given "value" text]

def topologySpread : Shape := model "V1TopologySpreadConstraint" [
  given "labelSelector" labelSelector, given "matchLabelKeys" (list text),
  needed "maxSkew" integer, given "minDomains" integer, given "nodeAffinityPolicy" text,
  given "nodeTaintsPolicy" text, needed "topologyKey" text, needed "whenUnsatisfiable" text]

/-! ## Pods -/

def dnsOption : Shape := model "V1PodDNSConfigOption" (givens text ["name", "value"])

def dnsConfig : Shape := model "V1PodDNSConfig" [
  given "nameservers" (list text), given "options" (list dnsOption),
  given "searches" (list text)]

def hostAlias : Shape := model "V1HostAlias" [given "hostnames" (list text), needed "ip" text]

def podOS : Shape := model "V1PodOS" [needed "name" text]

def readinessGate : Shape := model "V1PodReadinessGate" [needed "conditionType" text]

def podResourceClaim : Shape := model "V1PodResourceClaim" [
  needed "name" text, given "resourceClaimName" text, given "resourceClaimTemplateName" text]

def schedulingGate : Shape := model "V1PodSchedulingGate" [needed "name" text]

def schedulingGroup : Shape := model "V1PodSchedulingGroup" [given "podGroupName" text]

def evictionResponder : Shape := model "V1EvictionResponder" [
  needed "name" text, needed "priority" integer]

def podSpec : Shape := model "V1PodSpec" [
  given "activeDeadlineSeconds" integer, given "affinity" affinity,
  given "automountServiceAccountToken" flag, needed "containers" (list container),
  given "dnsConfig" dnsConfig, given "dnsPolicy" text, given "enableServiceLinks" flag,
  given "ephemeralContainers" (list ephemeralContainer),
  given "evictionResponders" (list evictionResponder), given "hostAliases" (list hostAlias),
  given "hostIPC" flag, given "hostNetwork" flag, given "hostPID" flag, given "hostUsers" flag,
  given "hostname" text, given "hostnameOverride" text,
  given "imagePullSecrets" (list localReference), given "initContainers" (list container),
  given "nodeName" text, given "nodeSelector" (map text), given "os" podOS,
  given "overhead" (map text), given "preemptionPolicy" text, given "priority" integer,
  given "priorityClassName" text, given "readinessGates" (list readinessGate),
  given "resourceClaims" (list podResourceClaim), given "resources" resourceRequirements,
  given "restartPolicy" text, given "runtimeClassName" text, given "schedulerName" text,
  given "schedulingGates" (list schedulingGate), given "schedulingGroup" schedulingGroup,
  given "securityContext" podSecurityContext,
  given "serviceAccount" text, given "serviceAccountName" text,
  given "setHostnameAsFQDN" flag, given "shareProcessNamespace" flag, given "subdomain" text,
  given "terminationGracePeriodSeconds" integer, given "tolerations" (list toleration),
  given "topologySpreadConstraints" (list topologySpread), given "volumes" (list volume)]

def podTemplate : Shape := model "V1PodTemplateSpec" [
  given "metadata" objectMeta, given "spec" podSpec]

end MoodleTenancy.Shape
