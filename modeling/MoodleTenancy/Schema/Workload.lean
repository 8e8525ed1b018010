import MoodleTenancy.Schema.Pod

/-!
# Shapes of workloads

* `Shape.deployment`, `Shape.cronJob`: pods that run, and pods that are run from time to time.
* `Shape.autoscaler`, `Shape.disruptionBudget`: how many pods there are to be.
-/

namespace MoodleTenancy.Shape
set_option autoImplicit false

/-! ## Deployments -/

def rollingUpdate : Shape := model "V1RollingUpdateDeployment"
  (givens integerOrText ["maxSurge", "maxUnavailable"])

def deploymentStrategy : Shape := model "V1DeploymentStrategy" [
  given "rollingUpdate" rollingUpdate, given "type" text]

def deploymentSpec : Shape := model "V1DeploymentSpec" [
  given "minReadySeconds" integer, given "paused" flag,
  given "progressDeadlineSeconds" integer, given "replicas" integer,
  given "revisionHistoryLimit" integer, needed "selector" labelSelector,
  given "strategy" deploymentStrategy, needed "template" podTemplate]

def deploymentCondition : Shape := model "V1DeploymentCondition"
  (givens moment ["lastTransitionTime", "lastUpdateTime"] ++
    givens text ["message", "reason", "status", "type"])

def deploymentStatus : Shape := model "V1DeploymentStatus" [
  given "availableReplicas" integer, given "collisionCount" integer,
  given "conditions" (list deploymentCondition), given "observedGeneration" integer,
  given "readyReplicas" integer, given "replicas" integer, given "terminatingReplicas" integer,
  given "unavailableReplicas" integer, given "updatedReplicas" integer]

def deployment : Shape := object "V1Deployment" [
  needed "spec" deploymentSpec, given "status" deploymentStatus]

/-! ## Jobs -/

def exitCodesRequirement : Shape := model "V1PodFailurePolicyOnExitCodesRequirement" [
  given "containerName" text, needed "operator" text, needed "values" (list integer)]

def podConditionsPattern : Shape := model "V1PodFailurePolicyOnPodConditionsPattern" [
  given "status" text, needed "type" text]

def podFailureRule : Shape := model "V1PodFailurePolicyRule" [
  needed "action" text, given "onExitCodes" exitCodesRequirement,
  given "onPodConditions" (list podConditionsPattern)]

def podFailurePolicy : Shape := model "V1PodFailurePolicy" [needed "rules" (list podFailureRule)]

def successRule : Shape := model "V1SuccessPolicyRule" [
  given "succeededCount" integer, given "succeededIndexes" text]

def successPolicy : Shape := model "V1SuccessPolicy" [needed "rules" (list successRule)]

/-- Pods that are placed only if a number of them can be. -/
def gangPolicy : Shape := model "V1alpha3WorkloadPodGroupGangSchedulingPolicy" [
  given "minCount" integer]

def groupPolicy : Shape := model "V1alpha3WorkloadPodGroupSchedulingPolicy" [
  given "basic" record, given "gang" gangPolicy]

def groupDisruption : Shape := model "V1alpha3WorkloadPodGroupDisruptionMode"
  (givens record ["all", "single"])

def groupClaim : Shape := model "V1alpha3WorkloadPodGroupResourceClaim" [
  needed "name" text, given "resourceClaimName" text, given "resourceClaimTemplateName" text]

def topologyConstraint : Shape := model "V1alpha3TopologyConstraint" [needed "key" text]

def groupConstraints : Shape := model "V1alpha3WorkloadPodGroupSchedulingConstraints" [
  given "topology" (list topologyConstraint)]

/-- How the pods of a job are placed together. -/
def jobScheduling : Shape := model "V1JobSchedulingConfiguration" [
  given "disruptionMode" groupDisruption, given "resourceClaims" (list groupClaim),
  given "schedulingConstraints" groupConstraints, given "schedulingPolicy" groupPolicy]

def jobSpec : Shape := model "V1JobSpec" [
  given "activeDeadlineSeconds" integer, given "backoffLimit" integer,
  given "backoffLimitPerIndex" integer, given "completionMode" text,
  given "completions" integer, given "managedBy" text, given "manualSelector" flag,
  given "maxFailedIndexes" integer, given "parallelism" integer,
  given "podFailurePolicy" podFailurePolicy, given "podReplacementPolicy" text,
  given "scheduling" jobScheduling, given "selector" labelSelector,
  given "successPolicy" successPolicy, given "suspend" flag,
  needed "template" podTemplate, given "ttlSecondsAfterFinished" integer]

def jobTemplate : Shape := model "V1JobTemplateSpec" [
  given "metadata" objectMeta, given "spec" jobSpec]

def cronJobSpec : Shape := model "V1CronJobSpec" [
  given "concurrencyPolicy" text, given "failedJobsHistoryLimit" integer,
  needed "jobTemplate" jobTemplate, needed "schedule" text,
  given "startingDeadlineSeconds" integer, given "successfulJobsHistoryLimit" integer,
  given "suspend" flag, given "timeZone" text]

def cronJobStatus : Shape := model "V1CronJobStatus" [
  given "active" (list objectReference), given "lastScheduleTime" moment,
  given "lastSuccessfulTime" moment]

def cronJob : Shape := object "V1CronJob" [
  needed "spec" cronJobSpec, given "status" cronJobStatus]

/-! ## Autoscaling -/

def scalingPolicy : Shape := model "V2HPAScalingPolicy" [
  needed "periodSeconds" integer, needed "type" text, needed "value" integer]

def scalingRules : Shape := model "V2HPAScalingRules" [
  given "policies" (list scalingPolicy), given "selectPolicy" text,
  given "stabilizationWindowSeconds" integer, given "tolerance" text]

def scalingBehavior : Shape := model "V2HorizontalPodAutoscalerBehavior"
  (givens scalingRules ["scaleDown", "scaleUp"])

def scaleTarget : Shape := model "V2CrossVersionObjectReference" [
  given "apiVersion" text, needed "kind" text, needed "name" text]

def metricTarget : Shape := model "V2MetricTarget" [
  given "averageUtilization" integer, given "averageValue" text, needed "type" text,
  given "value" text]

def metricValue : Shape := model "V2MetricValueStatus" [
  given "averageUtilization" integer, given "averageValue" text, given "value" text]

def metricIdentifier : Shape := model "V2MetricIdentifier" [
  needed "name" text, given "selector" labelSelector]

def metricSpec : Shape := model "V2MetricSpec" [
  given "containerResource" (model "V2ContainerResourceMetricSource" [
    needed "container" text, needed "name" text, needed "target" metricTarget]),
  given "external" (model "V2ExternalMetricSource" [
    needed "metric" metricIdentifier, needed "target" metricTarget]),
  given "object" (model "V2ObjectMetricSource" [
    needed "describedObject" scaleTarget, needed "metric" metricIdentifier,
    needed "target" metricTarget]),
  given "pods" (model "V2PodsMetricSource" [
    needed "metric" metricIdentifier, needed "target" metricTarget]),
  given "resource" (model "V2ResourceMetricSource" [
    needed "name" text, needed "target" metricTarget]),
  needed "type" text]

def metricStatus : Shape := model "V2MetricStatus" [
  given "containerResource" (model "V2ContainerResourceMetricStatus" [
    needed "container" text, needed "current" metricValue, needed "name" text]),
  given "external" (model "V2ExternalMetricStatus" [
    needed "current" metricValue, needed "metric" metricIdentifier]),
  given "object" (model "V2ObjectMetricStatus" [
    needed "current" metricValue, needed "describedObject" scaleTarget,
    needed "metric" metricIdentifier]),
  given "pods" (model "V2PodsMetricStatus" [
    needed "current" metricValue, needed "metric" metricIdentifier]),
  given "resource" (model "V2ResourceMetricStatus" [
    needed "current" metricValue, needed "name" text]),
  needed "type" text]

def autoscalerSpec : Shape := model "V2HorizontalPodAutoscalerSpec" [
  given "behavior" scalingBehavior, needed "maxReplicas" integer,
  given "metrics" (list metricSpec), given "minReplicas" integer,
  needed "scaleTargetRef" scaleTarget]

def autoscalerCondition : Shape := model "V2HorizontalPodAutoscalerCondition" [
  given "lastTransitionTime" moment, given "message" text, given "observedGeneration" integer,
  given "reason" text, needed "status" text, needed "type" text]

def autoscalerStatus : Shape := model "V2HorizontalPodAutoscalerStatus" [
  given "conditions" (list autoscalerCondition),
  given "currentMetrics" (list metricStatus), given "currentReplicas" integer,
  needed "desiredReplicas" integer, given "lastScaleTime" moment,
  given "observedGeneration" integer]

def autoscaler : Shape := object "V2HorizontalPodAutoscaler" [
  needed "spec" autoscalerSpec, given "status" autoscalerStatus]

/-! ## Disruption budgets -/

def disruptionBudgetSpec : Shape := model "V1PodDisruptionBudgetSpec" [
  given "maxUnavailable" integerOrText, given "minAvailable" integerOrText,
  given "selector" labelSelector, given "unhealthyPodEvictionPolicy" text]

def disruptionBudgetStatus : Shape := model "V1PodDisruptionBudgetStatus" [
  given "conditions" (list condition), given "currentHealthy" integer,
  given "desiredHealthy" integer, given "disruptedPods" (map moment),
  given "disruptionsAllowed" integer, given "expectedPods" integer,
  given "observedGeneration" integer]

def disruptionBudget : Shape := object "V1PodDisruptionBudget" [
  given "spec" disruptionBudgetSpec, given "status" disruptionBudgetStatus]

end MoodleTenancy.Shape
