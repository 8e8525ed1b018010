import MoodleTenancy.Schema.Object

/-!
# Shapes of network objects

* `Shape.service`, `Shape.ingress`: ways to pods, inside the cluster and from outside.
* `Shape.networkPolicy`: the traffic that is let through.
-/

namespace MoodleTenancy.Shape
set_option autoImplicit false

/-! ## Services -/

def servicePort : Shape := model "V1ServicePort" [
  given "appProtocol" text, given "name" text, given "nodePort" integer, needed "port" integer,
  given "protocol" text, given "targetPort" integerOrText]

def clientAffinity : Shape := model "V1ClientIPConfig" [given "timeoutSeconds" integer]

def sessionAffinity : Shape := model "V1SessionAffinityConfig" [given "clientIP" clientAffinity]

def serviceSpec : Shape := model "V1ServiceSpec" [
  given "allocateLoadBalancerNodePorts" flag, given "clusterIP" text,
  given "clusterIPs" (list text), given "externalIPs" (list text), given "externalName" text,
  given "externalTrafficPolicy" text, given "healthCheckNodePort" integer,
  given "internalTrafficPolicy" text, given "ipFamilies" (list text),
  given "ipFamilyPolicy" text, given "loadBalancerClass" text, given "loadBalancerIP" text,
  given "loadBalancerSourceRanges" (list text), given "ports" (list servicePort),
  given "publishNotReadyAddresses" flag, given "selector" (map text),
  given "sessionAffinity" text, given "sessionAffinityConfig" sessionAffinity,
  given "trafficDistribution" text, given "type" text]

/-- The state of a port of a load balancer. -/
def portStatusOf (name : String) : Shape := model name [
  given "error" text, needed "port" integer, needed "protocol" text]

def loadBalancerIngress : Shape := model "V1LoadBalancerIngress" [
  given "hostname" text, given "ip" text, given "ipMode" text,
  given "ports" (list (portStatusOf "V1PortStatus"))]

def loadBalancerStatus : Shape := model "V1LoadBalancerStatus" [
  given "ingress" (list loadBalancerIngress)]

def serviceStatus : Shape := model "V1ServiceStatus" [
  given "conditions" (list condition), given "loadBalancer" loadBalancerStatus]

def service : Shape := object "V1Service" [
  given "spec" serviceSpec, given "status" serviceStatus]

/-! ## Ingresses -/

def backendPort : Shape := model "V1ServiceBackendPort" [given "name" text, given "number" integer]

def serviceBackend : Shape := model "V1IngressServiceBackend" [
  needed "name" text, given "port" backendPort]

def ingressBackend : Shape := model "V1IngressBackend" [
  given "resource" typedLocalReference, given "service" serviceBackend]

def ingressPath : Shape := model "V1HTTPIngressPath" [
  needed "backend" ingressBackend, given "path" text, needed "pathType" text]

def ingressPaths : Shape := model "V1HTTPIngressRuleValue" [needed "paths" (list ingressPath)]

def ingressRule : Shape := model "V1IngressRule" [given "host" text, given "http" ingressPaths]

def ingressTls : Shape := model "V1IngressTLS" [
  given "hosts" (list text), given "secretName" text]

def ingressSpec : Shape := model "V1IngressSpec" [
  given "defaultBackend" ingressBackend, given "ingressClassName" text,
  given "rules" (list ingressRule), given "tls" (list ingressTls)]

def ingressAddress : Shape := model "V1IngressLoadBalancerIngress" [
  given "hostname" text, given "ip" text,
  given "ports" (list (portStatusOf "V1IngressPortStatus"))]

def ingressLoadBalancer : Shape := model "V1IngressLoadBalancerStatus" [
  given "ingress" (list ingressAddress)]

def ingressStatus : Shape := model "V1IngressStatus" [given "loadBalancer" ingressLoadBalancer]

def ingress : Shape := object "V1Ingress" [
  given "spec" ingressSpec, given "status" ingressStatus]

/-! ## Network policies -/

def addressBlock : Shape := model "V1IPBlock" [needed "cidr" text, given "except" (list text)]

def policyPeer : Shape := model "V1NetworkPolicyPeer" [
  given "ipBlock" addressBlock, given "namespaceSelector" labelSelector,
  given "podSelector" labelSelector]

def policyPort : Shape := model "V1NetworkPolicyPort" [
  given "endPort" integer, given "port" integerOrText, given "protocol" text]

def egressRule : Shape := model "V1NetworkPolicyEgressRule" [
  given "ports" (list policyPort), given "to" (list policyPeer)]

def ingressTrafficRule : Shape := model "V1NetworkPolicyIngressRule" [
  given "from" (list policyPeer), given "ports" (list policyPort)]

def networkPolicySpec : Shape := model "V1NetworkPolicySpec" [
  given "egress" (list egressRule), given "ingress" (list ingressTrafficRule),
  given "podSelector" labelSelector, given "policyTypes" (list text)]

def networkPolicy : Shape := object "V1NetworkPolicy" [given "spec" networkPolicySpec]

end MoodleTenancy.Shape
