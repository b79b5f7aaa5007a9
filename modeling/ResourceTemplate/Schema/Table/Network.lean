import ResourceTemplate.Schema.FieldType

/-!
# Services and networks

The records of services, ingresses and network policies.
-/

namespace ResourceTemplate.Schema

open RecordType

/-- Records: services and networks. -/
def networkTypes : List RecordType :=
  [part "ClientIPConfig"
      [("timeoutSeconds", .int32)],
   part "HTTPIngressPath"
      [("backend", .record "IngressBackend"), ("path", .text), ("pathType", .text)],
   part "HTTPIngressRuleValue"
      [("paths", .list (.record "HTTPIngressPath"))],
   part "IPBlock"
      [("cidr", .text), ("except", .list .text)],
   resource "Ingress" "networking.k8s.io/v1"
      [("metadata", .record "ObjectMeta"), ("spec", .record "IngressSpec"),
       ("status", .record "IngressStatus")],
   part "IngressBackend"
      [("resource", .record "TypedLocalObjectReference"),
       ("service", .record "IngressServiceBackend")],
   part "IngressLoadBalancerIngress"
      [("hostname", .text), ("ip", .text), ("ports", .list (.record "IngressPortStatus"))],
   part "IngressLoadBalancerStatus"
      [("ingress", .list (.record "IngressLoadBalancerIngress"))],
   part "IngressPortStatus"
      [("error", .text), ("port", .int32), ("protocol", .text)],
   part "IngressRule"
      [("host", .text), ("http", .record "HTTPIngressRuleValue")],
   part "IngressServiceBackend"
      [("name", .text), ("port", .record "ServiceBackendPort")],
   part "IngressSpec"
      [("defaultBackend", .record "IngressBackend"), ("ingressClassName", .text),
       ("rules", .list (.record "IngressRule")), ("tls", .list (.record "IngressTLS"))],
   part "IngressStatus"
      [("loadBalancer", .record "IngressLoadBalancerStatus")],
   part "IngressTLS"
      [("hosts", .list .text), ("secretName", .text)],
   part "LoadBalancerIngress"
      [("hostname", .text), ("ip", .text), ("ipMode", .text),
       ("ports", .list (.record "PortStatus"))],
   part "LoadBalancerStatus"
      [("ingress", .list (.record "LoadBalancerIngress"))],
   resource "NetworkPolicy" "networking.k8s.io/v1"
      [("metadata", .record "ObjectMeta"), ("spec", .record "NetworkPolicySpec")],
   part "NetworkPolicyEgressRule"
      [("ports", .list (.record "NetworkPolicyPort")),
       ("to", .list (.record "NetworkPolicyPeer"))],
   part "NetworkPolicyIngressRule"
      [("from", .list (.record "NetworkPolicyPeer")),
       ("ports", .list (.record "NetworkPolicyPort"))],
   part "NetworkPolicyPeer"
      [("ipBlock", .record "IPBlock"), ("namespaceSelector", .record "LabelSelector"),
       ("podSelector", .record "LabelSelector")],
   part "NetworkPolicyPort"
      [("endPort", .int32), ("port", .intOrText), ("protocol", .text)],
   part "NetworkPolicySpec"
      [("egress", .list (.record "NetworkPolicyEgressRule")),
       ("ingress", .list (.record "NetworkPolicyIngressRule")),
       ("podSelector", .record "LabelSelector"), ("policyTypes", .list .text)],
   part "PortStatus"
      [("error", .text), ("port", .int32), ("protocol", .text)],
   resource "Service" "v1"
      [("metadata", .record "ObjectMeta"), ("spec", .record "ServiceSpec"),
       ("status", .record "ServiceStatus")],
   part "ServiceBackendPort"
      [("name", .text), ("number", .int32)],
   part "ServicePort"
      [("appProtocol", .text), ("name", .text), ("nodePort", .int32), ("port", .int32),
       ("protocol", .text), ("targetPort", .intOrText)],
   part "ServiceSpec"
      [("allocateLoadBalancerNodePorts", .flag), ("clusterIP", .text),
       ("clusterIPs", .list .text), ("externalIPs", .list .text), ("externalName", .text),
       ("externalTrafficPolicy", .text), ("healthCheckNodePort", .int32),
       ("internalTrafficPolicy", .text), ("ipFamilies", .list .text), ("ipFamilyPolicy", .text),
       ("loadBalancerClass", .text), ("loadBalancerIP", .text),
       ("loadBalancerSourceRanges", .list .text), ("ports", .list (.record "ServicePort")),
       ("publishNotReadyAddresses", .flag), ("selector", .dict .text), ("sessionAffinity", .text),
       ("sessionAffinityConfig", .record "SessionAffinityConfig"), ("trafficDistribution", .text),
       ("type", .text)],
   part "ServiceStatus"
      [("conditions", .list (.record "Condition")),
       ("loadBalancer", .record "LoadBalancerStatus")],
   part "SessionAffinityConfig"
      [("clientIP", .record "ClientIPConfig")]]

end ResourceTemplate.Schema
