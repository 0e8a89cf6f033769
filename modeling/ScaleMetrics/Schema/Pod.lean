import ScaleMetrics.Schema.Placement
import ScaleMetrics.Schema.Volume

/-!
# Schema — Pod

What a pod is made of and what became of it, as far as no decision depends on it.
-/

namespace ScaleMetrics.Schema

/-- A resource that is claimed for a pod. -/
def resourceClaim : Schema :=
  .object (texts ["name"])
    [("source", .object [] (texts ["resourceClaimName", "resourceClaimTemplateName"]))]

/-- How names are looked up. -/
def dnsConfig : Schema :=
  .object []
    (textLists ["nameservers", "searches"] ++
      [("options", .list (.object [] (texts ["name", "value"])))])

/-- Names of an address. -/
def hostAlias : Schema :=
  .object [] (texts ["ip"] ++ textLists ["hostnames"])

/-- All fields of the specification of a pod but its containers. -/
def otherPodSpec : List (String × Schema) :=
  texts ["dnsPolicy", "hostname", "nodeName", "preemptionPolicy", "priorityClassName",
      "restartPolicy", "runtimeClassName", "schedulerName", "serviceAccount", "serviceAccountName",
      "subdomain"] ++
    flags ["automountServiceAccountToken", "enableServiceLinks", "hostIPC", "hostNetwork",
      "hostPID", "hostUsers", "setHostnameAsFQDN", "shareProcessNamespace"] ++
    int32s ["priority"] ++ int64s ["activeDeadlineSeconds", "terminationGracePeriodSeconds"] ++
    textDicts ["nodeSelector", "overhead"] ++
    [("affinity", affinity), ("dnsConfig", dnsConfig),
      ("ephemeralContainers", .list ephemeralContainer), ("hostAliases", .list hostAlias),
      ("imagePullSecrets", .list named), ("initContainers", .list container), ("os", entry),
      ("readinessGates", .list (.object (texts ["conditionType"]) [])),
      ("resourceClaims", .list resourceClaim), ("schedulingGates", .list entry),
      ("securityContext", podSecurity), ("tolerations", .list toleration),
      ("topologySpreadConstraints", .list spreadConstraint), ("volumes", .list volume)]

/-- The specification of a pod. -/
def podSpec : Schema :=
  .object [("containers", .list container)] otherPodSpec

/-- The pods that a controller makes. -/
def podTemplate : Schema :=
  .object [] [("metadata", metadata), ("spec", podSpec)]

/-- All fields of a condition of a pod but its kind, its status and the time of its last change. -/
def otherPodCondition : List (String × Schema) :=
  texts ["message", "reason"] ++ [("lastProbeTime", .time)]

/-- All fields of the status of a pod but its conditions, its phase and its start. -/
def otherPodStatus : List (String × Schema) :=
  texts ["hostIP", "message", "nominatedNodeName", "podIP", "qosClass", "reason", "resize"] ++
    each (.list containerStatus)
      ["containerStatuses", "ephemeralContainerStatuses", "initContainerStatuses"] ++
    each (.list (.object [] (texts ["ip"]))) ["hostIPs", "podIPs"] ++
    [("resourceClaimStatuses", .list (.object (texts ["name"]) (texts ["resourceClaimName"])))]

end ScaleMetrics.Schema
