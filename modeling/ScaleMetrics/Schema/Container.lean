import ScaleMetrics.Schema.Reference

/-!
# Schema — Container

Containers of a pod: their environment, ports and mounts, the probes that watch them, and what
they are allowed to do.
-/

namespace ScaleMetrics.Schema

/-! ### Resources -/

/-- The fields of resources on which something depends. -/
def usedResources : List (String × Schema) :=
  textDicts ["limits", "requests"]

/-- All other fields of resources. -/
def otherResources : List (String × Schema) :=
  [("claims", .list entry)]

/-- The resources of a container. -/
def containerResources : Schema :=
  .object [] (usedResources ++ otherResources)

/-! ### Environment -/

/-- Where the value of a variable comes from. -/
def envSource : Schema :=
  .object []
    [("configMapKeyRef", keyRef), ("fieldRef", fieldRef), ("resourceFieldRef", resourceFieldRef),
      ("secretKeyRef", keyRef)]

/-- A variable. -/
def envVariable : Schema :=
  .object (texts ["name"]) (texts ["value"] ++ [("valueFrom", envSource)])

/-- Where many variables come from. -/
def envBundle : Schema :=
  .object [] (texts ["prefix"] ++ [("configMapRef", valuesRef), ("secretRef", valuesRef)])

/-- A port. -/
def port : Schema :=
  .object (int32s ["containerPort"]) (texts ["hostIP", "name", "protocol"] ++ int32s ["hostPort"])

/-- A raw device. -/
def volumeDevice : Schema :=
  .object (texts ["devicePath", "name"]) []

/-- A volume at a path. -/
def volumeMount : Schema :=
  .object (texts ["mountPath", "name"])
    (texts ["mountPropagation", "subPath", "subPathExpr"] ++ flags ["readOnly"])

/-- What a change of a resource entails. -/
def resizePolicy : Schema :=
  .object (texts ["resourceName", "restartPolicy"]) []

/-! ### Probes -/

/-- A command. -/
def command : Schema :=
  .object [] (textLists ["command"])

/-- A request. -/
def httpGet : Schema :=
  .object [("port", .intOrText)]
    (texts ["host", "path", "scheme"] ++ [("httpHeaders", .list setting)])

/-- A connection. -/
def tcpSocket : Schema :=
  .object [("port", .intOrText)] (texts ["host"])

/-- A call of a service. -/
def grpc : Schema :=
  .object (int32s ["port"]) (texts ["service"])

/-- What is done at a point of a container's life. -/
def handler : Schema :=
  .object [] [("exec", command), ("httpGet", httpGet), ("tcpSocket", tcpSocket)]

/-- What is done after the start and before the stop. -/
def lifecycle : Schema :=
  .object [] (each handler ["postStart", "preStop"])

/-- A check that is repeated. -/
def probe : Schema :=
  .object []
    ([("exec", command), ("grpc", grpc), ("httpGet", httpGet), ("tcpSocket", tcpSocket)] ++
      int32s ["failureThreshold", "initialDelaySeconds", "periodSeconds", "successThreshold",
        "timeoutSeconds"] ++
      int64s ["terminationGracePeriodSeconds"])

/-! ### Security -/

/-- A security label. -/
def seLinuxOptions : Schema :=
  .object [] (texts ["level", "role", "type", "user"])

/-- The system calls that are allowed. -/
def seccompProfile : Schema :=
  .object (texts ["type"]) (texts ["localhostProfile"])

/-- The identity on hosts of another system. -/
def windowsOptions : Schema :=
  .object []
    (texts ["gmsaCredentialSpec", "gmsaCredentialSpecName", "runAsUserName"] ++
      flags ["hostProcess"])

/-- The fields of security that pods and containers have in common. -/
def identity : List (String × Schema) :=
  int64s ["runAsGroup", "runAsUser"] ++ flags ["runAsNonRoot"] ++
    [("seLinuxOptions", seLinuxOptions), ("seccompProfile", seccompProfile),
      ("windowsOptions", windowsOptions)]

/-- What a container is allowed to do. -/
def containerSecurity : Schema :=
  .object []
    (identity ++ texts ["procMount"] ++
      flags ["allowPrivilegeEscalation", "privileged", "readOnlyRootFilesystem"] ++
      [("capabilities", .object [] (textLists ["add", "drop"]))])

/-- What a pod is allowed to do. -/
def podSecurity : Schema :=
  .object []
    (identity ++ texts ["fsGroupChangePolicy"] ++ int64s ["fsGroup"] ++
      [("supplementalGroups", .list .int64), ("sysctls", .list setting)])

/-! ### Containers -/

/-- All fields of a container but its name and its resources. -/
def otherContainer : List (String × Schema) :=
  texts ["image", "imagePullPolicy", "restartPolicy", "terminationMessagePath",
      "terminationMessagePolicy", "workingDir"] ++
    flags ["stdin", "stdinOnce", "tty"] ++ textLists ["args", "command"] ++
    each probe ["livenessProbe", "readinessProbe", "startupProbe"] ++
    [("env", .list envVariable), ("envFrom", .list envBundle), ("lifecycle", lifecycle),
      ("ports", .list port), ("resizePolicy", .list resizePolicy),
      ("securityContext", containerSecurity), ("volumeDevices", .list volumeDevice),
      ("volumeMounts", .list volumeMount)]

/-- A container. -/
def container : Schema :=
  .object (texts ["name"]) (("resources", containerResources) :: otherContainer)

/-- A container that is added to a running pod. -/
def ephemeralContainer : Schema :=
  .object (texts ["name"])
    (("resources", containerResources) :: ("targetContainerName", .text) :: otherContainer)

/-! ### Status -/

/-- What a container is doing. -/
def containerState : Schema :=
  .object []
    [("running", .object [] [("startedAt", .time)]),
      ("terminated",
        .object (int32s ["exitCode"])
          (texts ["containerID", "message", "reason"] ++ int32s ["signal"] ++
            each .time ["finishedAt", "startedAt"])),
      ("waiting", .object [] (texts ["message", "reason"]))]

/-- What became of a container so far. -/
def containerStatus : Schema :=
  .object (texts ["image", "imageID", "name"] ++ flags ["ready"] ++ int32s ["restartCount"])
    (texts ["containerID"] ++ flags ["started"] ++ textDicts ["allocatedResources"] ++
      each containerState ["lastState", "state"] ++ [("resources", containerResources)])

end ScaleMetrics.Schema
