import StageRelay.Config.Basic

/-!
# Configurations as documents

Each part of a configuration is written with all its fields under their own
names, in their declared order. The name of an extension is not written with it:
it is the key that the extension stands under.
-/

namespace StageRelay

def SortedMap.toJson {ν : Type} (f : ν → Json) (m : SortedMap String ν) : Json :=
  Json.record (m.toList.map fun e => (e.1, f e.2))

mutual

/-- A condition as an object, its tag first. -/
def Condition.toJson : Condition → Json
  | .always => Json.record [("type", .string "always")]
  | .never => Json.record [("type", .string "never")]
  | .method names =>
    Json.record [("type", .string "method"), ("methods", .array (names.map .string))]
  | .pathStart head => Json.record [("type", .string "path_prefix"), ("prefix", .string head)]
  | .pathEquals path => Json.record [("type", .string "path_equals"), ("path", .string path)]
  | .headerPresent name => Json.record [("type", .string "header_present"), ("name", .string name)]
  | .headerEquals name value =>
    Json.record
      [("type", .string "header_equals"), ("name", .string name), ("value", .string value)]
  | .hasPayload => Json.record [("type", .string "has_payload")]
  | .hasFiles => Json.record [("type", .string "has_files")]
  | .all cs => Json.record [("type", .string "all"), ("conditions", .array (toJsons cs))]
  | .any cs => Json.record [("type", .string "any"), ("conditions", .array (toJsons cs))]
  | .not c => Json.record [("type", .string "not"), ("condition", c.toJson)]

def Condition.toJsons : List Condition → List Json
  | [] => []
  | c :: cs => c.toJson :: toJsons cs

end

/-- A routing table as a map from its keys. -/
def RoutingTable.toJson (t : RoutingTable) : Json :=
  t.toKeys.toJson fun d => .string d.name

def Service.toJson (s : Service) : Json :=
  Json.record [("uri", .string s.uri), ("method", .string s.method.name),
    ("headers", s.headers.toJson .string)]

/-- An extension without its name. The name is the key under which the extension is
listed, and would be lost when read. -/
def Extension.toJson (e : Extension) : Json :=
  Json.record [("active", .bool e.active), ("service", e.service.toJson),
    ("response_routing", e.routing.toJson)]

def StageRef.toJson (r : StageRef) : Json :=
  Json.record [("name", .string r.name), ("condition", r.condition.toJson)]

def Route.toJson (r : Route) : Json :=
  Json.record [("name", Json.optional .string r.name), ("condition", r.condition.toJson),
    ("extensions", .array (r.stages.map StageRef.toJson))]

def GatewaySettings.toJson (g : GatewaySettings) : Json :=
  Json.record [("host", .string g.host), ("port", .nat g.port.toNat),
    ("max_body_bytes", .nat g.maxBodyBytes), ("cors_origins", .array (g.corsOrigins.map .string))]

def PipelineSettings.toJson (s : PipelineSettings) : Json :=
  Json.record [("stage_timeout_ms", Json.optional .nat s.stageTimeoutMs),
    ("deadline_ms", Json.optional .nat s.deadlineMs),
    ("empty_queue_status", .nat s.emptyQueueStatus.toNat)]

def Cardinality.toJson (c : Cardinality) : Json :=
  Json.record [("min", Json.optional .nat c.min), ("max", Json.optional .nat c.max)]

def Rule.toJson (r : Rule) : Json :=
  Json.record
    [("datatype", Json.optional (fun ts => .array (ts.map fun t => .string t.name)) r.types),
      ("cardinality", Json.optional Cardinality.toJson r.cardinality)]

def ValidationSettings.toJson (s : ValidationSettings) : Json :=
  Json.record [("enabled", .bool s.enabled), ("rules", s.rules.toJson Rule.toJson)]

def StoreSettings.toJson (s : StoreSettings) : Json :=
  Json.record [("enabled", .bool s.enabled), ("path", Json.optional .string s.path)]

def ServiceSettings.toJson (s : ServiceSettings) : Json :=
  Json.record [("validation", s.validation.toJson), ("store", s.store.toJson)]

def Config.toJson (c : Config) : Json :=
  Json.record [("gateway", c.gateway.toJson), ("pipeline", c.pipeline.toJson),
    ("routes", .array (c.routes.map Route.toJson)),
    ("extensions", c.extensions.toJson Extension.toJson), ("services", c.services.toJson)]

end StageRelay
