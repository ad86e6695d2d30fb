import StageRelay.Config.Basic
import StageRelay.Schema.Condition

/-!
# Configurations in documents

The fields of each part of a configuration, with the other names under which
documents may give them. A part that is left out has its default.
-/

namespace StageRelay

open Reader

def Directive.reader : Reader Directive := constant Directive.names

def ServiceMethod.reader : Reader ServiceMethod := constant ServiceMethod.names

def DataType.reader : Reader DataType := constant DataType.names

/-- Reads a routing table. Its keys are read after the whole map, so that an error in a
directive goes before one in a key. -/
def RoutingTable.reader : Reader RoutingTable := fun p v => do
  match RoutingTable.ofKeys (← table Directive.reader p v) with
  | .ok t => return t
  | .error e => .error (.routingKey e)

def Service.schema : Record Service :=
  { typeName := "ServiceDescriptor"
    fields :=
      [.mandatory "uri" [] text fun x s => { s with uri := x },
        .defaulted "method" [] ServiceMethod.reader fun x s => { s with method := x },
        .defaulted "headers" [] (table text) fun x s => { s with headers := x }]
    draft := ⟨"", .post, .empty⟩ }

/-- An extension. Its name need not be given, as it takes the name that it is listed
under. -/
def Extension.schema : Record Extension :=
  { typeName := "ExtensionConfig"
    fields :=
      [.defaulted "name" [] text fun x e => { e with name := x },
        .defaulted "active" [] boolean fun x e => { e with active := x },
        .mandatory "service" [] Service.schema.read fun x e => { e with service := x },
        .defaulted "response_routing" ["responseRouting", "response_router", "responseRouter"]
          RoutingTable.reader fun x e => { e with routing := x }]
    draft := ⟨"", true, Service.schema.draft, .empty⟩ }

def StageRef.schema : Record StageRef :=
  { typeName := "ExtensionRef"
    fields :=
      [.mandatory "name" [] text fun x r => { r with name := x },
        .defaulted "condition" ["conditions"] Condition.reader fun x r => { r with condition := x }]
    draft := ⟨"", .always⟩ }

def Route.schema : Record Route :=
  { typeName := "RouteConfig"
    fields :=
      [.defaulted "name" [] (optional text) fun x r => { r with name := x },
        .defaulted "condition" ["conditions"] Condition.reader fun x r => { r with condition := x },
        .defaulted "extensions" [] (sequence StageRef.schema.read)
          fun x r => { r with stages := x }]
    draft := ⟨none, .always, []⟩ }

def GatewaySettings.schema : Record GatewaySettings :=
  { typeName := "GatewayConfig"
    fields :=
      [.defaulted "host" [] text fun x g => { g with host := x },
        .defaulted "port" [] word fun x g => { g with port := x },
        .defaulted "max_body_bytes" ["maxBodyBytes"] count fun x g => { g with maxBodyBytes := x },
        .defaulted "cors_origins" ["corsOrigins"] (sequence text)
          fun x g => { g with corsOrigins := x }]
    draft := default }

def PipelineSettings.schema : Record PipelineSettings :=
  { typeName := "PipelineSettings"
    fields :=
      [.defaulted "stage_timeout_ms" ["stageTimeoutMs"] (optional long)
          fun x s => { s with stageTimeoutMs := x },
        .defaulted "deadline_ms" ["deadlineMs"] (optional long)
          fun x s => { s with deadlineMs := x },
        .defaulted "empty_queue_status" ["emptyQueueStatus"] word
          fun x s => { s with emptyQueueStatus := x }]
    draft := default }

def Cardinality.schema : Record Cardinality :=
  { typeName := "Cardinality"
    fields :=
      [.defaulted "min" [] (optional count) fun x c => { c with min := x },
        .defaulted "max" [] (optional count) fun x c => { c with max := x }]
    draft := default }

def Rule.schema : Record Rule :=
  { typeName := "ValidationRule"
    fields :=
      [.defaulted "datatype" ["datatypes"] (optional (sequence DataType.reader))
          fun x r => { r with types := x },
        .defaulted "cardinality" [] (optional Cardinality.schema.read)
          fun x r => { r with cardinality := x }]
    draft := default }

def ValidationSettings.schema : Record ValidationSettings :=
  { typeName := "ValidationServiceConfig"
    fields :=
      [.defaulted "enabled" [] boolean fun x s => { s with enabled := x },
        .defaulted "rules" [] (table Rule.schema.read) fun x s => { s with rules := x }]
    draft := default }

def StoreSettings.schema : Record StoreSettings :=
  { typeName := "StoreServiceConfig"
    fields :=
      [.defaulted "enabled" [] boolean fun x s => { s with enabled := x },
        .defaulted "path" [] (optional Reader.path) fun x s => { s with path := x }]
    draft := default }

def ServiceSettings.schema : Record ServiceSettings :=
  { typeName := "ServicesConfig"
    fields :=
      [.defaulted "validation" [] ValidationSettings.schema.read
          fun x s => { s with validation := x },
        .defaulted "store" [] StoreSettings.schema.read fun x s => { s with store := x }]
    draft := default }

/-- A whole configuration. Every part has a default, so that the empty document is a
configuration as well. -/
def Config.schema : Record Config :=
  { typeName := "Config"
    fields :=
      [.defaulted "gateway" [] GatewaySettings.schema.read fun x c => { c with gateway := x },
        .defaulted "pipeline" [] PipelineSettings.schema.read fun x c => { c with pipeline := x },
        .defaulted "routes" [] (sequence Route.schema.read) fun x c => { c with routes := x },
        .defaulted "extensions" [] (table Extension.schema.read)
          fun x c => { c with extensions := x },
        .defaulted "services" [] ServiceSettings.schema.read fun x c => { c with services := x }]
    draft := default }

end StageRelay
