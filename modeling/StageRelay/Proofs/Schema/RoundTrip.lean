import StageRelay.Config.Source
import StageRelay.Pipeline.Plan
import StageRelay.Proofs.Schema.ConditionForms
import StageRelay.Proofs.Schema.RoutingKeys

/-!
# Configurations are read back

What a configuration is written as is read as the same configuration, except that the extensions
have no names of their own: these are the keys that they stand under. Such names are never looked
at, since the registry gives every extension the name of its key. So the two configurations have
the same registry, the same issues and the same plans.

This holds of configurations whose routing tables list nothing but status codes and whose numbers
fit in 64 bits. Whatever document a configuration is read from, it is of this kind.
-/

namespace StageRelay

open Reader Record

/-! ## The parts -/

theorem ServiceMethod.reads_name (m : ServiceMethod) :
    ServiceMethod.reader.Reads (.string m.name) m := by
  apply reads_constant
  cases m <;> rfl

theorem DataType.reads_name (t : DataType) : DataType.reader.Reads (.string t.name) t := by
  apply reads_constant
  cases t <;> rfl

theorem Service.reads_toJson (s : Service) : schema.read.Reads s.toJson s :=
  reads_of_fills (r := schema) (by decide)
    (.give ((reads_text s.uri).map _) (.give (s.method.reads_name.map _)
      (.give ((reads_map s.headers fun e _ => reads_text e.2).map _) .nil)))

def Extension.nameless (e : Extension) : Extension := { e with name := "" }

theorem Extension.reads_toJson {e : Extension} (he : e.routing.Listable) :
    schema.read.Reads e.toJson e.nameless :=
  reads_of_fills (r := schema) (by decide)
    (.leave rfl (.give ((reads_boolean e.active).map _) (.give (e.service.reads_toJson.map _)
      (.give ((RoutingTable.reads_toJson he).map _) .nil))))

theorem StageRef.reads_toJson (r : StageRef) : schema.read.Reads r.toJson r :=
  reads_of_fills (r := schema) (by decide)
    (.give ((reads_text r.name).map _) (.give (r.condition.reads_toJson.map _) .nil))

theorem Route.reads_toJson (r : Route) : schema.read.Reads r.toJson r := by
  have hname : (optional text).Reads (Json.optional .string r.name) r.name :=
    reads_optional r.name (fun _ => Json.noConfusion) fun name _ => reads_text name
  have hstages : (sequence StageRef.schema.read).Reads (.array (r.stages.map StageRef.toJson))
      r.stages := reads_list r.stages fun s _ => s.reads_toJson
  exact reads_of_fills (r := schema) (by decide)
    (.give (hname.map _) (.give (r.condition.reads_toJson.map _) (.give (hstages.map _) .nil)))

def FitsLong (n : Option Nat) : Prop := ∀ a, n = some a → a < UInt64.size

theorem reads_optional_natural {n : Option Nat} (name : String) (hn : FitsLong n) :
    (optional (natural name UInt64.size)).Reads (Json.optional .nat n) n :=
  reads_optional n (fun _ => Json.noConfusion) fun a ha => reads_natural name (hn a ha)

theorem GatewaySettings.reads_toJson {g : GatewaySettings} (hg : g.maxBodyBytes < UInt64.size) :
    schema.read.Reads g.toJson g := by
  have horigins : (sequence text).Reads (.array (g.corsOrigins.map .string)) g.corsOrigins :=
    reads_list g.corsOrigins fun origin _ => reads_text origin
  exact reads_of_fills (r := schema) (by decide)
    (.give ((reads_text g.host).map _) (.give ((reads_word g.port).map _)
      (.give ((reads_natural "usize" hg).map _) (.give (horigins.map _) .nil))))

theorem PipelineSettings.reads_toJson {s : PipelineSettings} (htimeout : FitsLong s.stageTimeoutMs)
    (hdeadline : FitsLong s.deadlineMs) : schema.read.Reads s.toJson s :=
  reads_of_fills (r := schema) (by decide)
    (.give ((reads_optional_natural "u64" htimeout).map _)
      (.give ((reads_optional_natural "u64" hdeadline).map _)
        (.give ((reads_word s.emptyQueueStatus).map _) .nil)))

structure Cardinality.Fits (c : Cardinality) : Prop where
  min : FitsLong c.min
  max : FitsLong c.max

theorem Cardinality.reads_toJson {c : Cardinality} (hc : c.Fits) :
    schema.read.Reads c.toJson c :=
  reads_of_fills (r := schema) (by decide)
    (.give ((reads_optional_natural "usize" hc.min).map _)
      (.give ((reads_optional_natural "usize" hc.max).map _) .nil))

def Rule.Fits (r : Rule) : Prop := ∀ c, r.cardinality = some c → c.Fits

theorem Rule.reads_toJson {r : Rule} (hr : r.Fits) : schema.read.Reads r.toJson r := by
  have htypes : (optional (sequence DataType.reader)).Reads
      (Json.optional (fun ts => .array (ts.map fun t => .string t.name)) r.types) r.types :=
    reads_optional r.types (fun _ => Json.noConfusion) fun ts _ =>
      reads_list ts fun t _ => t.reads_name
  have hbounds : (optional Cardinality.schema.read).Reads
      (Json.optional Cardinality.toJson r.cardinality) r.cardinality :=
    reads_optional r.cardinality (fun _ => Json.noConfusion) fun c hc =>
      Cardinality.reads_toJson (hr c hc)
  exact reads_of_fills (r := schema) (by decide)
    (.give (htypes.map _) (.give (hbounds.map _) .nil))

theorem ValidationSettings.reads_toJson {s : ValidationSettings}
    (hs : ∀ e ∈ s.rules.toList, e.2.Fits) : schema.read.Reads s.toJson s := by
  have hrules : (table Rule.schema.read).Reads (s.rules.toJson Rule.toJson) s.rules :=
    reads_map s.rules fun e he => Rule.reads_toJson (hs e he)
  exact reads_of_fills (r := schema) (by decide)
    (.give ((reads_boolean s.enabled).map _) (.give (hrules.map _) .nil))

theorem StoreSettings.reads_toJson (s : StoreSettings) : schema.read.Reads s.toJson s := by
  have hpath : (optional Reader.path).Reads (Json.optional .string s.path) s.path :=
    reads_optional s.path (fun _ => Json.noConfusion) fun path _ => reads_path path
  exact reads_of_fills (r := schema) (by decide)
    (.give ((reads_boolean s.enabled).map _) (.give (hpath.map _) .nil))

theorem ServiceSettings.reads_toJson {s : ServiceSettings}
    (hs : ∀ e ∈ s.validation.rules.toList, e.2.Fits) : schema.read.Reads s.toJson s :=
  reads_of_fills (r := schema) (by decide)
    (.give ((ValidationSettings.reads_toJson hs).map _) (.give (s.store.reads_toJson.map _) .nil))

/-! ## Whole configurations -/

namespace Config

/-- The numbers that a program keeps in 64 bits fit there. Every configuration that has been read
meets this. -/
structure Fits (c : Config) : Prop where
  maxBodyBytes : c.gateway.maxBodyBytes < UInt64.size
  stageTimeoutMs : FitsLong c.pipeline.stageTimeoutMs
  deadlineMs : FitsLong c.pipeline.deadlineMs
  rules : ∀ e ∈ c.services.validation.rules.toList, e.2.Fits

def Listable (c : Config) : Prop := ∀ e ∈ c.extensions.toList, e.2.routing.Listable

instance (c : Config) : Decidable c.Listable :=
  inferInstanceAs (Decidable (∀ e ∈ c.extensions.toList, e.2.routing.Listable))

def nameless (c : Config) : Config :=
  { c with extensions := c.extensions.mapEntries fun _ e => e.nameless }

theorem reads_toJson {c : Config} (hfits : c.Fits) (hlistable : c.Listable) :
    schema.read.Reads c.toJson c.nameless := by
  have hroutes : (sequence Route.schema.read).Reads (.array (c.routes.map Route.toJson))
      c.routes := reads_list c.routes fun r _ => r.reads_toJson
  have hextensions : (table Extension.schema.read).Reads (c.extensions.toJson Extension.toJson)
      (c.extensions.mapEntries fun _ e => e.nameless) :=
    reads_table c.extensions fun e he => Extension.reads_toJson (hlistable e he)
  exact reads_of_fills (r := schema) (by decide)
    (.give ((GatewaySettings.reads_toJson hfits.maxBodyBytes).map _)
      (.give ((PipelineSettings.reads_toJson hfits.stageTimeoutMs hfits.deadlineMs).map _)
        (.give (hroutes.map _) (.give (hextensions.map _)
          (.give ((ServiceSettings.reads_toJson hfits.rules).map _) .nil)))))

/-! ### Names of extensions do not matter -/

theorem registry_nameless (c : Config) : c.nameless.registry = c.registry := by
  show ((c.extensions.mapEntries fun _ e => e.nameless).toList.foldl
    (fun g e => g.insertAs e.1 e.2) Registry.empty) = _
  show ((c.extensions.toList.map fun e => (e.1, e.2.nameless)).foldl _ _) = _
  rw [List.foldl_map]
  rfl

theorem contains_nameless (c : Config) (name : String) :
    c.nameless.extensions.contains name = c.extensions.contains name := by
  rw [SortedMap.contains, nameless, SortedMap.get?_mapEntries, Option.isSome_map]
  rfl

theorem routesIssues_congr {extensions extensions' : SortedMap String Extension}
    (h : ∀ name, extensions'.contains name = extensions.contains name) (index : Nat)
    (catchAll : Option String) (routes : List Route) :
    routesIssues extensions' index catchAll routes =
      routesIssues extensions index catchAll routes := by
  induction routes generalizing index catchAll with
  | nil => rfl
  | cons r routes ih => simp only [routesIssues, routeIssues, h, ih]

theorem issues_nameless (c : Config) : c.nameless.issues = c.issues := by
  have hroutes : routesIssues c.nameless.extensions 0 none c.nameless.routes =
      routesIssues c.extensions 0 none c.routes :=
    routesIssues_congr c.contains_nameless 0 none c.routes
  have hextensions : (c.nameless.extensions.toList.flatMap fun e =>
      extensionIssues c.nameless.routes e.1 e.2) =
        c.extensions.toList.flatMap fun e => extensionIssues c.routes e.1 e.2 := by
    show ((c.extensions.toList.map fun e => (e.1, e.2.nameless)).flatMap _) = _
    rw [List.flatMap_map]
    rfl
  rw [issues, issues, hroutes, hextensions]
  rfl

theorem ofConfig_nameless (c : Config) :
    Pipeline.ofConfig c.nameless = Pipeline.ofConfig c := by
  rw [Pipeline.ofConfig, Pipeline.ofConfig, registry_nameless]
  rfl

end Config

/-! ## What documents give -/

theorem Extension.ensures_listable : schema.read.Ensures fun e => e.routing.Listable := by
  refine ensures_read (List.forall_mem_nil _) ?_
  simp only [schema, List.forall_mem_cons]
  refine ⟨?_, ?_, ?_, ?_, List.forall_mem_nil _⟩
  · exact Field.keeps_of_forall rfl fun _ _ h => h
  · exact Field.keeps_of_forall rfl fun _ _ h => h
  · exact Field.keeps_of_forall rfl fun _ _ h => h
  · exact Field.keeps_of_ensures rfl RoutingTable.ensures_listable fun _ ht _ _ => ht

theorem ensures_optional_natural (name : String) :
    (optional (natural name UInt64.size)).Ensures FitsLong :=
  ensures_optional (ensures_natural name UInt64.size)

theorem GatewaySettings.ensures_fits :
    schema.read.Ensures fun g => g.maxBodyBytes < UInt64.size := by
  refine ensures_read (by decide) ?_
  simp only [schema, List.forall_mem_cons]
  refine ⟨?_, ?_, ?_, ?_, List.forall_mem_nil _⟩
  · exact Field.keeps_of_forall rfl fun _ _ h => h
  · exact Field.keeps_of_forall rfl fun _ _ h => h
  · exact Field.keeps_of_ensures rfl (ensures_natural "usize" UInt64.size) fun _ hn _ _ => hn
  · exact Field.keeps_of_forall rfl fun _ _ h => h

theorem PipelineSettings.ensures_fits :
    schema.read.Ensures fun s => FitsLong s.stageTimeoutMs ∧ FitsLong s.deadlineMs := by
  refine ensures_read ⟨?_, ?_⟩ ?_
  · rintro n ⟨⟩
    decide
  · rintro n ⟨⟩
  · simp only [schema, List.forall_mem_cons]
    refine ⟨?_, ?_, ?_, List.forall_mem_nil _⟩
    · exact Field.keeps_of_ensures rfl (ensures_optional_natural "u64") fun _ hn _ h => ⟨hn, h.2⟩
    · exact Field.keeps_of_ensures rfl (ensures_optional_natural "u64") fun _ hn _ h => ⟨h.1, hn⟩
    · exact Field.keeps_of_forall rfl fun _ _ h => h

theorem Cardinality.ensures_fits : schema.read.Ensures Cardinality.Fits := by
  refine ensures_read ⟨?_, ?_⟩ ?_
  · rintro n ⟨⟩
  · rintro n ⟨⟩
  · simp only [schema, List.forall_mem_cons]
    refine ⟨?_, ?_, List.forall_mem_nil _⟩
    · exact Field.keeps_of_ensures rfl (ensures_optional_natural "usize")
        fun _ hn _ h => ⟨hn, h.max⟩
    · exact Field.keeps_of_ensures rfl (ensures_optional_natural "usize")
        fun _ hn _ h => ⟨h.min, hn⟩

theorem Rule.ensures_fits : schema.read.Ensures Rule.Fits := by
  refine ensures_read ?_ ?_
  · rintro c ⟨⟩
  · simp only [schema, List.forall_mem_cons]
    refine ⟨?_, ?_, List.forall_mem_nil _⟩
    · exact Field.keeps_of_forall rfl fun _ _ h => h
    · exact Field.keeps_of_ensures rfl (ensures_optional Cardinality.ensures_fits)
        fun _ hc _ _ => hc

theorem ValidationSettings.ensures_fits :
    schema.read.Ensures fun s => ∀ e ∈ s.rules.toList, e.2.Fits := by
  refine ensures_read (List.forall_mem_nil _) ?_
  simp only [schema, List.forall_mem_cons]
  refine ⟨?_, ?_, List.forall_mem_nil _⟩
  · exact Field.keeps_of_forall rfl fun _ _ h => h
  · exact Field.keeps_of_ensures rfl (ensures_table Rule.ensures_fits) fun _ hrules _ _ => hrules

theorem ServiceSettings.ensures_fits :
    schema.read.Ensures fun s => ∀ e ∈ s.validation.rules.toList, e.2.Fits := by
  refine ensures_read (List.forall_mem_nil _) ?_
  simp only [schema, List.forall_mem_cons]
  refine ⟨?_, ?_, List.forall_mem_nil _⟩
  · exact Field.keeps_of_ensures rfl ValidationSettings.ensures_fits fun _ hrules _ _ => hrules
  · exact Field.keeps_of_forall rfl fun _ _ h => h

/-- Whatever is read from a text is read from a value. -/
theorem DocumentFormat.exists_of_read_eq_ok {α : Type} {r : Reader α} {text : String} {a : α}
    (f : DocumentFormat) (h : f.read r text = .ok a) : ∃ p v, r p v = .ok a := by
  cases f with
  | json =>
      simp only [DocumentFormat.read] at h
      split at h
      next v _ => exact ⟨Place.top .json, v, h⟩
      next => cases h
  | toml =>
      simp only [DocumentFormat.read] at h
      split at h
      next v _ => exact ⟨Place.top .toml, v, h⟩
      next => cases h

namespace Config

/-- Whatever document a configuration is read from, its numbers fit. So what is read can be written
and read again. -/
theorem ensures_fits : schema.read.Ensures Fits := by
  refine ensures_read ⟨by decide, ?_, ?_, List.forall_mem_nil _⟩ ?_
  · rintro n ⟨⟩
    decide
  · rintro n ⟨⟩
  · simp only [schema, List.forall_mem_cons]
    refine ⟨?_, ?_, ?_, ?_, ?_, List.forall_mem_nil _⟩
    · exact Field.keeps_of_ensures rfl GatewaySettings.ensures_fits
        fun _ hg _ h => { h with maxBodyBytes := hg }
    · exact Field.keeps_of_ensures rfl PipelineSettings.ensures_fits
        fun _ hs _ h => { h with stageTimeoutMs := hs.1, deadlineMs := hs.2 }
    · exact Field.keeps_of_forall rfl fun _ _ h => { h with }
    · exact Field.keeps_of_forall rfl fun _ _ h => { h with }
    · exact Field.keeps_of_ensures rfl ServiceSettings.ensures_fits
        fun _ hs _ h => { h with rules := hs }

/-- Whatever document a configuration is read from, its tables list nothing but status codes. -/
theorem ensures_listable : schema.read.Ensures Listable := by
  refine ensures_read (List.forall_mem_nil _) ?_
  simp only [schema, List.forall_mem_cons]
  refine ⟨?_, ?_, ?_, ?_, ?_, List.forall_mem_nil _⟩
  · exact Field.keeps_of_forall rfl fun _ _ h => h
  · exact Field.keeps_of_forall rfl fun _ _ h => h
  · exact Field.keeps_of_forall rfl fun _ _ h => h
  · exact Field.keeps_of_ensures rfl (ensures_table Extension.ensures_listable)
      fun _ he _ _ => he
  · exact Field.keeps_of_forall rfl fun _ _ h => h

/-- What the reader ensures holds of every configuration that is read from a text. -/
theorem of_parse {P : Config → Prop} (hP : schema.read.Ensures P) {f : DocumentFormat}
    {origin text : String} {c : Config} (h : parse f origin text = .ok c) : P c := by
  rw [parse] at h
  split at h
  next hread =>
    cases h
    obtain ⟨p, v, hread⟩ := f.exists_of_read_eq_ok hread
    exact hP p v c hread
  next => cases h

/-- A configuration that is written as a document is read back from it, in every format that can
nest as deeply as the document does, and all that is lost are names that extensions have beside
their keys. So the registry, the issues and all plans stay as they are. Whatever document a
configuration was read from in the first place, it can be written in this way. -/
theorem read_toJson :
    (∀ c : Config, c.Fits → c.Listable →
      (∀ format : Format, (∀ limit, format.depthLimit = some limit → c.toJson.depth < limit) →
        schema.read.document format c.toJson = .ok c.nameless) ∧
      c.nameless.registry = c.registry ∧ c.nameless.issues = c.issues ∧
      ∀ evaluate request, (Pipeline.ofConfig c.nameless).plan evaluate request =
        (Pipeline.ofConfig c).plan evaluate request) ∧
    ∀ (f : DocumentFormat) (origin text : String) (c : Config),
      parse f origin text = .ok c → c.Fits ∧ c.Listable := by
  refine ⟨?_, ?_⟩
  · intro c hfits hlistable
    refine ⟨?_, c.registry_nameless, c.issues_nameless, ?_⟩
    · intro format hdepth
      refine reads_toJson hfits hlistable (Place.top format) ?_
      intro limit hlimit
      show 0 + c.toJson.depth < limit
      rw [Nat.zero_add]
      exact hdepth limit hlimit
    · intro evaluate request
      rw [ofConfig_nameless]
  · intro f origin text c hparse
    exact ⟨of_parse ensures_fits hparse, of_parse ensures_listable hparse⟩

/-- A configuration with conditions inside conditions, with no stage timeout where there is one by
default, and with an extension that has a name of its own. -/
def ordersConfig : Config where
  gateway := default
  pipeline := ⟨none, some 1000, 204⟩
  routes := [⟨some "orders", .not (.any [.method ["GET", "HEAD"], .headerEquals "x-dry" "1"]),
    [⟨"audit", .hasPayload⟩]⟩]
  extensions := .ofList [("audit", ⟨"old-audit", true, ⟨"http://audit", .put, .empty⟩,
    (RoutingTable.empty.on 204 .forward).otherwise .terminate⟩)]
  services := default

/-- The configuration is read back without the name `old-audit`, and the empty document gives the
default configuration, which can be written as well. -/
theorem read_toJson_ordersConfig :
    ordersConfig.Fits ∧ ordersConfig.Listable ∧ ordersConfig.toJson.depth < 128 ∧
      schema.read.document .json ordersConfig.toJson = .ok ordersConfig.nameless ∧
      ordersConfig.nameless.issues = ordersConfig.issues ∧
      parse .json "config.json" "\x7b\x7d" = .ok default ∧
      (default : Config).Fits ∧ (default : Config).Listable := by
  have hfits : ordersConfig.Fits := by
    refine ⟨by decide, ?_, ?_, List.forall_mem_nil _⟩
    · rintro n ⟨⟩
    · rintro n ⟨⟩
      decide
  have hlistable : ordersConfig.Listable := by decide
  have hdepth : ordersConfig.toJson.depth < 128 := by decide
  have hdefault : parse .json "config.json" "\x7b\x7d" = .ok default := by rfl
  obtain ⟨hread, -, hissues, -⟩ := read_toJson.1 ordersConfig hfits hlistable
  obtain ⟨hdefaultFits, hdefaultListable⟩ := read_toJson.2 .json "config.json" _ default hdefault
  refine ⟨hfits, hlistable, hdepth, hread .json ?_, hissues, hdefault, hdefaultFits,
    hdefaultListable⟩
  rintro limit ⟨⟩
  exact hdepth

end Config

end StageRelay
