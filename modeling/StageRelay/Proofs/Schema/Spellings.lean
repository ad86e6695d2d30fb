import Mathlib.Logic.Relation
import StageRelay.Proofs.Schema.ConditionSpellings
import StageRelay.Schema.Config

/-!
# Other spellings of configurations

Every part of a configuration has its respellings: those of a record, with those of the parts
inside. The names in maps are those of the user. They stand for no field, so there is nothing to
respell in them and nothing that may be added beside them.

Whatever is changed, one step after another, in a document that a configuration is read from, the
configuration stays what it was.
-/

namespace StageRelay

open Reader Record Respelling

/-! ## Constants and tables -/

theorem Directive.tolerates_reader : reader.Tolerates (OfConstant names) :=
  tolerates_constant (by decide)

theorem DataType.tolerates_reader : reader.Tolerates (OfConstant names) :=
  tolerates_constant (by decide)

theorem RoutingTable.tolerates_reader : reader.Tolerates (InTable (OfConstant Directive.names)) :=
  fun p v v' h => (tolerates_table Directive.tolerates_reader p v v' h).bind_left _

/-! ## Records

In each of them every field is a part of its own, so it does not matter which of two is set first.
The fields with parts inside are given by their indices.
-/

def Service.respelling : Respelling := schema.Respelled []

theorem Service.tolerates_read : schema.read.Tolerates respelling := by
  refine Record.tolerates_read (by decide) ?_ .nil
  simp [Independent, schema, Field.mandatory, Field.defaulted]

def Extension.respelling : Respelling :=
  schema.Respelled [("service", Service.respelling),
    ("response_routing", InTable (OfConstant Directive.names))]

theorem Extension.tolerates_read : schema.read.Tolerates respelling := by
  refine Record.tolerates_read (by decide) ?_ <|
    .cons 2 rfl rfl (Service.tolerates_read.map _) <|
    .cons 3 rfl rfl (RoutingTable.tolerates_reader.map _) .nil
  simp [Independent, schema, Field.mandatory, Field.defaulted]

def StageRef.respelling : Respelling :=
  schema.Respelled [("condition", Condition.respelling)]

theorem StageRef.tolerates_read : schema.read.Tolerates respelling := by
  refine Record.tolerates_read (by decide) ?_ <|
    .cons 1 rfl rfl (Condition.tolerates_reader.map _) .nil
  simp [Independent, schema, Field.mandatory, Field.defaulted]

def Route.respelling : Respelling :=
  schema.Respelled [("condition", Condition.respelling),
    ("extensions", InSequence StageRef.respelling)]

theorem Route.tolerates_read : schema.read.Tolerates respelling := by
  refine Record.tolerates_read (by decide) ?_ <|
    .cons 1 rfl rfl (Condition.tolerates_reader.map _) <|
    .cons 2 rfl rfl ((tolerates_sequence StageRef.tolerates_read).map _) .nil
  simp [Independent, schema, Field.defaulted]

def GatewaySettings.respelling : Respelling := schema.Respelled []

theorem GatewaySettings.tolerates_read : schema.read.Tolerates respelling := by
  refine Record.tolerates_read (by decide) ?_ .nil
  simp [Independent, schema, Field.defaulted]

def PipelineSettings.respelling : Respelling := schema.Respelled []

theorem PipelineSettings.tolerates_read : schema.read.Tolerates respelling := by
  refine Record.tolerates_read (by decide) ?_ .nil
  simp [Independent, schema, Field.defaulted]

def Cardinality.respelling : Respelling := schema.Respelled []

theorem Cardinality.tolerates_read : schema.read.Tolerates respelling := by
  refine Record.tolerates_read (by decide) ?_ .nil
  simp [Independent, schema, Field.defaulted]

def Rule.respelling : Respelling :=
  schema.Respelled [("datatype", Present (InSequence (OfConstant DataType.names))),
    ("cardinality", Present Cardinality.respelling)]

theorem Rule.tolerates_read : schema.read.Tolerates respelling := by
  refine Record.tolerates_read (by decide) ?_ <|
    .cons 0 rfl rfl ((tolerates_optional (tolerates_sequence DataType.tolerates_reader)).map _) <|
    .cons 1 rfl rfl ((tolerates_optional Cardinality.tolerates_read).map _) .nil
  simp [Independent, schema, Field.defaulted]

def ValidationSettings.respelling : Respelling :=
  schema.Respelled [("rules", InTable Rule.respelling)]

theorem ValidationSettings.tolerates_read : schema.read.Tolerates respelling := by
  refine Record.tolerates_read (by decide) ?_ <|
    .cons 1 rfl rfl ((tolerates_table Rule.tolerates_read).map _) .nil
  simp [Independent, schema, Field.defaulted]

def StoreSettings.respelling : Respelling := schema.Respelled []

theorem StoreSettings.tolerates_read : schema.read.Tolerates respelling := by
  refine Record.tolerates_read (by decide) ?_ .nil
  simp [Independent, schema, Field.defaulted]

def ServiceSettings.respelling : Respelling :=
  schema.Respelled [("validation", ValidationSettings.respelling),
    ("store", StoreSettings.respelling)]

theorem ServiceSettings.tolerates_read : schema.read.Tolerates respelling := by
  refine Record.tolerates_read (by decide) ?_ <|
    .cons 0 rfl rfl (ValidationSettings.tolerates_read.map _) <|
    .cons 1 rfl rfl (StoreSettings.tolerates_read.map _) .nil
  simp [Independent, schema, Field.defaulted]

/-- How a configuration is respelled: in any of its parts, at any depth. -/
def Config.respelling : Respelling :=
  schema.Respelled [("gateway", GatewaySettings.respelling),
    ("pipeline", PipelineSettings.respelling),
    ("routes", InSequence Route.respelling),
    ("extensions", InTable Extension.respelling),
    ("services", ServiceSettings.respelling)]

theorem Config.tolerates_read : schema.read.Tolerates respelling := by
  refine Record.tolerates_read (by decide) ?_ <|
    .cons 0 rfl rfl (GatewaySettings.tolerates_read.map _) <|
    .cons 1 rfl rfl (PipelineSettings.tolerates_read.map _) <|
    .cons 2 rfl rfl ((tolerates_sequence Route.tolerates_read).map _) <|
    .cons 3 rfl rfl ((tolerates_table Extension.tolerates_read).map _) <|
    .cons 4 rfl rfl (ServiceSettings.tolerates_read.map _) .nil
  simp [Independent, schema, Field.defaulted]

/-! ## Whole documents -/

namespace Config

/-- A configuration document may be spelled in other ways, at any depth and in any number of places,
and it is still read as the same configuration.

Only what is added beside the fields of a condition has to meet something, that nothing in it is
faulty and that there is room for its depth. Trees of documents always meet this: a faulty scalar is
one that a text spells and no tree holds, and a tree that is read as it is stands at a place whose
format limits no depth, where there is room for everything. -/
theorem read_of_respelled {p : Place} {v v' : Json} {c : Config}
    (h : Relation.ReflTransGen (respelling p) v v') (hread : schema.read p v = .ok c) :
    schema.read p v' = .ok c := by
  induction h with
  | refl => exact hread
  | tail _ hstep ih => exact tolerates_read _ _ _ hstep c ih

def sample (gateway condition rule : List (Key × Json)) : Json :=
  .object [(.ok "gateway", .object gateway),
    (.ok "routes", .array [.object [(.ok "condition", .object condition)]]),
    (.ok "services", .object [(.ok "validation", .object [(.ok "rules", .object
      [(.ok "n", .object rule)])])])]

/-- One field gets its other name and one is left out, a condition loses its empty list and gets a
note, and a data type gets another name. -/
theorem read_of_respelled_sample : ∃ c,
    schema.read (.top .json)
      (sample [(.ok "max_body_bytes", .nat 10), (.ok "port", .nat 8080)]
        [(.ok "type", .string "all"), (.ok "conditions", .array [])]
        [(.ok "datatype", .array [.string "double"])]) = .ok c ∧
    schema.read (.top .json)
      (sample [(.ok "maxBodyBytes", .nat 10)] [(.ok "type", .string "all"), (.ok "note", .null)]
        [(.ok "datatype", .array [.string "number"])]) = .ok c := by
  -- The three places of the document in which something is respelled.
  have hgateway : ∀ {gs gs' cs rs},
      GatewaySettings.respelling ⟨.json, 1⟩ (.object gs) (.object gs') →
      respelling (.top .json) (sample gs cs rs) (sample gs' cs rs) := fun h =>
    @Respelled.member _ _ _ _ _ [] _ _ _ _ _ _ (List.mem_of_getElem? (i := 0) rfl) rfl
      (List.mem_of_getElem? (i := 0) rfl) rfl h
  have hcondition : ∀ {gs cs cs' rs},
      Condition.respelling ⟨.json, 3⟩ (.object cs) (.object cs') →
      respelling (.top .json) (sample gs cs rs) (sample gs cs' rs) := fun h =>
    @Respelled.member _ _ _ _ _ [_] _ _ _ _ _ _ (List.mem_of_getElem? (i := 2) rfl) rfl
      (List.mem_of_getElem? (i := 2) rfl) rfl (@InSequence.item _ _ _ [] _ _ _ rfl
        (@Respelled.member _ _ _ _ _ [] _ _ _ _ _ _ (List.mem_of_getElem? (i := 1) rfl) rfl
          (List.mem_of_getElem? (i := 0) rfl) rfl h))
  have hrule : ∀ {gs cs rs rs'}, Rule.respelling ⟨.json, 4⟩ (.object rs) (.object rs') →
      respelling (.top .json) (sample gs cs rs) (sample gs cs rs') := fun h =>
    @Respelled.member _ _ _ _ _ [_, _] _ _ _ _ _ _ (List.mem_of_getElem? (i := 4) rfl) rfl
      (List.mem_of_getElem? (i := 4) rfl) rfl
      (@Respelled.member _ _ _ _ _ [] _ _ _ _ _ _ (List.mem_of_getElem? (i := 0) rfl) rfl
        (List.mem_of_getElem? (i := 0) rfl) rfl
        (@Respelled.member _ _ _ _ _ [] _ _ _ _ _ _ (List.mem_of_getElem? (i := 1) rfl) rfl
          (List.mem_of_getElem? (i := 0) rfl) rfl (@InTable.entry _ _ _ [] _ _ _ _ rfl h)))
  have hname := @hgateway _ _ [(.ok "type", .string "all"), (.ok "conditions", .array [])]
    [(.ok "datatype", .array [.string "double"])]
    (@Respelled.rename _ _ _ _ [] [(.ok "port", .nat 8080)] _ "max_body_bytes" "maxBodyBytes"
      (.nat 10) (List.mem_of_getElem? (i := 2) rfl) rfl rfl)
  have hport := @hgateway _ _ [(.ok "type", .string "all"), (.ok "conditions", .array [])]
    [(.ok "datatype", .array [.string "double"])]
    (@Respelled.leaveDefault _ _ _ _ _ [(.ok "maxBodyBytes", .nat 10)] [] _ "port" (.nat 8080) _
      (List.mem_of_getElem? (i := 1) rfl) rfl rfl rfl rfl rfl)
  have hlist := @hcondition [(.ok "maxBodyBytes", .nat 10)] _ _
    [(.ok "datatype", .array [.string "double"])]
    (@Condition.Respelled.leaveDefault _ _ _ [(.ok "type", .string "all")] [] .all
      ⟨_, .head _, rfl⟩ (.inl rfl))
  have hnote := @hcondition [(.ok "maxBodyBytes", .nat 10)] _ _
    [(.ok "datatype", .array [.string "double"])]
    (@Condition.Respelled.addUnknown _ _ _ [(.ok "type", .string "all")] [] .all "note" .null
      ⟨_, .head _, rfl⟩ (by decide) (by decide) rfl (by rintro _ ⟨⟩; decide))
  have hconstant : OfConstant DataType.names ⟨.json, 6⟩ (.string "double") (.string "number") :=
    .name (List.mem_of_getElem? (i := 2) rfl) (List.mem_of_getElem? (i := 4) rfl)
  have htype := @hrule [(.ok "maxBodyBytes", .nat 10)]
    [(.ok "type", .string "all"), (.ok "note", .null)] _ _
    (@Respelled.member _ _ _ _ _ [] [] _ (Present (InSequence (OfConstant DataType.names)))
      "datatype" (.array [.string "double"]) (.array [.string "number"])
      (List.mem_of_getElem? (i := 0) rfl) rfl (List.mem_of_getElem? (i := 0) rfl) rfl
      ⟨nofun, nofun, @InSequence.item _ _ _ [] [] _ _ rfl hconstant⟩)
  have hsteps := (((Relation.ReflTransGen.single hname).tail hport).tail hlist).tail hnote
  exact ⟨_, rfl, read_of_respelled (hsteps.tail htype) rfl⟩

end Config

end StageRelay
