import StageRelay.Config.Source
import StageRelay.Proofs.Gateway.Dispatch
import StageRelay.Proofs.Json.Documents
import StageRelay.Proofs.Schema.RoundTrip

/-!
# Origins that a gateway can start with

Neither the reader nor the check of a configuration looks at the origins, so every list of texts can
be the origins of a configuration without errors. The gateway leaves out those that no header can
hold, and it cannot start when the asterisk is one of the rest. The asterisk is a value that a
header can hold. So the gateway starts just when the asterisk is not listed.
-/

namespace StageRelay

/-! ## Listed origins -/

namespace Cors

variable {origins : List String} {cors : Cors}

/-- A header can hold the asterisk. -/
theorem isFieldValue_anything : Http.isFieldValue anything.toUTF8 = true := by decide +kernel

theorem ofOrigins?_of_ne_nil (h : origins ≠ []) : ofOrigins? origins =
    if anything ∈ origins then none
    else some (.listed (origins.filter fun o => Http.isFieldValue o.toUTF8)) := by
  have husable : (origins.filter fun o => Http.isFieldValue o.toUTF8).contains anything = true ↔
      anything ∈ origins := by
    rw [List.contains_iff_mem, List.mem_filter]
    exact and_iff_left isFieldValue_anything
  rw [ofOrigins?, List.isEmpty_eq_false_iff.mpr h, if_neg Bool.false_ne_true]
  exact if_congr husable rfl rfl

theorem isSome_ofOrigins?_iff : (ofOrigins? origins).isSome = true ↔ anything ∉ origins := by
  by_cases h : origins = []
  · rw [h]
    exact iff_of_true rfl List.not_mem_nil
  · rw [ofOrigins?_of_ne_nil h]
    by_cases hmem : anything ∈ origins
    · rw [if_pos hmem]
      exact iff_of_false Bool.false_ne_true (not_not_intro hmem)
    · rw [if_neg hmem]
      exact iff_of_true rfl hmem

/-- What is named in the response to a request: the asterisk if nothing is listed, and else the
origin that the request comes from, if it is listed and a header can hold it. -/
theorem allowed?_eq_some_iff (h : ofOrigins? origins = some cors) {origin : Option ByteArray}
    {named : String} : cors.allowed? origin = some named ↔
      origins = [] ∧ named = anything ∨
        named ∈ origins ∧ Http.isFieldValue named.toUTF8 = true ∧ origin = some named.toUTF8 := by
  by_cases hnil : origins = []
  · subst hnil
    obtain rfl : Cors.anyOrigin = cors := Option.some.inj h
    have hlisted : ∀ P : Prop, ¬ (named ∈ ([] : List String) ∧ P) := fun P h =>
      List.not_mem_nil h.1
    rw [allowed?, Option.some_inj, eq_comm, or_iff_left (hlisted _), and_iff_right rfl]
  · rw [ofOrigins?_of_ne_nil hnil] at h
    split at h
    next => cases h
    next =>
      cases h
      rw [allowed?]
      constructor
      · intro hfind
        have hmem := List.mem_filter.mp (List.mem_of_find?_eq_some hfind)
        have hsame := List.find?_some hfind
        exact .inr ⟨hmem.1, hmem.2, beq_some_bytes_iff.mp hsame⟩
      · rintro (⟨hnone, -⟩ | ⟨hmem, hvalue, rfl⟩)
        · exact absurd hnone hnil
        · have husable : named ∈ origins.filter fun o => Http.isFieldValue o.toUTF8 :=
            List.mem_filter.mpr ⟨hmem, hvalue⟩
          have hself : (some named.toUTF8 == some named.toUTF8) = true :=
            beq_some_bytes_iff.mpr rfl
          obtain ⟨o, hfind⟩ := Option.isSome_iff_exists.mp
            ((List.find?_isSome (p := fun o => some named.toUTF8 == some o.toUTF8)).mpr
              ⟨named, husable, hself⟩)
          -- Whichever is found has the same bytes, so it is the same text.
          have hsame := List.find?_some hfind
          have hbytes := Option.some.inj (beq_some_bytes_iff.mp hsame)
          rw [hfind, String.toByteArray_inj.mp hbytes]

end Cors

/-! ## Configurations with any origins -/

namespace Config

/-- The text of a configuration that lists origins and nothing else. -/
def originsText (origins : List String) : String :=
  let items := origins.map fun o => String.ofList (Json.literal o)
  Json.objectText [⟨String.ofList (Json.literal "gateway"),
    Json.objectText [⟨String.ofList (Json.literal "cors_origins"), Json.arrayText items⟩]⟩]

def withOrigins (origins : List String) : Config :=
  let c : Config := default
  { c with gateway := { c.gateway with corsOrigins := origins } }

theorem isError_of_mem_issues_withOrigins (origins : List String) :
    ∀ issue ∈ (withOrigins origins).issues, issue.isError = false :=
  List.forall_mem_singleton.mpr rfl

theorem parse_originsText (source : String) (origins : List String) :
    parse .json source (originsText origins) = .ok (withOrigins origins) := by
  let items := Json.array (origins.map .string)
  let gateway := Json.record [("cors_origins", items)]
  have hitems : Json.parse? (Json.arrayText (origins.map fun o => String.ofList (Json.literal o))) =
      some items := by
    apply Json.parse?_arrayText
    rw [List.forall₂_map_left_iff, List.forall₂_map_right_iff]
    exact List.forall₂_same.mpr fun o _ => Json.parse?_of_isLiteralOf (Json.isLiteralOf_literal o)
  have htext : Json.parse? (originsText origins) = some (Json.record [("gateway", gateway)]) := by
    refine Json.parse?_objectText (.cons ⟨Json.isLiteralOf_literal _, ?_⟩ .nil)
    exact Json.parse?_objectText (.cons ⟨Json.isLiteralOf_literal _, hitems⟩ .nil)
  have horigins : (Reader.sequence Reader.text).Reads items origins :=
    Reader.reads_list origins fun o _ => Reader.reads_text o
  have hgateway : GatewaySettings.schema.read.Reads gateway (withOrigins origins).gateway :=
    Record.reads_of_fills (r := GatewaySettings.schema) (by decide)
      (.leave rfl (.leave rfl (.leave rfl (.give (horigins.map _) .nil))))
  have hread : schema.read.Reads (Json.record [("gateway", gateway)]) (withOrigins origins) :=
    Record.reads_of_fills (r := schema) (by decide)
      (.give (hgateway.map _) (.leave rfl (.leave rfl (.leave rfl (.leave rfl .nil)))))
  have hdepth : items.depth < 2 := by
    refine Nat.succ_lt_succ ((Json.depthOfItems_lt_iff Nat.zero_lt_one).mpr ?_)
    exact List.forall_mem_map.mpr fun o _ => Nat.zero_lt_one
  have hroom : (Place.top .json).HasRoom (Json.record [("gateway", gateway)]).depth := by
    rintro limit ⟨⟩
    show 0 + (max (max items.depth 0 + 1) 0 + 1) < 128
    omega
  have hdocument : DocumentFormat.read .json schema.read (originsText origins) =
      .ok (withOrigins origins) := by
    rw [DocumentFormat.read, htext]
    exact hread _ hroom
  rw [parse, hdocument]

end Config

/-! ## Starting -/

namespace Gateway

variable {temporary : String} {c : Config}

theorem isSome_ofConfig?_iff :
    (ofConfig? temporary c).isSome = true ↔ Cors.anything ∉ c.gateway.corsOrigins := by
  rw [← Cors.isSome_ofOrigins?_iff, Option.isSome_iff_exists, Option.isSome_iff_exists]
  constructor
  · rintro ⟨g, hg⟩
    obtain ⟨cors, hcors, -⟩ := ofConfig?_eq_some_iff.mp hg
    exact ⟨cors, hcors⟩
  · rintro ⟨cors, hcors⟩
    exact ⟨_, ofConfig?_eq_some_iff.mpr ⟨cors, hcors, rfl⟩⟩

/-- Every list of origins is that of a configuration that is accepted and has no errors. A gateway
starts with it just when the asterisk is not listed. It then names every origin, if the list is
empty, or else the listed ones that a header can hold. -/
theorem starts_unless_asterisk (source temporary : String) (origins : List String) :
    (∃ text c, Config.parse .json source text = .ok c ∧
      (∀ issue ∈ c.issues, issue.isError = false) ∧ c.gateway.corsOrigins = origins) ∧
    ∀ c : Config, c.gateway.corsOrigins = origins →
      ((ofConfig? temporary c).isSome = true ↔ Cors.anything ∉ origins) ∧
      ∀ g, ofConfig? temporary c = some g → ∀ origin named,
        g.cors.allowed? origin = some named ↔
          origins = [] ∧ named = Cors.anything ∨ named ∈ origins ∧
            Http.isFieldValue named.toUTF8 = true ∧ origin = some named.toUTF8 := by
  refine ⟨⟨_, _, Config.parse_originsText source origins,
    Config.isError_of_mem_issues_withOrigins origins, rfl⟩, ?_⟩
  rintro c rfl
  refine ⟨isSome_ofConfig?_iff, fun g hg origin named => ?_⟩
  obtain ⟨cors, hcors, rfl⟩ := ofConfig?_eq_some_iff.mp hg
  exact Cors.allowed?_eq_some_iff hcors

/-- One of two origins is left out, the other one is named. -/
theorem starts_unless_asterisk_of_two : ∃ g,
    ofConfig? "/tmp" (.withOrigins ["http://a", "a\nb"]) = some g ∧
    g.cors.allowed? (some "http://a".toUTF8) = some "http://a" ∧
    g.cors.allowed? (some "a\nb".toUTF8) = none := by
  obtain ⟨hstarts, hnamed⟩ :=
    (starts_unless_asterisk "inline" "/tmp" ["http://a", "a\nb"]).2 (.withOrigins _) rfl
  obtain ⟨g, hg⟩ := Option.isSome_iff_exists.mp (hstarts.mpr (by decide))
  refine ⟨g, hg, (hnamed g hg _ _).mpr (.inr ⟨List.mem_cons_self, by decide +kernel, rfl⟩), ?_⟩
  rw [Option.eq_none_iff_forall_ne_some]
  intro named h
  rcases (hnamed g hg _ named).mp h with ⟨hnil, -⟩ | ⟨-, hvalue, hsame⟩
  · exact absurd hnil (List.cons_ne_nil _ _)
  · rw [← Option.some.inj hsame] at hvalue
    exact absurd hvalue (by decide +kernel)

/-- A configuration without errors that lists the asterisk does not start. -/
theorem not_starts_of_asterisk : ∃ c,
    Config.parse .json "inline" "\x7b\"gateway\":\x7b\"cors_origins\":[\"*\"]\x7d\x7d" = .ok c ∧
    c.gateway.corsOrigins = ["*"] ∧ (∀ issue ∈ c.issues, issue.isError = false) ∧
    ofConfig? "/tmp" c = none := by
  refine ⟨.withOrigins ["*"], Config.parse_originsText "inline" ["*"], rfl,
    Config.isError_of_mem_issues_withOrigins ["*"], ?_⟩
  rw [← Option.not_isSome_iff_eq_none, isSome_ofConfig?_iff]
  exact not_not_intro List.mem_cons_self

end Gateway

end StageRelay
