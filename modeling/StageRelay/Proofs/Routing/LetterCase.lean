import Mathlib.Data.List.Induction
import StageRelay.Condition
import StageRelay.Proofs.CommandLine.RequestArguments
import StageRelay.Proofs.Schema.RecordParts
import StageRelay.Schema.Request

/-!
# Letter case of requests

A header is looked up under the lower-case form of a name. So the conditions on headers find a
header that is stored under a lower-case name, however they spell the name, and one that is stored
under another name they do not find.

A request that is built, and one that arrives over HTTP, has a method without lower-case letters
and names of headers without upper-case ones. One that is read from a document has the method and
the names that the document gives, in the case of letters that they have there.
-/

namespace StageRelay

namespace Ascii

variable {s t : String}

def NoUpper (s : String) : Prop := ∀ c ∈ s.toList, c.isUpper = false

def NoLower (s : String) : Prop := ∀ c ∈ s.toList, c.isLower = false

theorem noUpper_lower (s : String) : NoUpper (lower s) := by
  intro c hc
  rw [toList_lower] at hc
  obtain ⟨d, -, rfl⟩ := List.mem_map.mp hc
  exact isUpper_toLower d

theorem noLower_upper (s : String) : NoLower (upper s) := by
  intro c hc
  rw [toList_upper] at hc
  obtain ⟨d, -, rfl⟩ := List.mem_map.mp hc
  exact isLower_toUpper d

theorem NoUpper.lower_eq (h : NoUpper s) : lower s = s := by
  have hmap : s.toList.map Char.toLower = s.toList.map id :=
    List.map_congr_left fun c hc => toLower_of_not_isUpper (h c hc)
  rw [lower, hmap, List.map_id, String.ofList_toList]

end Ascii

namespace Request

open Ascii

variable {r : Request}

/-- The method is in upper case and the names of the headers are in lower case. Then a header is
found however a condition spells its name. -/
structure IsFolded (r : Request) : Prop where
  method : NoLower r.method
  names : ∀ k ∈ r.headers.keys, NoUpper k

/-! ## Requests that are built -/

/-- A request that is built step by step, as every part of the program builds the requests that it
does not read from a document. -/
inductive Built : Request → Prop where
  | make (method uri : String) : Built (make method uri)
  | withHeader {r : Request} (h : Built r) (name value : String) : Built (r.withHeader name value)
  | withPayload {r : Request} (h : Built r) (payload : ByteArray) : Built (r.withPayload payload)
  | withFile {r : Request} (h : Built r) (file : Upload) : Built (r.withFile file)

theorem noUpper_insert {headers : SortedMap String String}
    (h : ∀ k ∈ headers.keys, NoUpper k) (name value : String) :
    ∀ k ∈ (headers.insert (lower name) value).keys, NoUpper k := by
  intro k hk
  rcases SortedMap.mem_keys_insertEntry hk with rfl | hk
  · exact noUpper_lower name
  · exact h k hk

theorem Built.isFolded (h : Built r) : r.IsFolded := by
  induction h with
  | make method uri => exact ⟨noLower_upper method, fun k hk => absurd hk List.not_mem_nil⟩
  | withHeader _ name value ih => exact ⟨ih.method, noUpper_insert ih.names name value⟩
  | withPayload _ _ ih => exact ⟨ih.method, ih.names⟩
  | withFile _ _ ih => exact ⟨ih.method, ih.names⟩

/-! ## Requests that arrive over HTTP -/

theorem noUpper_headersOf (fields : List (String × ByteArray)) :
    ∀ k ∈ (Inbound.headersOf fields).keys, NoUpper k := by
  induction fields using List.reverseRecOn with
  | nil => exact fun k hk => absurd hk List.not_mem_nil
  | append_singleton fields f ih =>
      rw [Inbound.headersOf_concat, Inbound.addField]
      cases Http.visibleText? f.2 with
      | none => exact ih
      | some value => exact noUpper_insert ih f.1 _

theorem isFolded_toRequest (i : Inbound) : i.toRequest.IsFolded :=
  ⟨noLower_upper i.method, noUpper_headersOf i.fields⟩

/-! ## Requests that are read from documents -/

theorem unambiguous_fields : Record.Unambiguous schema.fields := by decide

/-- The method has a field of its own, which a document must give. -/
theorem exists_field_method : ∃ f ∈ schema.fields, f.name = "method" ∧ f.required = true ∧
    Record.SetsPart schema.fields f Reader.text Request.method := by
  refine ⟨_, List.mem_of_getElem? (i := 0) rfl, rfl, rfl, ⟨_, rfl, fun _ _ => rfl⟩, ?_⟩
  simp only [schema, List.forall_mem_cons]
  refine ⟨fun hne => absurd rfl hne, ?_, ?_, ?_, ?_, List.forall_mem_nil _⟩
  all_goals exact fun _ _ => Field.keeps_of_forall rfl fun _ _ h => h

/-- The headers have a field of their own. -/
theorem exists_field_headers : ∃ f ∈ schema.fields, f.name = "headers" ∧
    Record.SetsPart schema.fields f (Reader.table Reader.text) Request.headers := by
  refine ⟨_, List.mem_of_getElem? (i := 2) rfl, rfl, ⟨_, rfl, fun _ _ => rfl⟩, ?_⟩
  simp only [schema, List.forall_mem_cons]
  refine ⟨?_, ?_, fun hne => absurd rfl hne, ?_, ?_, List.forall_mem_nil _⟩
  all_goals exact fun _ _ => Field.keeps_of_forall rfl fun _ _ h => h

/-- A request that is read has the method that the document gives. -/
theorem method_of_read {p : Place} {doc : Json} (h : schema.read p doc = .ok r) (s : String) :
    schema.Gives "method" doc (.string s) ↔ s = r.method := by
  obtain ⟨f, hf, hname, hrequired, hpart⟩ := exists_field_method
  obtain ⟨q, hgiven, hnone⟩ := hpart.read unambiguous_fields hf h
  rw [hname] at hgiven hnone
  constructor
  · intro hs
    exact (Json.string.inj (Reader.text_eq_ok_iff.mp (hgiven _ hs)))
  · rintro rfl
    -- A document that gives no method is not read.
    obtain ⟨v, hv⟩ : ∃ v, schema.Gives "method" doc v := by
      by_contra hnot
      have hoptional := (hnone (not_exists.mp hnot)).1
      rw [hrequired] at hoptional
      cases hoptional
    rwa [Reader.text_eq_ok_iff.mp (hgiven v hv)] at hv

/-- A request that is read has headers of the names that the document gives. -/
theorem names_of_read {p : Place} {doc : Json} (h : schema.read p doc = .ok r) (k : String) :
    k ∈ r.headers.keys ↔ ∃ ms v, schema.Gives "headers" doc (.object ms) ∧ (.ok k, v) ∈ ms := by
  obtain ⟨f, hf, hname, hpart⟩ := exists_field_headers
  obtain ⟨q, hgiven, hnone⟩ := hpart.read unambiguous_fields hf h
  rw [hname] at hgiven hnone
  constructor
  · intro hk
    obtain ⟨v, hv⟩ : ∃ v, schema.Gives "headers" doc v := by
      by_contra hnot
      rw [(hnone (not_exists.mp hnot)).2] at hk
      exact List.not_mem_nil hk
    obtain ⟨ms, rfl, hkeys⟩ := Reader.exists_of_table_eq_ok (hgiven v hv)
    obtain ⟨w, hw⟩ := (hkeys k).mp hk
    exact ⟨ms, w, hv, hw⟩
  · rintro ⟨ms, v, hms, hv⟩
    obtain ⟨ms', heq, hkeys⟩ := Reader.exists_of_table_eq_ok (hgiven _ hms)
    obtain rfl := Json.object.inj heq
    exact (hkeys k).mpr ⟨v, hv⟩

/-- A document gives a method in upper case and names of headers in lower case. Members that are not
given do no harm. -/
structure FoldedIn (doc : Json) : Prop where
  method : ∀ s, schema.Gives "method" doc (.string s) → NoLower s
  names : ∀ ms k v, schema.Gives "headers" doc (.object ms) → (.ok k, v) ∈ ms → NoUpper k

theorem isFolded_iff_of_read {p : Place} {doc : Json} (h : schema.read p doc = .ok r) :
    r.IsFolded ↔ FoldedIn doc := by
  constructor
  · intro hr
    refine ⟨fun s hs => ?_, fun ms k v hms hv => ?_⟩
    · rw [(method_of_read h s).mp hs]
      exact hr.method
    · exact hr.names k ((names_of_read h k).mpr ⟨ms, v, hms, hv⟩)
  · intro hdoc
    refine ⟨hdoc.method _ ((method_of_read h _).mpr rfl), fun k hk => ?_⟩
    obtain ⟨ms, v, hms, hv⟩ := (names_of_read h k).mp hk
    exact hdoc.names ms k v hms hv

/-! ## Conditions on headers -/

/-- The conditions on headers find a value under every name that is the key up to the case of
letters. -/
def HoldsInAnyCase (r : Request) (k v : String) : Prop :=
  ∀ name, sameFold name k = true → (Condition.headerPresent name).holds r = true ∧
    (Condition.headerEquals name v).holds r = true

theorem holdsInAnyCase_iff {k v : String} :
    r.HoldsInAnyCase k v ↔ r.headers.get? (lower k) = some v := by
  constructor
  · intro h
    exact beq_iff_eq.mp (h k (sameFold_iff.mpr rfl)).2
  · intro h name hname
    have hheader : r.header name = some v := by
      rw [header, sameFold_iff.mp hname, h]
    exact ⟨Option.isSome_of_eq_some hheader, beq_iff_eq.mpr hheader⟩

theorem IsFolded.holdsInAnyCase (hr : r.IsFolded) {k v : String}
    (h : r.headers.get? k = some v) : r.HoldsInAnyCase k v := by
  have hk : k ∈ r.headers.keys :=
    List.mem_map.mpr ⟨(k, v), SortedMap.get?_eq_some_iff.mp h, rfl⟩
  rw [holdsInAnyCase_iff, (hr.names k hk).lower_eq]
  exact h

/-- Requests that are built or arrive over HTTP have their method in upper case and the names of
their headers in lower case; one that is read from a document has just when the document gives them
so. Of such requests every header holds under each spelling of its name. Of any other one a header
does so just when the same value is also stored under the lower-case name. -/
theorem headers_hold_by_origin (r : Request) :
    (r.Built → r.IsFolded) ∧ (∀ i : Inbound, r = i.toRequest → r.IsFolded) ∧
    (∀ p doc, schema.read p doc = .ok r → (r.IsFolded ↔ FoldedIn doc)) ∧
    (r.IsFolded → ∀ k v, r.headers.get? k = some v → r.HoldsInAnyCase k v) ∧
    ∀ k v, r.HoldsInAnyCase k v ↔ r.headers.get? (lower k) = some v := by
  refine ⟨Built.isFolded, ?_, fun p doc h => isFolded_iff_of_read h,
    fun hr k v h => hr.holdsInAnyCase h, fun k v => holdsInAnyCase_iff⟩
  rintro i rfl
  exact isFolded_toRequest i

/-- A request that can be built, can arrive and can be read. A header of it that was added under a
name in mixed case is found under another one. -/
theorem headers_hold_by_origin_of_each :
    let r := (make "post" "/").withHeader "Content-Type" "a/b"
    let i : Inbound := ⟨"POST", .path "/", [("content-type", "a/b".toUTF8)], .empty⟩
    let doc := Json.array [.string "POST", .string "/",
      .object [(.ok "content-type", .string "a/b")]]
    r = i.toRequest ∧ schema.read (.top .json) doc = .ok r ∧ FoldedIn doc ∧
      r.HoldsInAnyCase "CONTENT-type" "a/b" ∧ r.HoldsInAnyCase "content-type" "a/b" := by
  intro r i doc
  have horigin := headers_hold_by_origin r
  have harrives : r = i.toRequest := by decide +kernel
  have hbuilt : r.IsFolded := horigin.1 (.withHeader (.make "post" "/") "Content-Type" "a/b")
  have hholds : r.HoldsInAnyCase "content-type" "a/b" :=
    horigin.2.2.2.1 (horigin.2.1 i harrives) "content-type" "a/b" (by decide)
  exact ⟨harrives, rfl, (horigin.2.2.1 (.top .json) doc rfl).mp hbuilt,
    (horigin.2.2.2.2 "CONTENT-type" "a/b").mpr (by decide), hholds⟩

/-- A header that a document gives under a name in mixed case is not found, even under this name. -/
theorem exists_read_not_holdsInAnyCase : ∃ r,
    schema.read (.top .json) (.object [(.ok "method", .string "get"), (.ok "uri", .string "/"),
      (.ok "headers", .object [(.ok "X-A", .string "1")])]) = .ok r ∧
    ¬ r.IsFolded ∧ r.headers.get? "X-A" = some "1" ∧
    (Condition.headerPresent "X-A").holds r = false := by
  refine ⟨⟨"get", "/", .ofList [("X-A", "1")], .empty, []⟩, rfl, fun h => ?_, by decide, by decide⟩
  exact absurd (h.method 'g' (by decide)) (by decide)

end Request

end StageRelay
