import Mathlib.Data.List.Induction
import StageRelay.Proofs.Routing.Queues
import StageRelay.Proofs.Routing.Registry
import StageRelay.Proofs.Schema.RoundTrip

/-!
# How a registry came about

A registry is made in steps: a set of named extensions takes the place of all there was, or one more
extension is registered under its own name. In the first way each extension gets the name that it is
listed under, in the second it has it. So whatever the steps were, an extension is found under its
own name only, and it is the latest one that was given for this name since all was replaced.

A route refers to extensions by the names they are found under, so a stage that is planned has the
name that its route refers to. The names that the extensions of a configuration may carry themselves
count for nothing.
-/

namespace StageRelay

namespace Registry

/-- A step in the making of a registry. -/
inductive Step where
  /-- Named extensions take the place of all there was. -/
  | replace (entries : List (String × Extension))
  /-- One more extension is registered under its own name. -/
  | insert (e : Extension)

def step (g : Registry) : Step → Registry
  | .replace entries => ofEntries entries
  | .insert e => g.insert e

def built (steps : List Step) : Registry := steps.foldl step empty

/-- What counts after one more step, given what counted before it. -/
def listedAfter (listed : List (String × Extension)) : Step → List (String × Extension)
  | .replace entries => entries.map fun e => (e.1, { e.2 with name := e.1 })
  | .insert e => listed ++ [(e.name, e)]

/-- The extensions that count after some steps, in the order in which they were given: those of the
latest replacement, each with the name it is listed under, and those that were inserted since. Of
several with one name the last one counts. -/
def listed (steps : List Step) : List (String × Extension) := steps.foldl listedAfter []

variable {steps : List Step} {given : List (String × Extension)} {name : String} {e : Extension}

/-! ## One step -/

/-- Extensions that are given in a step are listed under their own names. -/
theorem name_of_mem_listedAfter (hgiven : ∀ entry ∈ given, entry.2.name = entry.1) (s : Step) :
    ∀ entry ∈ listedAfter given s, entry.2.name = entry.1 := by
  intro entry hentry
  cases s with
  | replace entries =>
      obtain ⟨other, -, rfl⟩ := List.mem_map.mp hentry
      rfl
  | insert e =>
      rcases List.mem_append.mp hentry with hentry | hentry
      · exact hgiven entry hentry
      · rw [List.mem_singleton.mp hentry]

/-- What counts after a step makes the registry after it. -/
theorem step_ofEntries (given : List (String × Extension)) (s : Step) :
    (ofEntries given).step s = ofEntries (listedAfter given s) := by
  cases s with
  | replace entries =>
      show ofEntries entries = ofEntries (entries.map fun e => (e.1, { e.2 with name := e.1 }))
      rw [ofEntries, ofEntries, List.foldl_map]
      rfl
  | insert e =>
      show (ofEntries given).insert e = ofEntries (given ++ [(e.name, e)])
      rw [ofEntries, ofEntries, List.foldl_append]
      rfl

/-! ## All steps -/

theorem name_of_mem_listed (steps : List Step) :
    ∀ entry ∈ listed steps, entry.2.name = entry.1 := by
  induction steps using List.reverseRecOn with
  | nil => exact List.forall_mem_nil _
  | append_singleton steps s ih =>
      rw [listed, List.foldl_append]
      exact name_of_mem_listedAfter ih s

theorem built_eq (steps : List Step) : built steps = ofEntries (listed steps) := by
  induction steps using List.reverseRecOn with
  | nil => rfl
  | append_singleton steps s ih =>
      rw [built, listed, List.foldl_append, List.foldl_append, ← built, ← listed, ih]
      exact step_ofEntries (listed steps) s

/-- An extension is found as it is listed. -/
theorem get?_built (steps : List Step) (name : String) :
    (built steps).get? name = SortedMap.find? name (listed steps).reverse := by
  rw [built_eq, get?_ofEntries]
  cases hfound : SortedMap.find? name (listed steps).reverse with
  | none => rfl
  | some found =>
      have hname : found.name = name :=
        name_of_mem_listed steps _ (List.mem_reverse.mp (SortedMap.mem_of_find?_eq_some hfound))
      rw [Option.map_some, ← hname]

/-- The latest extension that was given for a name is found under it, be it by a replacement or by
an insertion. -/
theorem get?_built_eq_some_iff :
    (built steps).get? name = some e ↔
      ∃ earlier later, listed steps = earlier ++ (name, e) :: later ∧
        ∀ entry ∈ later, entry.1 ≠ name := by
  rw [get?_built, SortedMap.find?_reverse_eq_some_iff]
  simp only [List.mem_map, not_exists, not_and, ne_eq]

theorem get?_built_eq_none_iff :
    (built steps).get? name = none ↔ ∀ entry ∈ listed steps, entry.1 ≠ name := by
  rw [get?_built, SortedMap.find?_eq_none_iff, List.map_reverse, List.mem_reverse]
  simp only [List.mem_map, not_exists, not_and, ne_eq]

/-- An extension is found under its own name. -/
theorem name_of_get?_built (h : (built steps).get? name = some e) : e.name = name := by
  obtain ⟨earlier, later, hlisted, -⟩ := get?_built_eq_some_iff.mp h
  exact name_of_mem_listed steps (name, e) (hlisted ▸ List.mem_append_right _ List.mem_cons_self)

theorem mem_names_iff (g : Registry) : name ∈ g.names ↔ ∃ e, g.get? name = some e := by
  rw [← Option.isSome_iff_exists, Option.isSome_iff_ne_none, get?, ne_eq,
    SortedMap.get?_eq_none_iff, not_not]
  rfl

end Registry

/-! ## Stages and their names -/

namespace StageRef

def isQueued (evaluate : Evaluator) (registry : Registry) (request : Request) (s : StageRef) :
    Bool :=
  s.isActive registry && evaluate s.condition request

structure Names (registry : Registry) (s : StageRef) (stage : Stage) : Prop where
  name : stage.name = s.name
  found : ∃ e, registry.get? s.name = some e ∧ e.stage = stage

variable {evaluate : Evaluator} {registry : Registry} {request : Request} {s : StageRef}

theorem stage?_of_not_isQueued (h : s.isQueued evaluate registry request = false) :
    s.stage? evaluate registry request = none := by
  rw [isQueued, isActive] at h
  rw [stage?]
  cases hs : registry.get? s.name with
  | none => rfl
  | some e =>
      rw [hs, Option.any_some] at h
      rw [Option.bind_some, h]
      rfl

theorem exists_stage?_of_isQueued (h : s.isQueued evaluate registry request = true) :
    ∃ e, registry.get? s.name = some e ∧ s.stage? evaluate registry request = some e.stage := by
  rw [isQueued, isActive] at h
  rw [stage?]
  cases hs : registry.get? s.name with
  | none =>
      rw [hs] at h
      cases h
  | some e =>
      rw [hs, Option.any_some] at h
      exact ⟨e, rfl, if_pos h⟩

end StageRef

/-- Where extensions are found under their own names, the stages of a queue are those that the
queued references name, one for each and in their order. -/
theorem Stage.forall₂_names {registry : Registry}
    (hnamed : ∀ name e, registry.get? name = some e → e.name = name) (evaluate : Evaluator)
    (request : Request) (stages : List StageRef) :
    List.Forall₂ (StageRef.Names registry)
      (stages.filter (StageRef.isQueued evaluate registry request))
      (stages.filterMap (StageRef.stage? evaluate registry request)) := by
  induction stages with
  | nil => exact .nil
  | cons s stages ih =>
      cases hqueued : s.isQueued evaluate registry request with
      | false =>
          rw [List.filter_cons, hqueued,
            List.filterMap_cons_none (StageRef.stage?_of_not_isQueued hqueued)]
          exact ih
      | true =>
          obtain ⟨e, he, hstage⟩ := StageRef.exists_stage?_of_isQueued hqueued
          rw [List.filter_cons, hqueued, List.filterMap_cons_some hstage]
          exact .cons ⟨hnamed s.name e he, e, he, rfl⟩ ih

namespace Registry

/-- Whatever steps a registry was made in, an extension is found under its own name only, and it is
the latest one listed for this name: of those that the latest replacement lists, with the names it
lists them under, and those that were inserted since. There are as many extensions as names under
which one is found. So the stages of a plan are the extensions that the queued references of its
route name, and have these names, and the names that the extensions of a configuration carry
themselves change neither its registry nor its plans. -/
theorem built_finds_latest (steps : List Step) :
    let g := built steps
    (∀ name e, g.get? name = some e → e.name = name) ∧
    (∀ name e, g.get? name = some e ↔
      ∃ earlier later, listed steps = earlier ++ (name, e) :: later ∧
        ∀ entry ∈ later, entry.1 ≠ name) ∧
    (∀ name, g.get? name = none ↔ ∀ entry ∈ listed steps, entry.1 ≠ name) ∧
    (∃ names : List String, names.Nodup ∧ (∀ name, name ∈ names ↔ ∃ e, g.get? name = some e) ∧
      g.size = names.length) ∧
    (∀ routes settings evaluate request plan,
      ((Pipeline.mk routes g settings).plan evaluate request).answer = .ok plan →
      ∃ r, routes[plan.routeIndex]? = some r ∧
        List.Forall₂ (StageRef.Names g) (r.stages.filter (StageRef.isQueued evaluate g request))
          plan.queue) ∧
    (∀ c : Config, c.registry = built [.replace c.extensions.toList]) ∧
    ∀ c c' : Config, c.nameless = c'.nameless →
      c.registry = c'.registry ∧
        ∀ evaluate request, (Pipeline.ofConfig c).plan evaluate request =
          (Pipeline.ofConfig c').plan evaluate request := by
  intro g
  have hnamed : ∀ name e, g.get? name = some e → e.name = name := fun _ _ => name_of_get?_built
  refine ⟨hnamed, fun _ _ => get?_built_eq_some_iff, fun _ => get?_built_eq_none_iff,
    ⟨g.names, g.byName.nodup_keys, fun _ => mem_names_iff g, (List.length_map _).symm⟩, ?_,
    fun _ => rfl, ?_⟩
  · intro routes settings evaluate request plan hplan
    obtain ⟨before, r, after, rfl, -, -, hindex, hqueue⟩ := Pipeline.exists_of_plan_eq_ok hplan
    refine ⟨r, getElem?_eq_some_iff_append.mpr ⟨before, after, rfl, hindex.symm⟩, ?_⟩
    rw [Stage.queue?] at hqueue
    split at hqueue
    · cases hqueue
    · rw [← Except.ok.inj hqueue]
      exact Stage.forall₂_names hnamed evaluate request r.stages
  · intro c c' h
    have hpipeline : Pipeline.ofConfig c = Pipeline.ofConfig c' := by
      rw [← c.ofConfig_nameless, h, c'.ofConfig_nameless]
    refine ⟨?_, fun evaluate request => by rw [hpipeline]⟩
    rw [← c.registry_nameless, h, c'.registry_nameless]

end Registry

end StageRelay
