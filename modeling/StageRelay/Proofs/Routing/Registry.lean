import StageRelay.Proofs.Routing.Selection

/-!
# Registered extensions

A registry that is made from a list of entries finds the last entry for a name, under that
name. The extensions of a configuration are listed by their keys, each once, so its registry
finds exactly what the configuration has under the key. Hence a stage that is queued is the
extension of its name, whatever name the entry itself may carry.
-/

namespace StageRelay

namespace Registry

variable {g : Registry} {name other : String}

@[simp] theorem get?_insertAs_self (g : Registry) (name : String) (e : Extension) :
    (g.insertAs name e).get? name = some { e with name := name } :=
  SortedMap.get?_insert_self _ _ _

theorem get?_insertAs_of_ne (e : Extension) (h : other ≠ name) :
    (g.insertAs name e).get? other = g.get? other :=
  SortedMap.get?_insert_of_ne _ _ h

private theorem get?_foldl_insertAs (entries : List (String × Extension)) (g : Registry)
    (name : String) :
    (entries.foldl (fun g e => g.insertAs e.1 e.2) g).get? name =
      ((SortedMap.find? name entries.reverse).map fun e => { e with name := name }).or
        (g.get? name) := by
  -- the registry grows while the entries are gone through, and older ones count last
  induction entries generalizing g with
  | nil => rfl
  | cons entry entries ih =>
      obtain ⟨key, e⟩ := entry
      rw [List.foldl_cons, ih, List.reverse_cons, SortedMap.find?_append]
      by_cases hkey : key = name
      · subst hkey
        cases SortedMap.find? key entries.reverse <;> simp [SortedMap.find?]
      · rw [get?_insertAs_of_ne e (Ne.symm hkey)]
        simp [SortedMap.find?, hkey]

/-- Of several entries for a name the last one is registered. -/
theorem get?_ofEntries (entries : List (String × Extension)) (name : String) :
    (ofEntries entries).get? name =
      (SortedMap.find? name entries.reverse).map fun e => { e with name := name } := by
  rw [ofEntries, get?_foldl_insertAs]
  exact Option.or_none

end Registry

namespace Config

variable {c : Config} {name : String} {evaluate : Evaluator} {request : Request}

/-- The registry of a configuration has each extension under its key and with the key as its
name. -/
theorem get?_registry (c : Config) (name : String) :
    c.registry.get? name = (c.extensions.get? name).map fun e => { e with name := name } := by
  rw [registry, Registry.get?_ofEntries, SortedMap.toList,
    SortedMap.find?_reverse name c.extensions.ascending]
  rfl

theorem get?_registry_eq_none_iff :
    c.registry.get? name = none ↔ c.extensions.get? name = none := by
  rw [get?_registry, Option.map_eq_none_iff]

/-- A stage of a plan is the extension that the configuration has under the name of the
stage. -/
theorem exists_extension_of_mem_queue {plan : Plan} {stage : Stage}
    (h : ((Pipeline.ofConfig c).plan evaluate request).answer = .ok plan)
    (hs : stage ∈ plan.queue) :
    ∃ e, c.extensions.get? stage.name = some e ∧ stage.service = e.service ∧
      stage.routing = e.routing := by
  obtain ⟨-, r, -, -, -, -, -, hq⟩ := Pipeline.exists_of_plan_eq_ok h
  obtain ⟨s, -, e', he', rfl⟩ := Stage.exists_of_mem_queue? hq hs
  obtain ⟨e, he, rfl⟩ := Option.map_eq_some_iff.mp ((get?_registry c s.name).symm.trans he')
  exact ⟨e, he, rfl, rfl⟩

end Config

end StageRelay
