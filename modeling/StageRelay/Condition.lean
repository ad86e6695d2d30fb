import StageRelay.Request

/-!
# Conditions on requests

A `Condition` is a predicate on requests, built from tests of single parts of a
request by conjunction, disjunction and negation. `Condition.holds` is its
meaning. `isUnconditional` and `isUnsatisfiable` judge from the structure alone
that a condition holds for every request, or for none.
-/

namespace StageRelay

inductive Condition where
  | always
  | never
  /-- The method is one of those named, in any case of letters. -/
  | method (names : List String)
  /-- The path starts with a text. -/
  | pathStart (head : String)
  /-- The path is a text. -/
  | pathEquals (path : String)
  /-- There is a header of that name. -/
  | headerPresent (name : String)
  /-- The header of that name has that value. -/
  | headerEquals (name value : String)
  | hasPayload
  | hasFiles
  /-- Every one of the conditions holds. -/
  | all (conditions : List Condition)
  /-- At least one of the conditions holds. -/
  | any (conditions : List Condition)
  | not (condition : Condition)

instance : Inhabited Condition := ⟨.always⟩

namespace Condition

mutual

/-- Whether the condition holds for a request. -/
def holds (r : Request) : Condition → Bool
  | .always => true
  | .never => false
  | .method names => names.any (Ascii.sameFold r.method)
  | .pathStart head => Text.startsWith r.path head
  | .pathEquals path => r.path == path
  | .headerPresent name => (r.header name).isSome
  | .headerEquals name value => r.header name == some value
  | .hasPayload => r.hasPayload
  | .hasFiles => r.hasFiles
  | .all cs => allHold r cs
  | .any cs => anyHolds r cs
  | .not c => !c.holds r

def allHold (r : Request) : List Condition → Bool
  | [] => true
  | c :: cs => c.holds r && allHold r cs

def anyHolds (r : Request) : List Condition → Bool
  | [] => false
  | c :: cs => c.holds r || anyHolds r cs

end

mutual

/-- Whether the structure alone shows that the condition holds for every request. It is
decided together with `isUnsatisfiable`, since a negation turns one into the other. -/
def isUnconditional : Condition → Bool
  | .always => true
  | .all cs => allUnconditional cs
  | .any cs => anyUnconditional cs
  | .not c => c.isUnsatisfiable
  | _ => false

/-- Whether the structure alone shows that the condition holds for no request. A
condition that never holds for other reasons is not found. -/
def isUnsatisfiable : Condition → Bool
  | .never => true
  | .all cs => anyUnsatisfiable cs
  | .any cs => allUnsatisfiable cs
  | .not c => c.isUnconditional
  | _ => false

def allUnconditional : List Condition → Bool
  | [] => true
  | c :: cs => c.isUnconditional && allUnconditional cs

def anyUnconditional : List Condition → Bool
  | [] => false
  | c :: cs => c.isUnconditional || anyUnconditional cs

def allUnsatisfiable : List Condition → Bool
  | [] => true
  | c :: cs => c.isUnsatisfiable && allUnsatisfiable cs

def anyUnsatisfiable : List Condition → Bool
  | [] => false
  | c :: cs => c.isUnsatisfiable || anyUnsatisfiable cs

end

variable (r : Request) (cs : List Condition)

theorem allHold_eq_all : allHold r cs = cs.all (·.holds r) := by
  induction cs with
  | nil => rfl
  | cons c cs ih => rw [allHold, ih, List.all_cons]

theorem anyHolds_eq_any : anyHolds r cs = cs.any (·.holds r) := by
  induction cs with
  | nil => rfl
  | cons c cs ih => rw [anyHolds, ih, List.any_cons]

theorem allUnconditional_eq_all : allUnconditional cs = cs.all isUnconditional := by
  induction cs with
  | nil => rfl
  | cons c cs ih => rw [allUnconditional, ih, List.all_cons]

theorem anyUnconditional_eq_any : anyUnconditional cs = cs.any isUnconditional := by
  induction cs with
  | nil => rfl
  | cons c cs ih => rw [anyUnconditional, ih, List.any_cons]

theorem allUnsatisfiable_eq_all : allUnsatisfiable cs = cs.all isUnsatisfiable := by
  induction cs with
  | nil => rfl
  | cons c cs ih => rw [allUnsatisfiable, ih, List.all_cons]

theorem anyUnsatisfiable_eq_any : anyUnsatisfiable cs = cs.any isUnsatisfiable := by
  induction cs with
  | nil => rfl
  | cons c cs ih => rw [anyUnsatisfiable, ih, List.any_cons]

variable (c : Condition)

@[simp] theorem holds_always : always.holds r = true := rfl

@[simp] theorem holds_never : never.holds r = false := rfl

@[simp] theorem holds_all : (all cs).holds r = cs.all (·.holds r) := allHold_eq_all r cs

@[simp] theorem holds_any : (any cs).holds r = cs.any (·.holds r) := anyHolds_eq_any r cs

@[simp] theorem holds_not : (not c).holds r = !c.holds r := rfl

@[simp] theorem isUnconditional_all : (all cs).isUnconditional = cs.all isUnconditional :=
  allUnconditional_eq_all cs

@[simp] theorem isUnconditional_any : (any cs).isUnconditional = cs.any isUnconditional :=
  anyUnconditional_eq_any cs

@[simp] theorem isUnconditional_not : (not c).isUnconditional = c.isUnsatisfiable := rfl

@[simp] theorem isUnsatisfiable_all : (all cs).isUnsatisfiable = cs.any isUnsatisfiable :=
  anyUnsatisfiable_eq_any cs

@[simp] theorem isUnsatisfiable_any : (any cs).isUnsatisfiable = cs.all isUnsatisfiable :=
  allUnsatisfiable_eq_all cs

@[simp] theorem isUnsatisfiable_not : (not c).isUnsatisfiable = c.isUnconditional := rfl

/-- Induction on conditions in which those nested in `all` and `any` are met one by
one. -/
@[elab_as_elim]
theorem induction {motive : Condition → Prop} (always : motive .always) (never : motive .never)
    (method : ∀ names, motive (.method names)) (pathStart : ∀ head, motive (.pathStart head))
    (pathEquals : ∀ path, motive (.pathEquals path))
    (headerPresent : ∀ name, motive (.headerPresent name))
    (headerEquals : ∀ name value, motive (.headerEquals name value))
    (hasPayload : motive .hasPayload) (hasFiles : motive .hasFiles)
    (all : ∀ cs, (∀ c ∈ cs, motive c) → motive (.all cs))
    (any : ∀ cs, (∀ c ∈ cs, motive c) → motive (.any cs))
    (not : ∀ c, motive c → motive (.not c)) (c : Condition) : motive c :=
  @Condition.rec motive (fun cs => ∀ c ∈ cs, motive c) always never method pathStart pathEquals
    headerPresent headerEquals hasPayload hasFiles all any not (List.forall_mem_nil _)
    (fun _ _ hc hcs => List.forall_mem_cons.mpr ⟨hc, hcs⟩) c

end Condition

/-- A way to decide conditions. Selection and the building of queues ask nothing else
about a condition, so that another evaluator may stand in for the standard one. -/
abbrev Evaluator := Condition → Request → Bool

namespace Evaluator

/-- Decides a condition by its meaning. -/
def standard : Evaluator := fun c r => c.holds r

end Evaluator

end StageRelay
