import StageRelay.Proofs.Schema.Records
import StageRelay.Schema.Condition

/-!
# The two passes over a condition

The first pass over a condition finds the tag and checks everything else. What passes the check is
faultless and not nested too deeply, and whatever is so passes it. The second pass reads the fields
of the tag.

The loops over members are of one kind: each takes the value of the member with a name, once, and
passes over the others.
-/

namespace StageRelay

/-! ## Checked values -/

namespace Json

mutual

/-- A faultless value that is not nested too deeply passes the check. -/
theorem check_of_faultless {v : Json} {p : Place} (hv : v.faultless = true)
    (hp : p.HasRoom v.depth) : v.check p = .ok () := by
  cases v with
  | faulty f => cases hv
  | array vs =>
      obtain ⟨q, hq, hroom⟩ := Place.HasRoom.enter hp
      rw [check, hq]
      exact checkItems_of_faultless hv hroom
  | object ms =>
      obtain ⟨q, hq, hroom⟩ := Place.HasRoom.enter hp
      rw [check, hq]
      exact checkMembers_of_faultless hv hroom
  | null => simp only [check]
  | bool b => simp only [check]
  | number n => simp only [check]
  | string s => simp only [check]

theorem checkItems_of_faultless {vs : List Json} {p : Place} (hvs : faultlessItems vs = true)
    (hp : p.HasRoom (depthOfItems vs)) : checkItems p vs = .ok () := by
  cases vs with
  | nil => rw [checkItems]
  | cons v vs =>
      rw [faultlessItems, Bool.and_eq_true] at hvs
      rw [checkItems, check_of_faultless hvs.1 (hp.mono (Nat.le_max_left _ _))]
      exact checkItems_of_faultless hvs.2 (hp.mono (Nat.le_max_right _ _))

theorem checkMembers_of_faultless {ms : List (Key × Json)} {p : Place}
    (hms : faultlessMembers ms = true) (hp : p.HasRoom (depthOfMembers ms)) :
    checkMembers p ms = .ok () := by
  cases ms with
  | nil => rw [checkMembers]
  | cons m ms =>
      obtain ⟨k, v⟩ := m
      rw [faultlessMembers, Bool.and_eq_true, Bool.and_eq_true] at hms
      cases k with
      | error f => cases hms.1.1
      | ok name =>
          rw [checkMembers, check_of_faultless hms.1.2 (hp.mono (Nat.le_max_left _ _))]
          exact checkMembers_of_faultless hms.2 (hp.mono (Nat.le_max_right _ _))

end

mutual

/-- What passes the check is faultless and not nested too deeply. -/
theorem faultless_of_check {v : Json} {p : Place} (hp : p.HasRoom 0) (h : v.check p = .ok ()) :
    v.faultless = true ∧ p.HasRoom v.depth := by
  cases v with
  | faulty f =>
      rw [check] at h
      cases h
  | array vs =>
      rw [check] at h
      obtain ⟨q, hq, h⟩ := Reader.exists_of_bind_eq_ok h
      obtain ⟨hvs, hroom⟩ := faultlessItems_of_check (Place.hasRoom_of_enter hq) h
      exact ⟨hvs, (Place.hasRoom_enter_iff hq).mp hroom⟩
  | object ms =>
      rw [check] at h
      obtain ⟨q, hq, h⟩ := Reader.exists_of_bind_eq_ok h
      obtain ⟨hms, hroom⟩ := faultlessMembers_of_check (Place.hasRoom_of_enter hq) h
      exact ⟨hms, (Place.hasRoom_enter_iff hq).mp hroom⟩
  | null | bool _ | number _ | string _ => exact ⟨rfl, hp⟩

theorem faultlessItems_of_check {vs : List Json} {p : Place} (hp : p.HasRoom 0)
    (h : checkItems p vs = .ok ()) :
    faultlessItems vs = true ∧ p.HasRoom (depthOfItems vs) := by
  cases vs with
  | nil => exact ⟨rfl, hp⟩
  | cons v vs =>
      rw [checkItems] at h
      obtain ⟨⟨⟩, hv, h⟩ := Reader.exists_of_bind_eq_ok h
      obtain ⟨hfirst, hroom⟩ := faultless_of_check hp hv
      obtain ⟨hrest, hroom'⟩ := faultlessItems_of_check hp h
      exact ⟨Bool.and_eq_true_iff.mpr ⟨hfirst, hrest⟩, hroom.max hroom'⟩

theorem faultlessMembers_of_check {ms : List (Key × Json)} {p : Place} (hp : p.HasRoom 0)
    (h : checkMembers p ms = .ok ()) :
    faultlessMembers ms = true ∧ p.HasRoom (depthOfMembers ms) := by
  cases ms with
  | nil => exact ⟨rfl, hp⟩
  | cons m ms =>
      obtain ⟨k, v⟩ := m
      rw [checkMembers] at h
      cases k with
      | error f => cases h
      | ok name =>
          obtain ⟨-, -, h⟩ := Reader.exists_of_bind_eq_ok h
          obtain ⟨⟨⟩, hv, h⟩ := Reader.exists_of_bind_eq_ok h
          obtain ⟨hfirst, hroom⟩ := faultless_of_check hp hv
          obtain ⟨hrest, hroom'⟩ := faultlessMembers_of_check hp h
          exact ⟨Bool.and_eq_true_iff.mpr ⟨hfirst, hrest⟩, hroom.max hroom'⟩

end

end Json

namespace Condition

/-! ## Passes over members -/

/-- A pass over members takes the value of the one with a name and passes over those of the others.
`seen` is what was taken before. -/
def ScansFor {α β : Type} (name : String) (take : Json → Except ReadError α)
    (pass : Json → Except ReadError Unit)
    (scan : Option α → List (Key × Json) → Except ReadError β) : Prop :=
  ∀ seen key v ms, scan seen ((key, v) :: ms) = key.read >>= fun k =>
    if k = name then
      if seen.isSome then .error (.duplicateField name) else take v >>= fun a => scan (some a) ms
    else pass v >>= fun _ => scan seen ms

variable {byIndex inner : Bool} {p : Place} {t : Tag} {c : Condition} {v : Json}

theorem ScansFor.cons_of_ne {α β : Type} {name k : String} {take : Json → Except ReadError α}
    {pass : Json → Except ReadError Unit}
    {scan : Option α → List (Key × Json) → Except ReadError β} (h : ScansFor name take pass scan)
    (hk : k ≠ name) (seen : Option α) (v : Json) (ms : List (Key × Json)) :
    scan seen ((.ok k, v) :: ms) = pass v >>= fun _ => scan seen ms := by
  rw [h]
  exact if_neg hk

theorem scansFor_tag : ScansFor tagKey (Tag.read byIndex) (Json.check p ·)
    (tagOfMembers byIndex p) := by
  intro seen key v ms
  cases seen <;> rw [tagOfMembers]

theorem scansFor_operands : ScansFor operandsKey (readSequence inner) (fun _ => .ok ())
    (readOperands inner) := by
  intro seen key v ms
  rw [readOperands]
  rfl

theorem scansFor_operand : ScansFor operandKey (readAt inner inner checkedPlace) (fun _ => .ok ())
    (readOperand inner) := by
  intro seen key v ms
  rw [readOperand]
  rfl

/-! ## The second pass -/

/-- Reads the fields of a tag among members, which is the second pass. The first one has found the
tag, wherever it stands. -/
def ofTag (inner : Bool) (ms : List (Key × Json)) : Tag → Except ReadError Condition
  | .leaf l => ofLeaf l (.members ms)
  | .all => return .all ((← readOperands inner none ms).getD [])
  | .any => return .any ((← readOperands inner none ms).getD [])
  | .not => do
    match ← readOperand inner none ms with
    | some c => return .not c
    | none => .error (.missingField operandKey)

theorem readAt_object (ms : List (Key × Json)) :
    readAt byIndex inner p (.object ms) = p.enter >>= fun q =>
      tagOfMembers byIndex q none ms >>= fun t => ofTag inner ms t := by
  rw [readAt]
  refine congrArg _ (funext fun q => congrArg _ (funext fun t => ?_))
  cases t <;> rfl

/-- Reads the fields of a tag among items, which is the second pass over an array. -/
def ofItems (inner : Bool) (vs : List Json) : Tag → Except ReadError Condition
  | .leaf l => ofLeaf l (.items vs)
  | .all => return .all (← readFirstSequence inner vs)
  | .any => return .any (← readFirstSequence inner vs)
  | .not => return .not (← readFirst inner vs)

theorem readAt_array (tag : Json) (vs : List Json) :
    readAt byIndex inner p (.array (tag :: vs)) = p.enter >>= fun q =>
      Tag.read byIndex tag >>= fun t => Json.checkItems q vs >>= fun _ => ofItems inner vs t := by
  rw [readAt]
  refine congrArg _ (funext fun q => congrArg _ (funext fun t => ?_))
  cases t <;> rfl

/-! ## What has been read -/

theorem Tag.faultless_of_read (h : Tag.read byIndex v = .ok t) :
    v.faultless = true ∧ v.depth = 0 := by
  unfold Tag.read at h
  split at h
  next => exact ⟨rfl, rfl⟩
  next => exact ⟨rfl, rfl⟩
  next => exact absurd h (Reader.mismatch_ne_ok _ _ _)

theorem faultlessMembers_of_tagOfMembers {seen : Option Tag} {ms : List (Key × Json)}
    (hp : p.HasRoom 0) (h : tagOfMembers byIndex p seen ms = .ok t) :
    Json.faultlessMembers ms = true ∧ p.HasRoom (Json.depthOfMembers ms) := by
  induction ms generalizing seen with
  | nil => exact ⟨rfl, hp⟩
  | cons m ms ih =>
      obtain ⟨key, v⟩ := m
      rw [scansFor_tag] at h
      obtain ⟨k, hk, h⟩ := Reader.exists_of_bind_eq_ok h
      obtain ⟨⟨hv, hroom⟩, seen, hrest⟩ : (v.faultless = true ∧ p.HasRoom v.depth) ∧
          ∃ seen, tagOfMembers byIndex p seen ms = .ok t := by
        split at h
        next =>
          split at h
          next => cases h
          next =>
            obtain ⟨found, hfound, h⟩ := Reader.exists_of_bind_eq_ok h
            obtain ⟨hv, hdepth⟩ := Tag.faultless_of_read hfound
            exact ⟨⟨hv, hdepth ▸ hp⟩, _, h⟩
        next =>
          obtain ⟨⟨⟩, hv, h⟩ := Reader.exists_of_bind_eq_ok h
          exact ⟨Json.faultless_of_check hp hv, _, h⟩
      obtain ⟨hms, hroom'⟩ := ih hrest
      refine ⟨?_, hroom.max hroom'⟩
      cases key with
      | error f => cases hk
      | ok name => exact Bool.and_eq_true_iff.mpr ⟨hv, hms⟩

/-- What is read as a condition is faultless and not nested too deeply, also in the parts that are
passed over. -/
theorem faultless_of_readAt (h : readAt byIndex inner p v = .ok c) :
    v.faultless = true ∧ p.HasRoom v.depth := by
  cases v with
  | object ms =>
      rw [readAt_object] at h
      obtain ⟨q, hq, h⟩ := Reader.exists_of_bind_eq_ok h
      obtain ⟨t, ht, -⟩ := Reader.exists_of_bind_eq_ok h
      obtain ⟨hms, hroom⟩ := faultlessMembers_of_tagOfMembers (Place.hasRoom_of_enter hq) ht
      exact ⟨hms, (Place.hasRoom_enter_iff hq).mp hroom⟩
  | array vs =>
      cases vs with
      | nil =>
          rw [readAt] at h
          obtain ⟨-, -, h⟩ := Reader.exists_of_bind_eq_ok h
          cases h
      | cons tag vs =>
          rw [readAt_array] at h
          obtain ⟨q, hq, h⟩ := Reader.exists_of_bind_eq_ok h
          obtain ⟨t, ht, h⟩ := Reader.exists_of_bind_eq_ok h
          obtain ⟨⟨⟩, hvs, -⟩ := Reader.exists_of_bind_eq_ok h
          have hinside := Place.hasRoom_of_enter hq
          obtain ⟨htag, hdepth⟩ := Tag.faultless_of_read ht
          obtain ⟨hvs, hroom⟩ := Json.faultlessItems_of_check hinside hvs
          refine ⟨Bool.and_eq_true_iff.mpr ⟨htag, hvs⟩, (Place.hasRoom_enter_iff hq).mp ?_⟩
          exact (hdepth ▸ hinside : q.HasRoom tag.depth).max hroom
  | _ =>
      rw [readAt] at h
      · exact absurd h (Reader.mismatch_ne_ok _ _ _)
      all_goals
        intros
        contradiction

end Condition

end StageRelay
