import Mathlib.Data.List.Forall2
import StageRelay.Json.Parse
import StageRelay.Text.Split

/-!
# Documents made of texts

The text of a value reads the same wherever a value may stand: as a document of its own, as an item
of an array or behind a name in an object. So the text of an array or of an object can be put
together from the texts of its items or of its members, with any blanks that these have around them
and with any spelling of the names.
-/

namespace StageRelay

namespace Json

/-! ## A document inside of containers -/

namespace Position

variable {entry p q : Position} {frames outer : List Frame} {v : Json}

/-- The place that takes the part of a place in a document of its own, when the document stands at
`entry` inside some containers. Where the document is complete, it is a value there. -/
def inside (entry : Position) (outer : List Frame) : Position → Position
  | ⟨.value, []⟩ => entry
  | ⟨.nothing v, _⟩ => after v outer
  | ⟨expected, frames⟩ => ⟨expected, frames ++ outer⟩

theorem value?_eq (p : Position) (v : Json) : p.value? v = p.valueFrames?.map (after v) := by
  rw [value?, valueFrames?]
  cases p.expected <;> rfl

/-- A value closes nothing, so the containers around the document stay as they are. -/
theorem inside_after (entry : Position) (outer : List Frame) (v : Json) (frames : List Frame) :
    inside entry outer (after v frames) = after v (frames ++ outer) := by
  cases frames with
  | nil => rfl
  | cons frame frames => cases frame <;> rfl

theorem valueFrames?_inside (hentry : entry.valueFrames? = some outer)
    (h : p.valueFrames? = some frames) :
    (inside entry outer p).valueFrames? = some (frames ++ outer) := by
  obtain ⟨expected, inner⟩ := p
  cases expected with
  | value =>
      obtain rfl : inner = frames := Option.some.inj h
      cases inner with
      | nil => exact hentry
      | cons frame inner => rfl
  | firstItem =>
      obtain rfl : .array [] :: inner = frames := Option.some.inj h
      rfl
  | _ => cases h

theorem value?_inside (hentry : entry.valueFrames? = some outer) (h : p.value? v = some q) :
    (inside entry outer p).value? v = some (inside entry outer q) := by
  rw [value?_eq, Option.map_eq_some_iff] at h
  obtain ⟨frames, hframes, rfl⟩ := h
  rw [value?_eq, valueFrames?_inside hentry hframes, inside_after]
  rfl

theorem string?_of_valueFrames? {s : Key} (h : p.valueFrames? = some frames) :
    p.string? s = p.value? (match s with
      | .ok s => .string s
      | .error f => .faulty f) := by
  obtain ⟨expected, inner⟩ := p
  cases expected <;> first | rfl | cases h

theorem string?_inside {s : Key} (hentry : entry.valueFrames? = some outer)
    (h : p.string? s = some q) :
    (inside entry outer p).string? s = some (inside entry outer q) := by
  cases hframes : p.valueFrames? with
  | some frames =>
      rw [string?_of_valueFrames? hframes] at h
      rw [string?_of_valueFrames? (valueFrames?_inside hentry hframes)]
      exact value?_inside hentry h
  | none =>
      obtain ⟨expected, inner⟩ := p
      cases expected with
      | value | firstItem => cases hframes
      | firstKey | key =>
          cases h
          rfl
      | _ => cases h

theorem punctuation?_inside {c : Char} (hentry : entry.valueFrames? = some outer)
    (h : p.punctuation? c = some q) :
    (inside entry outer p).punctuation? c = some (inside entry outer q) := by
  obtain ⟨expected, inner⟩ := p
  rw [punctuation?.eq_def] at h
  split at h
  next =>
    obtain ⟨frames, hframes, rfl⟩ := Option.map_eq_some_iff.mp h
    exact Option.map_eq_some_iff.mpr ⟨_, valueFrames?_inside hentry hframes, rfl⟩
  next =>
    obtain ⟨frames, hframes, rfl⟩ := Option.map_eq_some_iff.mp h
    exact Option.map_eq_some_iff.mpr ⟨_, valueFrames?_inside hentry hframes, rfl⟩
  all_goals
    cases expected <;> cases h <;> first | rfl | exact congrArg some (inside_after ..).symm

end Position

namespace Parser

variable {entry : Position} {outer : List Frame}

/-- The machine in a document that stands at `entry` inside some containers. It is in the midst of
the same lexeme. -/
def inside (entry : Position) (outer : List Frame) (m : Parser) : Parser :=
  ⟨.inside entry outer m.position, m.lexeme⟩

theorem between_inside {p : Position} {c : Char} {m : Parser}
    (hentry : entry.valueFrames? = some outer) (h : between p c = some m) :
    between (.inside entry outer p) c = some (m.inside entry outer) := by
  rw [between] at h ⊢
  split at h
  next hspace =>
    cases h
    rw [if_pos hspace]
    rfl
  next hspace =>
    rw [if_neg hspace]
    split at h
    next hquote =>
      cases h
      rw [if_pos hquote]
      rfl
    next hquote =>
      rw [if_neg hquote]
      split at h
      next hword =>
        cases h
        rw [if_pos hword]
        rfl
      next hword =>
        obtain ⟨q, hq, rfl⟩ := Option.map_eq_some_iff.mp h
        rw [if_neg hword, Position.punctuation?_inside hentry hq]
        rfl

theorem finishWord_inside {p q : Position} {cs : List Char}
    (hentry : entry.valueFrames? = some outer) (h : finishWord p cs = some q) :
    finishWord (.inside entry outer p) cs = some (.inside entry outer q) := by
  obtain ⟨v, hv, hq⟩ := Option.bind_eq_some_iff.mp h
  exact Option.bind_eq_some_iff.mpr ⟨v, hv, Position.value?_inside hentry hq⟩

/-- What the machine does in a document of its own it does inside of containers as well. -/
theorem step_inside {m n : Parser} {c : Char} (hentry : entry.valueFrames? = some outer)
    (h : m.step c = some n) : (m.inside entry outer).step c = some (n.inside entry outer) := by
  obtain ⟨p, lexeme⟩ := m
  cases lexeme with
  | none => exact between_inside hentry h
  | word cs =>
      simp only [step, inside] at h ⊢
      split at h
      next hword =>
        cases h
        rw [if_pos hword]
      next hword =>
        obtain ⟨q, hq, hn⟩ := Option.bind_eq_some_iff.mp h
        rw [if_neg hword, finishWord_inside hentry hq]
        exact between_inside hentry hn
  | string us =>
      simp only [step, inside] at h ⊢
      split at h
      next hquote =>
        obtain ⟨q, hq, rfl⟩ := Option.map_eq_some_iff.mp h
        rw [if_pos hquote, Position.string?_inside hentry hq]
        rfl
      next hquote =>
        rw [if_neg hquote]
        split at h
        next hslash =>
          cases h
          rw [if_pos hslash]
        next hslash =>
          rw [if_neg hslash]
          split at h
          next => cases h
          next hprintable =>
            cases h
            rw [if_neg hprintable]
  | escape us =>
      simp only [step, inside] at h ⊢
      split at h
      next hu =>
        cases h
        rw [if_pos hu]
      next hu =>
        obtain ⟨e, he, rfl⟩ := Option.map_eq_some_iff.mp h
        rw [if_neg hu, he]
        rfl
  | code us digits =>
      simp only [step, inside] at h ⊢
      obtain ⟨d, hd, rfl⟩ := Option.map_eq_some_iff.mp h
      rw [hd]
      rcases digits with _ | ⟨x, _ | ⟨y, _ | ⟨z, _ | _⟩⟩⟩ <;> rfl

theorem run_inside {m n : Parser} {cs : List Char} (hentry : entry.valueFrames? = some outer)
    (h : m.run cs = some n) : (m.inside entry outer).run cs = some (n.inside entry outer) := by
  induction cs generalizing m with
  | nil =>
      cases h
      rfl
  | cons c cs ih =>
      rw [run] at h ⊢
      cases hstep : m.step c with
      | none => simp [hstep] at h
      | some next =>
          simp only [hstep] at h
          simp only [step_inside hentry hstep]
          exact ih h

def EndsWord (cs : List Char) : Prop := ∃ c rest, cs = c :: rest ∧ isWordChar c = false

/-- A document is read as a value wherever a value may stand, if what follows cannot belong to it
any more. -/
theorem run_value {text : String} {v : Json} {rest : List Char} (h : parse? text = some v)
    (hentry : entry.valueFrames? = some outer) (hrest : EndsWord rest) :
    run ⟨entry, .none⟩ (text.toList ++ rest) = run ⟨.after v outer, .none⟩ rest := by
  obtain ⟨c, rest, rfl, hc⟩ := hrest
  obtain ⟨⟨p, lexeme⟩, hrun, hfinish⟩ := Option.bind_eq_some_iff.mp h
  have hplace : ∀ q : Position, q.document? = some v →
      Position.inside entry outer q = .after v outer := by
    rintro ⟨expected, frames⟩ hq
    cases expected with
    | nothing w =>
        obtain rfl : w = v := Option.some.inj hq
        rfl
    | _ => cases hq
  have hinside : run ⟨entry, .none⟩ text.toList = some ⟨.inside entry outer p, lexeme⟩ :=
    run_inside hentry hrun
  rw [run_append, hinside, Option.bind_some]
  cases lexeme with
  | none => rw [hplace p hfinish]
  | word cs =>
      -- The word under way is complete only now, when a character comes that is not part of it.
      obtain ⟨q, hq, hdocument⟩ := Option.bind_eq_some_iff.mp hfinish
      have hword := finishWord_inside hentry hq
      rw [hplace q hdocument] at hword
      simp only [run, step, hc, hword]
      rfl
  | _ => cases hfinish

end Parser

/-! ## Names -/

/-- The characters spell the units of a string literal: as themselves, by short escapes or by
codes. -/
inductive SpellsUnits : List Char → List LiteralUnit → Prop where
  | nil : SpellsUnits [] []
  | char {c : Char} {cs : List Char} {us : List LiteralUnit} (hquote : c ≠ '"')
      (hslash : c ≠ '\\') (hprintable : ' ' ≤ c) (h : SpellsUnits cs us) :
      SpellsUnits (c :: cs) (.char c :: us)
  | escape {e c : Char} {cs : List Char} {us : List LiteralUnit}
      (he : LiteralUnit.shortEscape? e = some c) (h : SpellsUnits cs us) :
      SpellsUnits ('\\' :: e :: cs) (.char c :: us)
  | code {d₁ d₂ d₃ d₄ : Char} {x₁ x₂ x₃ x₄ : Nat} {cs : List Char} {us : List LiteralUnit}
      (h₁ : Text.hexDigit? d₁ = some x₁) (h₂ : Text.hexDigit? d₂ = some x₂)
      (h₃ : Text.hexDigit? d₃ = some x₃) (h₄ : Text.hexDigit? d₄ = some x₄)
      (h : SpellsUnits cs us) :
      SpellsUnits ('\\' :: 'u' :: d₁ :: d₂ :: d₃ :: d₄ :: cs)
        (.code (((x₁ * 16 + x₂) * 16 + x₃) * 16 + x₄) :: us)

def AreBlank (cs : List Char) : Prop := ∀ c ∈ cs, isSpace c = true

/-- The text is a string literal for `s`, maybe with blanks around it. -/
def IsLiteralOf (text s : String) : Prop :=
  ∃ before inner after us, text.toList = before ++ '"' :: (inner ++ '"' :: after) ∧
    AreBlank before ∧ AreBlank after ∧ SpellsUnits inner us ∧ LiteralUnit.text us = .ok s

namespace Parser

theorem run_blanks {cs : List Char} (h : AreBlank cs) (p : Position) (rest : List Char) :
    run ⟨p, .none⟩ (cs ++ rest) = run ⟨p, .none⟩ rest := by
  induction cs with
  | nil => rfl
  | cons c cs ih =>
      obtain ⟨hc, hcs⟩ := List.forall_mem_cons.mp h
      have hstep : step ⟨p, .none⟩ c = some ⟨p, .none⟩ := if_pos hc
      rw [List.cons_append, run, hstep]
      exact ih hcs

theorem run_units {cs : List Char} {units : List LiteralUnit} (h : SpellsUnits cs units)
    (p : Position) (us : List LiteralUnit) (rest : List Char) :
    run ⟨p, .string us⟩ (cs ++ rest) = run ⟨p, .string (units.reverse ++ us)⟩ rest := by
  induction h generalizing us with
  | nil => rfl
  | char hquote hslash hprintable _ ih =>
      simp [run, step, hquote, hslash, Char.not_lt.mpr hprintable, ih]
  | @escape e _ _ _ he _ ih =>
      have hu : e ≠ 'u' := by
        rintro rfl
        cases he
      simp [run, step, hu, he, ih]
  | code h₁ h₂ h₃ h₄ _ ih => simp [run, step, h₁, h₂, h₃, h₄, ih]

/-- A literal is read as its text, be it a value or a name. -/
theorem run_isLiteralOf {text s : String} {p q : Position} (h : IsLiteralOf text s)
    (hq : p.string? (.ok s) = some q) (rest : List Char) :
    run ⟨p, .none⟩ (text.toList ++ rest) = run ⟨q, .none⟩ rest := by
  obtain ⟨before, inner, after, us, htext, hbefore, hafter, hinner, hus⟩ := h
  have hopen : step ⟨p, .none⟩ '"' = some ⟨p, .string []⟩ := rfl
  have hclose : step ⟨p, .string us.reverse⟩ '"' = some ⟨q, .none⟩ := by
    simp [step, hus, hq]
  rw [htext, List.append_assoc, run_blanks hbefore, List.cons_append, run, hopen]
  simp only [List.append_assoc, run_units hinner, List.append_nil]
  rw [List.cons_append, run, hclose]
  exact run_blanks hafter q rest

end Parser

theorem parse?_of_isLiteralOf {text s : String} (h : IsLiteralOf text s) :
    parse? text = some (.string s) := by
  rw [parse?, ← List.append_nil text.toList, Parser.start, Parser.run_isLiteralOf h rfl []]
  rfl

/-- A literal stands for one text only. -/
theorem IsLiteralOf.eq {text s t : String} (hs : IsLiteralOf text s) (ht : IsLiteralOf text t) :
    s = t := by
  have hparse := (parse?_of_isLiteralOf hs).symm.trans (parse?_of_isLiteralOf ht)
  exact Json.string.inj (Option.some.inj hparse)

/-! ## Arrays and objects -/

def arrayText (items : List String) : String := "[" ++ Text.join "," items ++ "]"

structure MemberText where
  name : String
  value : String

/-- The text of the object whose members have these texts. -/
def objectText (members : List MemberText) : String :=
  "\x7b" ++ Text.join "," (members.map fun m => m.name ++ ":" ++ m.value) ++ "\x7d"

structure MemberText.Spells (m : MemberText) (entry : String × Json) : Prop where
  name : IsLiteralOf m.name entry.1
  value : parse? m.value = some entry.2

theorem toList_join_cons (separator s : String) (rest : List String) :
    (Text.join separator (s :: rest)).toList =
      s.toList ++ rest.flatMap fun t => separator.toList ++ t.toList := by
  induction rest generalizing s with
  | nil => simp [Text.join]
  | cons t rest ih => simp [Text.join, ih]

namespace Parser

theorem endsWord_flatMap {α : Type} (l : List α) (f : α → List Char) {c : Char}
    (hc : isWordChar c = false) (rest : List Char) :
    EndsWord (l.flatMap (fun a => ',' :: f a) ++ c :: rest) := by
  cases l with
  | nil => exact ⟨c, rest, rfl, hc⟩
  | cons a l => exact ⟨',', _, rfl, rfl⟩

theorem run_items {texts : List String} {items : List Json}
    (h : List.Forall₂ (fun t v => parse? t = some v) texts items) (frames : List Frame)
    (seen : List Json) (rest : List Char) :
    run ⟨⟨.nextItem seen, frames⟩, .none⟩
        (texts.flatMap (fun t => ',' :: t.toList) ++ ']' :: rest) =
      run ⟨.after (.array (seen.reverse ++ items)) frames, .none⟩ rest := by
  induction h generalizing seen with
  | nil =>
      have hend : step ⟨⟨.nextItem seen, frames⟩, .none⟩ ']' =
          some ⟨.after (.array seen.reverse) frames, .none⟩ := rfl
      rw [List.flatMap_nil, List.nil_append, run, hend, List.append_nil]
  | cons hitem _ ih =>
      have hcomma : step ⟨⟨.nextItem seen, frames⟩, .none⟩ ',' =
          some ⟨⟨.value, .array seen :: frames⟩, .none⟩ := rfl
      rw [List.flatMap_cons, List.append_assoc, List.cons_append, run, hcomma]
      simp only
      rw [run_value hitem rfl (endsWord_flatMap _ _ rfl rest)]
      exact (ih _).trans (by rw [List.reverse_cons, List.append_assoc]; rfl)

/-- A member is read, be it the first of its object or a later one. -/
theorem run_member {m : MemberText} {name : String} {v : Json} (h : m.Spells (name, v))
    {p : Position} {frames : List Frame} {seen : List (Key × Json)}
    (hp : p.string? (.ok name) = some ⟨.colon seen (.ok name), frames⟩) {rest : List Char}
    (hrest : EndsWord rest) :
    run ⟨p, .none⟩ ((m.name ++ ":" ++ m.value).toList ++ rest) =
      run ⟨⟨.nextMember ((.ok name, v) :: seen), frames⟩, .none⟩ rest := by
  have hcolon : step ⟨⟨.colon seen (.ok name), frames⟩, .none⟩ ':' =
      some ⟨⟨.value, .object seen (.ok name) :: frames⟩, .none⟩ := rfl
  have htext : (m.name ++ ":" ++ m.value).toList ++ rest =
      m.name.toList ++ ':' :: (m.value.toList ++ rest) := by simp
  rw [htext, run_isLiteralOf h.name hp, run, hcolon]
  simp only
  rw [run_value h.value rfl hrest]
  rfl

theorem run_members {texts : List MemberText} {members : List (String × Json)}
    (h : List.Forall₂ MemberText.Spells texts members) (frames : List Frame)
    (seen : List (Key × Json)) (rest : List Char) :
    run ⟨⟨.nextMember seen, frames⟩, .none⟩
        (texts.flatMap (fun m => ',' :: (m.name ++ ":" ++ m.value).toList) ++ '}' :: rest) =
      run ⟨.after (.object (seen.reverse ++ members.map fun m => (.ok m.1, m.2))) frames, .none⟩
        rest := by
  induction h generalizing seen with
  | nil =>
      have hend : step ⟨⟨.nextMember seen, frames⟩, .none⟩ '}' =
          some ⟨.after (.object seen.reverse) frames, .none⟩ := rfl
      rw [List.flatMap_nil, List.nil_append, run, hend, List.map_nil, List.append_nil]
  | cons hmember _ ih =>
      have hcomma : step ⟨⟨.nextMember seen, frames⟩, .none⟩ ',' =
          some ⟨⟨.key seen, frames⟩, .none⟩ := rfl
      rw [List.flatMap_cons, List.append_assoc, List.cons_append, run, hcomma]
      simp only
      rw [run_member hmember rfl (endsWord_flatMap _ _ rfl rest)]
      exact (ih _).trans (by rw [List.reverse_cons, List.append_assoc]; rfl)

end Parser

/-- The text of an array is read as the array of what its items are read as. Nothing is known of the
items but that they can be read by themselves. -/
theorem parse?_arrayText {texts : List String} {items : List Json}
    (h : List.Forall₂ (fun t v => parse? t = some v) texts items) :
    parse? (arrayText texts) = some (.array items) := by
  cases h with
  | nil => rfl
  | @cons t v texts items hitem hitems =>
      have htext : (arrayText (t :: texts)).toList =
          '[' :: (t.toList ++ (texts.flatMap (fun t => ',' :: t.toList) ++ [']'])) := by
        simp [arrayText, toList_join_cons]
      have hopen : Parser.step .start '[' = some ⟨⟨.firstItem, []⟩, .none⟩ := rfl
      rw [parse?, htext, Parser.run, hopen]
      simp only
      rw [Parser.run_value hitem rfl (Parser.endsWord_flatMap _ _ rfl []),
        show Position.after v [.array []] = ⟨.nextItem [v], []⟩ from rfl,
        Parser.run_items hitems]
      rfl

/-- The text of an object is read as the object of what its members are read as. -/
theorem parse?_objectText {texts : List MemberText} {members : List (String × Json)}
    (h : List.Forall₂ MemberText.Spells texts members) :
    parse? (objectText texts) = some (.record members) := by
  cases h with
  | nil => rfl
  | @cons m e texts members hmember hmembers =>
      have htext : (objectText (m :: texts)).toList = '{' :: ((m.name ++ ":" ++ m.value).toList ++
          (texts.flatMap (fun m => ',' :: (m.name ++ ":" ++ m.value).toList) ++ ['}'])) := by
        simp [objectText, toList_join_cons, List.flatMap_map]
      have hopen : Parser.step .start '{' = some ⟨⟨.firstKey, []⟩, .none⟩ := rfl
      rw [parse?, htext, Parser.run, hopen]
      simp only
      rw [Parser.run_member hmember rfl (Parser.endsWord_flatMap _ _ rfl []),
        Parser.run_members hmembers]
      rfl

end Json
end StageRelay
