import StageRelay.Proofs.Json.Documents

/-!
# Texts inside of documents

A text that stands inside of a document is shorter than the document, because of its quotes. So the
limit on texts that are embedded in each other is never reached: what a text holds does not depend
on the document around it.
-/

namespace StageRelay

namespace Json

/-- The text is somewhere inside the value. -/
inductive HasText (s : String) : Json → Prop where
  | string : HasText s (.string s)
  | item {items : List Json} {v : Json} (hv : v ∈ items) (h : HasText s v) :
      HasText s (.array items)
  | member {members : List (Key × Json)} {m : Key × Json} (hm : m ∈ members)
      (h : HasText s m.2) : HasText s (.object members)

/-! ## What a text holds depends on the texts inside it only -/

theorem embedded?_eq_some_iff {members : List (Key × Json)} {text : String} :
    embedded? members = some (some text) ↔ members = [(.ok embeddedKey, .string text)] := by
  constructor
  · intro h
    rw [embedded?.eq_def] at h
    split at h
    next k v ms =>
      split at h
      next hk =>
        subst hk
        split at h
        next =>
          cases h
          rfl
        next => cases h
      next => cases h
    next => cases h
  · rintro rfl
    rfl

mutual

theorem resolve?_congr {read read' : String → Option Json} :
    ∀ v : Json, (∀ s, v.HasText s → read s = read' s) → v.resolve? read = v.resolve? read'
  | .array items, h => by
      rw [resolve?, resolve?, resolveItems?_congr items fun v hv s hs => h s (.item hv hs)]
  | .object members, h => by
      rw [resolve?, resolve?, resolveMembers?_congr members fun m hm s hs => h s (.member hm hs)]
      cases hembedded : embedded? members with
      | none => rfl
      | some text =>
          cases text with
          | none => rfl
          | some text =>
              obtain rfl := embedded?_eq_some_iff.mp hembedded
              exact h text (.member List.mem_cons_self .string)
  | .null, _ | .bool _, _ | .number _, _ | .string _, _ | .faulty _, _ => rfl

theorem resolveItems?_congr {read read' : String → Option Json} :
    ∀ vs : List Json, (∀ v ∈ vs, ∀ s, v.HasText s → read s = read' s) →
      resolveItems? read vs = resolveItems? read' vs
  | [], _ => rfl
  | v :: vs, h => by
      obtain ⟨hv, hvs⟩ := List.forall_mem_cons.mp h
      rw [resolveItems?, resolveItems?, resolve?_congr v hv, resolveItems?_congr vs hvs]

theorem resolveMembers?_congr {read read' : String → Option Json} :
    ∀ ms : List (Key × Json), (∀ m ∈ ms, ∀ s, m.2.HasText s → read s = read' s) →
      resolveMembers? read ms = resolveMembers? read' ms
  | [], _ => rfl
  | (k, v) :: ms, h => by
      obtain ⟨hv, hms⟩ := List.forall_mem_cons.mp h
      rw [resolveMembers?, resolveMembers?, resolve?_congr v hv, resolveMembers?_congr ms hms]

end

/-! ## A text inside a document is shorter -/

def Frame.values : Frame → List Json
  | .array items => items
  | .object members _ => members.map Prod.snd

/-- The values that belong to what comes next: those of the innermost container, or the document. -/
def Expected.values : Expected → List Json
  | .key members | .colon members _ | .nextMember members => members.map Prod.snd
  | .nextItem items => items
  | .nothing v => [v]
  | _ => []

/-- The complete values that were read before a place. -/
def Position.values (p : Position) : List Json := p.expected.values ++ p.frames.flatMap Frame.values

/-- The units of the string under way, if there is one. -/
def Lexeme.units? : Lexeme → Option (List LiteralUnit)
  | .string us | .escape us | .code us _ => some us
  | _ => Option.none

/-- All texts in the values are shorter than `n` characters. -/
def TextsBelow (n : Nat) (values : List Json) : Prop :=
  ∀ v ∈ values, ∀ s, v.HasText s → s.length < n

variable {n : Nat}

theorem textsBelow_cons {v : Json} {values : List Json} :
    TextsBelow n (v :: values) ↔ (∀ s, v.HasText s → s.length < n) ∧ TextsBelow n values :=
  List.forall_mem_cons

theorem textsBelow_append {values values' : List Json} :
    TextsBelow n (values ++ values') ↔ TextsBelow n values ∧ TextsBelow n values' :=
  List.forall_mem_append

theorem TextsBelow.array {items : List Json} (h : TextsBelow n items) :
    ∀ s, (Json.array items).HasText s → s.length < n := by
  rintro s (_ | ⟨hv, hs⟩)
  exact h _ hv s hs

theorem TextsBelow.object {members : List (Key × Json)} (h : TextsBelow n (members.map Prod.snd)) :
    ∀ s, (Json.object members).HasText s → s.length < n := by
  rintro s (_ | _ | ⟨hm, hs⟩)
  exact h _ (List.mem_map_of_mem hm) s hs

theorem TextsBelow.mono {k : Nat} {values : List Json} (h : TextsBelow n values) (hle : n ≤ k) :
    TextsBelow k values :=
  fun v hv s hs => Nat.lt_of_lt_of_le (h v hv s hs) hle

namespace Position

variable {p q : Position}

theorem values_after (v : Json) (frames : List Frame) :
    (after v frames).values = v :: frames.flatMap Frame.values := by
  cases frames with
  | nil => rfl
  | cons frame frames => cases frame <;> rfl

theorem values_of_valueFrames? {frames : List Frame} (h : p.valueFrames? = some frames) :
    p.values = frames.flatMap Frame.values := by
  obtain ⟨expected, inner⟩ := p
  cases expected with
  | value | firstItem =>
      cases h
      rfl
  | _ => cases h

theorem textsBelow_value? {v : Json} (h : p.value? v = some q) (hp : TextsBelow n p.values)
    (hv : ∀ s, v.HasText s → s.length < n) : TextsBelow n q.values := by
  rw [value?_eq, Option.map_eq_some_iff] at h
  obtain ⟨frames, hframes, rfl⟩ := h
  rw [values_after, textsBelow_cons, ← values_of_valueFrames? hframes]
  exact ⟨hv, hp⟩

theorem textsBelow_string? {k : Key} (h : p.string? k = some q) (hp : TextsBelow n p.values)
    (hk : ∀ s, k = .ok s → s.length < n) : TextsBelow n q.values := by
  cases hframes : p.valueFrames? with
  | some frames =>
      rw [string?_of_valueFrames? hframes] at h
      refine textsBelow_value? h hp fun s hs => ?_
      cases k with
      | ok text =>
          cases hs
          exact hk s rfl
      | error fault => cases hs
  | none =>
      obtain ⟨expected, inner⟩ := p
      cases expected with
      | value | firstItem => cases hframes
      | firstKey | key =>
          cases h
          exact hp
      | _ => cases h

theorem textsBelow_punctuation? {c : Char} (h : p.punctuation? c = some q)
    (hp : TextsBelow n p.values) : TextsBelow n q.values := by
  obtain ⟨expected, inner⟩ := p
  rw [punctuation?.eq_def] at h
  split at h
  next =>
    obtain ⟨frames, hframes, rfl⟩ := Option.map_eq_some_iff.mp h
    rw [values_of_valueFrames? hframes] at hp
    exact hp
  next =>
    obtain ⟨frames, hframes, rfl⟩ := Option.map_eq_some_iff.mp h
    rw [values_of_valueFrames? hframes] at hp
    exact hp
  next =>
    cases expected with
    | firstItem =>
        cases h
        rw [values_after, textsBelow_cons]
        exact ⟨TextsBelow.array (List.forall_mem_nil _), hp⟩
    | nextItem items =>
        cases h
        obtain ⟨hitems, hinner⟩ := textsBelow_append.mp hp
        rw [values_after, textsBelow_cons]
        exact ⟨TextsBelow.array fun v hv => hitems v (List.mem_reverse.mp hv), hinner⟩
    | _ => cases h
  next =>
    cases expected with
    | firstKey =>
        cases h
        rw [values_after, textsBelow_cons]
        exact ⟨TextsBelow.object (List.forall_mem_nil _), hp⟩
    | nextMember members =>
        cases h
        obtain ⟨hmembers, hinner⟩ := textsBelow_append.mp hp
        rw [values_after, textsBelow_cons]
        refine ⟨TextsBelow.object fun v hv => ?_, hinner⟩
        rw [List.map_reverse, List.mem_reverse] at hv
        exact hmembers v hv
    | _ => cases h
  next =>
    cases expected with
    | nextItem items | nextMember members =>
        cases h
        exact hp
    | _ => cases h
  next =>
    cases expected with
    | colon members key =>
        cases h
        exact hp
    | _ => cases h
  next => cases h

end Position

/-- A word has no text in it. -/
theorem not_hasText_of_word? {cs : List Char} {v : Json} (h : word? cs = some v) (s : String) :
    ¬ v.HasText s := by
  rw [word?] at h
  split at h
  next =>
    cases h
    nofun
  next =>
    split at h
    next =>
      cases h
      nofun
    next =>
      split at h
      next =>
        cases h
        nofun
      next =>
        obtain ⟨numeral, -, rfl⟩ := Option.map_eq_some_iff.mp h
        rw [Numeral.toJson]
        split
        next => nofun
        next => split <;> nofun

end Json

namespace LiteralUnit

theorem exists_of_map_cons {c : Char} {decoded : Except Fault (List Char)} {cs : List Char}
    (h : decoded.map (c :: ·) = .ok cs) : ∃ ds, decoded = .ok ds ∧ cs = c :: ds := by
  cases decoded with
  | error fault => cases h
  | ok ds =>
      cases h
      exact ⟨ds, rfl, rfl⟩

/-- A literal has at most as many characters as units. -/
theorem length_decode_le {us : List LiteralUnit} {cs : List Char} (h : decode us = .ok cs) :
    cs.length ≤ us.length := by
  fun_induction decode us generalizing cs with
  | case1 =>
      cases h
      exact Nat.le_refl 0
  | case2 c us ih | case7 n us hsecond hfirst ih =>
      obtain ⟨ds, hds, rfl⟩ := exists_of_map_cons h
      exact Nat.succ_le_succ (ih hds)
  | case4 n hsecond hfirst m us hm ih =>
      obtain ⟨ds, hds, rfl⟩ := exists_of_map_cons h
      have hle := ih hds
      simp only [List.length_cons]
      omega
  | case3 | case5 | case6 => cases h

theorem length_text_le {us : List LiteralUnit} {s : String} (h : text us = .ok s) :
    s.length ≤ us.length := by
  rw [text] at h
  cases hdecode : decode us with
  | error fault =>
      rw [hdecode] at h
      cases h
  | ok cs =>
      rw [hdecode] at h
      cases h
      rw [String.length_ofList]
      exact length_decode_le hdecode

end LiteralUnit

namespace Json

namespace Parser

/-- After `n` characters all complete texts are shorter than `n`, and so is the one under way. Its
quotation mark is the character that makes the difference. -/
structure Below (n : Nat) (m : Parser) : Prop where
  texts : TextsBelow n m.position.values
  units : ∀ us, m.lexeme.units? = some us → us.length < n

theorem below_of_idle {p : Position} {lexeme : Lexeme} (hp : TextsBelow n p.values)
    (h : lexeme.units? = none) : Below n ⟨p, lexeme⟩ := by
  refine ⟨hp, fun us hus => ?_⟩
  rw [h] at hus
  cases hus

theorem below_of_units {p : Position} {lexeme : Lexeme} {us : List LiteralUnit}
    (hp : TextsBelow n p.values) (h : lexeme.units? = some us) (hlength : us.length < n) :
    Below n ⟨p, lexeme⟩ := by
  refine ⟨hp, fun us' hus => ?_⟩
  obtain rfl := Option.some.inj (h.symm.trans hus)
  exact hlength

theorem between_below {p : Position} {c : Char} {m : Parser} (h : between p c = some m)
    (hp : TextsBelow n p.values) : m.Below (n + 1) := by
  have hvalues := hp.mono (Nat.le_succ n)
  rw [between] at h
  split at h
  next =>
    cases h
    exact below_of_idle hvalues rfl
  next =>
    split at h
    next =>
      cases h
      exact below_of_units hvalues rfl (Nat.succ_pos n)
    next =>
      split at h
      next =>
        cases h
        exact below_of_idle hvalues rfl
      next =>
        obtain ⟨q, hq, rfl⟩ := Option.map_eq_some_iff.mp h
        exact below_of_idle (Position.textsBelow_punctuation? hq hvalues) rfl

theorem textsBelow_finishWord {p q : Position} {cs : List Char} (h : finishWord p cs = some q)
    (hp : TextsBelow n p.values) : TextsBelow n q.values := by
  obtain ⟨v, hv, hq⟩ := Option.bind_eq_some_iff.mp h
  exact Position.textsBelow_value? hq hp fun s hs => absurd hs (not_hasText_of_word? hv s)

theorem step_below {m k : Parser} {c : Char} (h : m.step c = some k) (hm : m.Below n) :
    k.Below (n + 1) := by
  obtain ⟨p, lexeme⟩ := m
  obtain ⟨hp, hunits⟩ := hm
  have hvalues := hp.mono (Nat.le_succ n)
  cases lexeme with
  | none => exact between_below h hp
  | word cs =>
      simp only [step] at h
      split at h
      next =>
        cases h
        exact below_of_idle hvalues rfl
      next =>
        obtain ⟨q, hq, hk⟩ := Option.bind_eq_some_iff.mp h
        exact between_below hk (textsBelow_finishWord hq hp)
  | string us =>
      have hlength := hunits us rfl
      simp only [step] at h
      split at h
      next =>
        obtain ⟨q, hq, rfl⟩ := Option.map_eq_some_iff.mp h
        refine below_of_idle (Position.textsBelow_string? hq hvalues fun s hs => ?_) rfl
        have hle := LiteralUnit.length_text_le hs
        rw [List.length_reverse] at hle
        omega
      next =>
        split at h
        next =>
          cases h
          exact below_of_units hvalues rfl (Nat.lt_succ_of_lt hlength)
        next =>
          split at h
          next => cases h
          next =>
            cases h
            exact below_of_units hvalues rfl (Nat.succ_lt_succ hlength)
  | escape us =>
      have hlength := hunits us rfl
      simp only [step] at h
      split at h
      next =>
        cases h
        exact below_of_units hvalues rfl (Nat.lt_succ_of_lt hlength)
      next =>
        obtain ⟨e, he, rfl⟩ := Option.map_eq_some_iff.mp h
        exact below_of_units hvalues rfl (Nat.succ_lt_succ hlength)
  | code us digits =>
      have hlength := hunits us rfl
      simp only [step] at h
      obtain ⟨d, hd, rfl⟩ := Option.map_eq_some_iff.mp h
      split
      next =>
        exact below_of_units hvalues rfl (Nat.succ_lt_succ hlength)
      next =>
        exact below_of_units hvalues rfl (Nat.lt_succ_of_lt hlength)

theorem run_below {m k : Parser} {cs : List Char} (h : m.run cs = some k) (hm : m.Below n) :
    k.Below (n + cs.length) := by
  induction cs generalizing m n with
  | nil =>
      cases h
      exact hm
  | cons c cs ih =>
      rw [run] at h
      cases hstep : m.step c with
      | none => simp [hstep] at h
      | some next =>
          simp only [hstep] at h
          have hnext := ih h (step_below hstep hm)
          rwa [Nat.succ_add_eq_add_succ] at hnext

end Parser

/-- A text inside a document is shorter than the document, if only by its quotation marks. So texts
in each other come to an end. -/
theorem HasText.length_lt {text s : String} {v : Json} (h : parse? text = some v)
    (hs : v.HasText s) : s.length < text.length := by
  obtain ⟨⟨p, lexeme⟩, hrun, hfinish⟩ := Option.bind_eq_some_iff.mp h
  have hstart : Parser.Below 0 .start := Parser.below_of_idle (List.forall_mem_nil _) rfl
  have hp := (Parser.run_below hrun hstart).texts
  rw [Nat.zero_add, String.length_toList] at hp
  have hdocument : ∀ q : Position, q.document? = some v → TextsBelow text.length q.values →
      s.length < text.length := by
    rintro ⟨expected, frames⟩ hq hvalues
    cases expected with
    | nothing w =>
        obtain rfl : w = v := Option.some.inj hq
        exact hvalues w List.mem_cons_self s hs
    | _ => cases hq
  cases lexeme with
  | none => exact hdocument p hfinish hp
  | word cs =>
      obtain ⟨q, hq, hv⟩ := Option.bind_eq_some_iff.mp hfinish
      exact hdocument q hv (Parser.textsBelow_finishWord hq hp)
  | _ => cases hfinish

/-! ## The limit is never reached -/

/-- What a text holds is found within every limit above its length. The limit is there for the
recursion only. -/
theorem heldWithin?_eq_held? {text : String} {limit : Nat} (h : text.length < limit) :
    heldWithin? limit text = held? text := by
  induction limit using Nat.strongRecOn generalizing text with
  | ind limit ih =>
      cases limit with
      | zero => exact absurd h (Nat.not_lt_zero _)
      | succ limit =>
          rw [held?, heldWithin?, heldWithin?]
          refine Option.bind_congr fun v hv => resolve?_congr v fun s hs => ?_
          have hlt := hs.length_lt (Option.filter_eq_some_iff.mp hv).1
          rw [ih limit (Nat.lt_succ_self limit) (by omega)]
          exact (ih text.length h hlt).symm

/-- A text holds what its document stands for, if that can be held. -/
theorem held?_eq (text : String) :
    held? text = ((parse? text).filter isSound).bind (resolve? held?) := by
  rw [held?, heldWithin?]
  refine Option.bind_congr fun v hv => resolve?_congr v fun s hs => ?_
  exact heldWithin?_eq_held? (hs.length_lt (Option.filter_eq_some_iff.mp hv).1)

/-! ## Objects in memory -/

variable {read : String → Option Json}

theorem resolveMembers?_cons_eq_some_iff {k : Key} {v : Json} {ms held : List (Key × Json)} :
    resolveMembers? read ((k, v) :: ms) = some held ↔
      ∃ w rest, v.resolve? read = some w ∧ resolveMembers? read ms = some rest ∧
        held = (k, w) :: rest := by
  simp only [resolveMembers?, bind, Option.bind_eq_some_iff, pure, Option.some.injEq]
  constructor
  · rintro ⟨w, hw, rest, hrest, rfl⟩
    exact ⟨w, rest, hw, hrest, rfl⟩
  · rintro ⟨w, rest, hw, hrest, rfl⟩
    exact ⟨w, hw, rest, hrest, rfl⟩

/-- The names of members stay as they are. -/
theorem keys_of_resolveMembers? {ms held : List (Key × Json)}
    (h : resolveMembers? read ms = some held) : held.map Prod.fst = ms.map Prod.fst := by
  induction ms generalizing held with
  | nil =>
      cases h
      rfl
  | cons m ms ih =>
      obtain ⟨w, rest, -, hrest, rfl⟩ := resolveMembers?_cons_eq_some_iff.mp h
      rw [List.map_cons, List.map_cons, ih hrest]

theorem resolveMembers?_append_cons {before after held : List (Key × Json)} {k : Key} {v : Json}
    (h : resolveMembers? read (before ++ (k, v) :: after) = some held) :
    ∃ before' w after', held = before' ++ (k, w) :: after' ∧ v.resolve? read = some w ∧
      before'.map Prod.fst = before.map Prod.fst ∧ after'.map Prod.fst = after.map Prod.fst := by
  induction before generalizing held with
  | nil =>
      obtain ⟨w, rest, hw, hrest, rfl⟩ := resolveMembers?_cons_eq_some_iff.mp h
      exact ⟨[], w, rest, rfl, hw, rfl, keys_of_resolveMembers? hrest⟩
  | cons m before ih =>
      obtain ⟨u, rest, -, hrest, rfl⟩ := resolveMembers?_cons_eq_some_iff.mp h
      obtain ⟨before', w, after', rfl, hw, hbefore, hafter⟩ := ih hrest
      exact ⟨(m.1, u) :: before', w, after', rfl, hw, by rw [List.map_cons, List.map_cons, hbefore],
        hafter⟩

/-- An object is held member by member, unless its only member says that it stands for another
value. -/
theorem exists_held_of_resolve?_record {members : List (String × Json)} {v : Json}
    (hplain : ∀ text, members ≠ [(embeddedKey, .string text)])
    (h : (record members).resolve? read = some v) :
    ∃ held, resolveMembers? read (members.map fun e => (.ok e.1, e.2)) = some held ∧
      v = .object held := by
  rw [record, resolve?] at h
  split at h
  next text hembedded =>
    obtain ⟨text, rfl, -⟩ := Option.bind_eq_some_iff.mp h
    obtain ⟨e, rfl, he⟩ := List.map_eq_singleton_iff.mp (embedded?_eq_some_iff.mp hembedded)
    obtain ⟨hname, hvalue⟩ := Prod.mk.inj he
    exact absurd (congrArg (fun e => [e]) (Prod.ext (Except.ok.inj hname) hvalue)) (hplain text)
  next =>
    obtain ⟨held, hheld, rfl⟩ := Option.map_eq_some_iff.mp h
    exact ⟨held, hheld, rfl⟩

theorem exists_resolveMembers? {members : List (String × Json)}
    (h : ∀ e ∈ members, ∃ v, e.2.resolve? read = some v) :
    ∃ held, resolveMembers? read (members.map fun e => (.ok e.1, e.2)) = some held := by
  induction members with
  | nil => exact ⟨[], rfl⟩
  | cons e members ih =>
      obtain ⟨⟨v, hv⟩, hmembers⟩ := List.forall_mem_cons.mp h
      obtain ⟨rest, hrest⟩ := ih hmembers
      exact ⟨_, resolveMembers?_cons_eq_some_iff.mpr ⟨v, rest, hv, hrest, rfl⟩⟩

/-- A text that holds something is a document without faults, each part of which is held. -/
theorem exists_document_of_held? {text : String} {v : Json} (h : held? text = some v) :
    ∃ document, parse? text = some document ∧ document.isSound = true ∧
      document.resolve? held? = some v := by
  rw [held?_eq, Option.bind_eq_some_iff] at h
  obtain ⟨document, hdocument, hv⟩ := h
  obtain ⟨hparse, hsound⟩ := Option.filter_eq_some_iff.mp hdocument
  exact ⟨document, hparse, hsound, hv⟩

theorem held?_of_document {text : String} {document v : Json} (hparse : parse? text = some document)
    (hsound : document.isSound = true) (hv : document.resolve? held? = some v) :
    held? text = some v := by
  rw [held?_eq, hparse, Option.filter_some, if_pos hsound]
  exact hv

/-- What is spelled can be held in an array or an object: it is sound there, and so are the values
that it holds as texts. -/
structure CanStandInside (document : Json) : Prop where
  isSoundInside : document.IsSoundInside
  resolves : ∃ v, document.resolve? held? = some v

theorem canStandInside_of_held? {text : String} {document v : Json}
    (hparse : parse? text = some document) (hdepth : document.depth ≤ 126)
    (hheld : held? text = some v) : document.CanStandInside := by
  obtain ⟨document', hdocument, hsound, hresolve⟩ := exists_document_of_held? hheld
  obtain rfl := Option.some.inj (hparse.symm.trans hdocument)
  exact ⟨⟨(isSound_iff.mp hsound).1, Nat.lt_succ_of_le hdepth⟩, v, hresolve⟩

/-- An object is held when each of its members can be held inside it and its first name does not
say that it stands for another value. -/
theorem exists_held_of_record {text : String} {members : List (String × Json)}
    (hparse : parse? text = some (.record members))
    (hmembers : ∀ e ∈ members, e.2.CanStandInside)
    (hfirst : ∀ e ∈ members.head?, e.1 ≠ embeddedKey) :
    ∃ held, resolveMembers? held? (members.map fun e => (.ok e.1, e.2)) = some held ∧
      held? text = some (.object held) := by
  have hembedded : embedded? (members.map fun e => (.ok e.1, e.2)) = none := by
    cases members with
    | nil => rfl
    | cons e members => exact if_neg (hfirst e rfl)
  obtain ⟨held, hheld⟩ := exists_resolveMembers? fun e he => (hmembers e he).resolves
  refine ⟨held, hheld, held?_of_document hparse ?_ ?_⟩
  · exact isSound_record_iff.mpr fun e he => (hmembers e he).isSoundInside
  · rw [record, resolve?, hembedded, hheld]
    rfl

/-! ## Arrays in memory -/

theorem resolveItems?_eq_some_iff {items held : List Json} :
    resolveItems? read items = some held ↔
      List.Forall₂ (fun v w => v.resolve? read = some w) items held := by
  induction items generalizing held with
  | nil =>
      rw [List.forall₂_nil_left_iff, resolveItems?, Option.some.injEq]
      exact eq_comm
  | cons v items ih =>
      simp only [resolveItems?, bind, Option.bind_eq_some_iff, pure, Option.some.injEq,
        List.forall₂_cons_left_iff, ih]
      constructor
      · rintro ⟨w, hw, rest, hrest, rfl⟩
        exact ⟨w, rest, hw, hrest, rfl⟩
      · rintro ⟨w, rest, hw, hrest, rfl⟩
        exact ⟨w, hw, rest, hrest, rfl⟩

/-- Texts that hold something are documents. -/
theorem exists_documents_of_held? {texts : List String} {items : List Json}
    (h : List.Forall₂ (fun t u => held? t = some u) texts items) :
    ∃ documents, List.Forall₂ (fun t d => parse? t = some d) texts documents := by
  induction h with
  | nil => exact ⟨[], .nil⟩
  | cons ht _ ih =>
      obtain ⟨document, hparse, -⟩ := exists_document_of_held? ht
      obtain ⟨documents, hdocuments⟩ := ih
      exact ⟨document :: documents, .cons hparse hdocuments⟩

/-- What an array holds is what the texts of its items hold. -/
theorem exists_items_of_held?_arrayText {texts : List String} {documents : List Json} {v : Json}
    (htexts : List.Forall₂ (fun t d => parse? t = some d) texts documents)
    (h : held? (arrayText texts) = some v) :
    ∃ items, v = .array items ∧ List.Forall₂ (fun t u => held? t = some u) texts items := by
  obtain ⟨document, hparse, hsound, hresolve⟩ := exists_document_of_held? h
  obtain rfl := Option.some.inj ((parse?_arrayText htexts).symm.trans hparse)
  rw [resolve?, Option.map_eq_some_iff] at hresolve
  obtain ⟨items, hitems, rfl⟩ := hresolve
  rw [resolveItems?_eq_some_iff] at hitems
  refine ⟨items, rfl, ?_⟩
  have hinside := isSound_array_iff.mp hsound
  clear hparse hsound h
  induction htexts generalizing items with
  | nil =>
      cases hitems
      exact .nil
  | cons ht _ ih =>
      obtain _ | ⟨hv, hitems⟩ := hitems
      obtain ⟨hd, hdocuments⟩ := List.forall_mem_cons.mp hinside
      exact .cons (held?_of_document ht hd.isSound hv) (ih _ hitems hdocuments)

end Json
end StageRelay
