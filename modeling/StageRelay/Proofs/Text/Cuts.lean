import Mathlib.Data.List.TakeWhile
import StageRelay.Text.Blank
import StageRelay.Text.Split

/-!
# Where texts are cut and what is trimmed

A text is cut at a character when the part before it does not have the character, and it is trimmed
to what neither begins nor ends with a blank, with nothing but blanks around it. Either can be said
of the text and its parts alone, and is then so in one way only.
-/

namespace StageRelay.Text

variable {c : Char} {s t head tail : String}

theorem cut?_eq_some_iff :
    cut? c s = some (head, tail) ↔ s = head ++ String.singleton c ++ tail ∧ c ∉ head.toList := by
  have hsplit := List.takeWhile_append_dropWhile (p := (· != c)) (l := s.toList)
  constructor
  · intro h
    rw [cut?] at h
    split at h
    next => cases h
    next x rest hdrop =>
      have hfirst := List.head?_dropWhile_not (· != c) s.toList
      rw [hdrop] at hsplit hfirst
      obtain rfl : x = c := by simpa using hfirst
      obtain ⟨rfl, rfl⟩ := Prod.mk.inj (Option.some.inj h)
      refine ⟨?_, fun hmem => ?_⟩
      · rw [← String.toList_inj, ← hsplit]
        simp [before]
      · rw [before, String.toList_ofList] at hmem
        simpa using List.all_eq_true.mp List.all_takeWhile x hmem
  · rintro ⟨rfl, h⟩
    have hhead : ∀ x ∈ head.toList, (x != c) = true := by
      intro x hx
      rw [bne_iff_ne]
      rintro rfl
      exact h hx
    have hlist : (head ++ String.singleton c ++ tail).toList = head.toList ++ c :: tail.toList := by
      simp
    rw [cut?, before, hlist, List.dropWhile_append_of_pos hhead, List.takeWhile_append_of_pos hhead]
    simp

theorem cut?_eq_none_iff : cut? c s = none ↔ c ∉ s.toList := by
  rw [cut?]
  split
  next hdrop =>
    refine iff_of_true rfl fun hmem => ?_
    simpa using List.dropWhile_eq_nil_iff.mp hdrop c hmem
  next x rest hdrop =>
    refine iff_of_false (Option.some_ne_none _) fun hmem => ?_
    have hnil : s.toList.dropWhile (· != c) = [] := List.dropWhile_eq_nil_iff.mpr fun y hy => by
      rw [bne_iff_ne]
      rintro rfl
      exact hmem hy
    rw [hnil] at hdrop
    cases hdrop

theorem after?_eq_some_iff : after? head s = some tail ↔ s = head ++ tail := by
  rw [after?, startsWith]
  constructor
  · intro h
    split at h
    next hstarts =>
      obtain ⟨rest, hrest⟩ := List.isPrefixOf_iff_prefix.mp hstarts
      rw [← Option.some.inj h, ← String.toList_inj, ← hrest, List.drop_left]
      simp [hrest]
    next => cases h
  · rintro rfl
    have hstarts : head.toList.isPrefixOf (head ++ tail).toList = true := by
      rw [String.toList_append]
      exact List.isPrefixOf_iff_prefix.mpr (List.prefix_append _ _)
    rw [if_pos hstarts]
    simp

theorem after?_eq_none_iff : after? head s = none ↔ ∀ tail, s ≠ head ++ tail := by
  rw [Option.eq_none_iff_forall_ne_some]
  exact forall_congr' fun tail => not_congr after?_eq_some_iff

def IsAllBlank (s : String) : Prop := ∀ c ∈ s.toList, isBlank c = true

/-- A text and what is left of it without the blanks around it: blanks on both sides are gone, and
no blank is left at either end. -/
structure TrimsTo (s t : String) : Prop where
  around : ∃ before after, s = before ++ t ++ after ∧ IsAllBlank before ∧ IsAllBlank after
  head : ∀ c, t.toList.head? = some c → isBlank c = false
  last : ∀ c, t.toList.getLast? = some c → isBlank c = false

/-- No blank is first behind the blanks at the start. -/
theorem not_isBlank_head_dropWhile {cs : List Char} {c : Char}
    (h : (cs.dropWhile isBlank).head? = some c) : isBlank c = false := by
  have hfirst := List.head?_dropWhile_not isBlank cs
  rw [h] at hfirst
  exact hfirst

theorem trimsTo_trim (s : String) : TrimsTo s (trim s) := by
  have hstart := List.takeWhile_append_dropWhile (p := isBlank) (l := s.toList)
  have hinner : s.toList.dropWhile isBlank = trimChars s.toList ++
      ((s.toList.dropWhile isBlank).reverse.takeWhile isBlank).reverse := by
    rw [← List.reverse_inj]
    simp [trimChars]
  refine ⟨⟨String.ofList (s.toList.takeWhile isBlank), String.ofList
    ((s.toList.dropWhile isBlank).reverse.takeWhile isBlank).reverse, ?_, ?_, ?_⟩, ?_, ?_⟩
  · rw [← String.toList_inj]
    simp only [String.toList_append, String.toList_ofList, toList_trim, List.append_assoc]
    rw [← hinner, hstart]
  · intro c hc
    rw [String.toList_ofList] at hc
    exact List.all_eq_true.mp List.all_takeWhile c hc
  · intro c hc
    rw [String.toList_ofList, List.mem_reverse] at hc
    exact List.all_eq_true.mp List.all_takeWhile c hc
  · intro c hc
    rw [toList_trim] at hc
    have hfirst : (s.toList.dropWhile isBlank).head? = some c := by
      rw [hinner, List.head?_append, hc]
      rfl
    exact not_isBlank_head_dropWhile hfirst
  · intro c hc
    rw [toList_trim, trimChars, List.getLast?_reverse] at hc
    exact not_isBlank_head_dropWhile hc

/-- What the blanks around a text are, is told by the text. -/
theorem TrimsTo.eq (h : TrimsTo s t) : trim s = t := by
  obtain ⟨⟨before, after, rfl, hbefore, hafter⟩, hhead, hlast⟩ := h
  have hkept : ∀ l : List Char, (∀ c, l.head? = some c → isBlank c = false) →
      l.dropWhile isBlank = l := by
    intro l hl
    cases l with
    | nil => rfl
    | cons c l => exact List.dropWhile_cons_of_neg (by simp [hl c rfl])
  rw [← String.toList_inj, toList_trim, trimChars, String.toList_append, String.toList_append,
    List.append_assoc, List.dropWhile_append_of_pos hbefore]
  cases hchars : t.toList with
  | nil =>
      rw [List.nil_append, List.dropWhile_eq_nil_iff.mpr hafter]
      rfl
  | cons c cs =>
      rw [hkept (c :: cs ++ after.toList) fun d hd => hhead d (by rw [hchars]; exact hd),
        List.reverse_append, List.dropWhile_append_of_pos, hkept, List.reverse_reverse]
      · intro d hd
        refine hlast d ?_
        rw [hchars, ← List.head?_reverse]
        exact hd
      · intro d hd
        exact hafter d (List.mem_reverse.mp hd)

theorem trim_eq_iff : trim s = t ↔ TrimsTo s t :=
  ⟨fun h => h ▸ trimsTo_trim s, TrimsTo.eq⟩

theorem trim_eq_empty_iff : trim s = "" ↔ IsAllBlank s := by
  rw [trim_eq_iff]
  constructor
  · rintro ⟨⟨before, after, rfl, hbefore, hafter⟩, -, -⟩ c hc
    simp only [String.append_empty, String.toList_append, List.mem_append] at hc
    exact hc.elim (hbefore c) (hafter c)
  · intro h
    refine ⟨⟨s, "", by simp, h, ?_⟩, ?_, ?_⟩
    all_goals
      intro c hc
      simp at hc

end StageRelay.Text
