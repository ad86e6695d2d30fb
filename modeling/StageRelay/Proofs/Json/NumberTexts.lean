import StageRelay.Proofs.Json.Documents

/-!
# The texts of numbers

A number is written with an optional minus sign, digits that have no superfluous zero in front, and
after them an optional fraction and an optional exponent. What such a text is read as depends on
its form and on its size. A text with neither fraction nor exponent is read as the integer that it
spells if 64 bits can hold that integer; every other text, and a negative zero, is read as a binary
fraction, or not at all when it is too large.
-/

namespace StageRelay

namespace Text

/-- The characters are one or more decimal digits. -/
structure AreDigits (cs : List Char) : Prop where
  ne_nil : cs ≠ []
  isDigit : ∀ c ∈ cs, c.isDigit = true

end Text

namespace Numeral

open Text (AreDigits digitValues)

/-- The characters are an exponent: its letter, maybe a sign, and digits. -/
inductive IsExponent : List Char → Prop where
  | intro {letter : Char} {sign ds : List Char} (hletter : letter = 'e' ∨ letter = 'E')
      (hsign : sign = [] ∨ sign = ['+'] ∨ sign = ['-']) (hds : AreDigits ds) :
      IsExponent (letter :: (sign ++ ds))

/-- The parts of a number as it is written. The fraction is without its point, and the exponent with
its letter and its sign. -/
structure Written where
  negative : Bool
  whole : List Char
  fraction : Option (List Char)
  exponent : Option (List Char)

namespace Written

def chars (w : Written) : List Char :=
  (if w.negative then ['-'] else []) ++
    (w.whole ++ ((w.fraction.map ('.' :: ·)).getD [] ++ w.exponent.getD []))

def text (w : Written) : String := String.ofList w.chars

/-- The parts are those of a number literal: at least one digit in each part that is there, and no
zero in front of other digits. -/
structure IsLiteral (w : Written) : Prop where
  whole : AreDigits w.whole
  noLeadingZero : w.whole.head? = some '0' → w.whole = ['0']
  fraction : ∀ ds, w.fraction = some ds → AreDigits ds
  exponent : ∀ cs, w.exponent = some cs → IsExponent cs

def IsWhole (w : Written) : Prop := w.fraction = none ∧ w.exponent = none

/-- The magnitude of a number without fraction and exponent. -/
def value (w : Written) : Nat := Nat.ofDigitChars 10 w.whole 0

/-- The integer that a number without fraction and exponent spells. -/
def integer (w : Written) : Int := if w.negative then -w.value else w.value

/-- The power of ten that an exponent stands for. -/
def exponentValue : List Char → Int
  | _ :: '-' :: ds => -(Nat.ofDigitChars 10 ds 0 : Int)
  | _ :: '+' :: ds => Nat.ofDigitChars 10 ds 0
  | _ :: ds => Nat.ofDigitChars 10 ds 0
  | [] => 0

def power (w : Written) : Int := (w.exponent.map exponentValue).getD 0

/-- The number is an integer that 64 bits can hold, signed or not. Negative zero is none. -/
structure IsMachineInteger (w : Written) : Prop where
  isWhole : w.IsWhole
  atLeast : -(Nat.pow 2 63 : Nat) ≤ w.integer
  below : w.integer < (Nat.pow 2 64 : Nat)
  notNegativeZero : w.negative = true → w.value ≠ 0

end Written

variable {w : Written} {cs ds : List Char}

theorem digits_of_areDigits (h : AreDigits ds) :
    ∃ d rest, Text.digits ds = (d :: rest, []) ∧ digitValues ds = d :: rest := by
  have hdigits := Text.digits_of_isDigit h.isDigit
  obtain ⟨c, cs, rfl⟩ := List.exists_cons_of_ne_nil h.ne_nil
  exact ⟨_, _, hdigits, rfl⟩

/-- A digit is none of the characters that have a meaning of their own in a number. -/
theorem ne_of_isDigit {c d : Char} (hc : c.isDigit = true) (hd : d.isDigit = false) : c ≠ d := by
  rintro rfl
  rw [hc] at hd
  cases hd

/-- The power of ten that an exponent stands for, from its parts. -/
def powerOf : Option (Bool × List Nat) → Int
  | none => 0
  | some (minus, ds) => if minus then -(Text.digitsValue ds : Int) else Text.digitsValue ds

theorem exponentOf?_of_isExponent (h : IsExponent cs) :
    ∃ e, exponentOf? cs = some (some e) ∧ powerOf (some e) = Written.exponentValue cs := by
  obtain ⟨hletter, hsign, hds⟩ := h
  rename_i letter sign ds
  obtain ⟨d, rest, hdigits, hvalues⟩ := digits_of_areDigits hds
  have hvalue : Text.digitsValue (d :: rest) = Nat.ofDigitChars 10 ds 0 := by
    rw [← hvalues, Text.digitsValue_digitValues]
  rcases hsign with rfl | rfl | rfl
  · obtain ⟨c, cs, rfl⟩ := List.exists_cons_of_ne_nil hds.ne_nil
    have hc := hds.isDigit c List.mem_cons_self
    have hminus : c ≠ '-' := ne_of_isDigit hc rfl
    have hplus : c ≠ '+' := ne_of_isDigit hc rfl
    refine ⟨(false, d :: rest), by simp [exponentOf?, hletter, hdigits, hminus, hplus], ?_⟩
    simp [powerOf, hvalue, Written.exponentValue, hminus, hplus]
  · refine ⟨(false, d :: rest), by simp [exponentOf?, hletter, hdigits], ?_⟩
    simp [powerOf, hvalue, Written.exponentValue]
  · refine ⟨(true, d :: rest), by simp [exponentOf?, hletter, hdigits], ?_⟩
    simp [powerOf, hvalue, Written.exponentValue]

/-- There are digits, and a zero in front of them stands alone. -/
def IsProper (whole : List Nat) : Prop := ∃ d more, whole = d :: more ∧ (more = [] ∨ d ≠ 0)

variable {negative : Bool} {c : Char} {rest after : List Char} {whole fraction : List Nat}

theorem ofChars?_of_whole (hc : c ≠ '-') (hdigits : Text.digits (c :: cs) = (whole, rest))
    (hwhole : IsProper whole) (hrest : rest.head? ≠ some '.') :
    ofChars? ((if negative then ['-'] else []) ++ c :: cs) =
      (exponentOf? rest).map fun e => ⟨negative, whole, none, e⟩ := by
  obtain ⟨d, more, rfl, hzero⟩ := hwhole
  cases negative <;> cases rest <;> rcases hzero with rfl | hd <;> simp_all [ofChars?]

theorem ofChars?_of_fraction (hc : c ≠ '-') (hdigits : Text.digits (c :: cs) = (whole, '.' :: rest))
    (hwhole : IsProper whole) (hrest : Text.digits rest = (fraction, after))
    (hfraction : fraction ≠ []) :
    ofChars? ((if negative then ['-'] else []) ++ c :: cs) =
      (exponentOf? after).map fun e => ⟨negative, whole, some fraction, e⟩ := by
  obtain ⟨d, more, rfl, hzero⟩ := hwhole
  obtain ⟨f, fs, rfl⟩ := List.exists_cons_of_ne_nil hfraction
  cases negative <;> rcases hzero with rfl | hd <;> simp_all [ofChars?]

/-- The parts of a number are those of a number as it is written. Of an exponent only the power
counts, since a plus sign may be written or not. -/
structure IsOf (n : Numeral) (w : Written) : Prop where
  negative : n.negative = w.negative
  whole : n.whole = digitValues w.whole
  fraction : n.fraction = w.fraction.map digitValues
  exponent : n.exponent.isSome = w.exponent.isSome
  power : powerOf n.exponent = w.power

namespace Written

def tail (w : Written) : List Char := (w.fraction.map ('.' :: ·)).getD [] ++ w.exponent.getD []

theorem IsLiteral.exponentOf? (h : w.IsLiteral) :
    ∃ e, Numeral.exponentOf? (w.exponent.getD []) = some e ∧ e.isSome = w.exponent.isSome ∧
      powerOf e = w.power := by
  rw [power]
  cases hexponent : w.exponent with
  | none => exact ⟨none, rfl, rfl, rfl⟩
  | some cs =>
      obtain ⟨e, he, hpower⟩ := exponentOf?_of_isExponent (h.exponent cs hexponent)
      exact ⟨some e, he, rfl, hpower⟩

/-- An exponent begins with its letter. -/
theorem IsLiteral.head_exponent (h : w.IsLiteral) :
    ∀ c ∈ (w.exponent.getD []).head?, c = 'e' ∨ c = 'E' := by
  cases hexponent : w.exponent with
  | none => nofun
  | some cs =>
      obtain ⟨hletter, -, -⟩ := h.exponent cs hexponent
      rintro c ⟨⟩
      exact hletter

theorem IsLiteral.not_isDigit_exponent (h : w.IsLiteral) :
    ∀ c ∈ (w.exponent.getD []).head?, c.isDigit = false := by
  intro c hc
  rcases h.head_exponent c hc with rfl | rfl <;> rfl

/-- What stands behind the whole part does not go on with its digits. -/
theorem IsLiteral.not_isDigit_tail (h : w.IsLiteral) : ∀ c ∈ w.tail.head?, c.isDigit = false := by
  rw [tail]
  cases w.fraction with
  | none => exact h.not_isDigit_exponent
  | some ds =>
      rintro c ⟨⟩
      rfl

theorem IsLiteral.isProper_whole (h : w.IsLiteral) : IsProper (digitValues w.whole) := by
  obtain ⟨c, cs, hcs⟩ := List.exists_cons_of_ne_nil h.whole.ne_nil
  refine ⟨c.toNat - '0'.toNat, digitValues cs, by rw [hcs]; rfl, ?_⟩
  by_cases hc : c = '0'
  · left
    have hwhole := h.noLeadingZero (by rw [hcs, hc]; rfl)
    rw [hcs] at hwhole
    rw [(List.cons.inj hwhole).2]
    rfl
  · right
    have hdigit := h.whole.isDigit c (hcs ▸ List.mem_cons_self)
    have hle : '0'.toNat ≤ c.toNat := by
      simp only [Char.isDigit, Bool.and_eq_true, decide_eq_true_eq] at hdigit
      exact hdigit.1
    intro hzero
    exact hc (Char.toNat_inj.mp (by omega))

/-- The reader takes a number literal apart into its parts. -/
theorem IsLiteral.exists_ofChars? (h : w.IsLiteral) :
    ∃ n : Numeral, ofChars? w.chars = some n ∧ n.IsOf w := by
  obtain ⟨c, cs, hcs⟩ := List.exists_cons_of_ne_nil h.whole.ne_nil
  have hminus : c ≠ '-' := ne_of_isDigit (h.whole.isDigit c (hcs ▸ List.mem_cons_self)) rfl
  obtain ⟨e, he, hsome, hpower⟩ := h.exponentOf?
  have hdigits : Text.digits (w.whole ++ w.tail) = (digitValues w.whole, w.tail) :=
    Text.digits_append h.whole.isDigit h.not_isDigit_tail
  have hproper := h.isProper_whole
  rw [chars, ← tail]
  rw [hcs] at hproper
  rw [hcs, List.cons_append] at hdigits
  cases hfraction : w.fraction with
  | none =>
      have htail : w.tail = w.exponent.getD [] := by rw [tail, hfraction]; rfl
      have hpoint : (w.exponent.getD []).head? ≠ some '.' := by
        intro hhead
        rcases h.head_exponent '.' hhead with heq | heq <;> cases heq
      rw [htail] at hdigits
      refine ⟨⟨w.negative, digitValues w.whole, none, e⟩, ?_, rfl, rfl, by rw [hfraction]; rfl,
        hsome, hpower⟩
      rw [htail, hcs, List.cons_append,
        ofChars?_of_whole hminus hdigits hproper hpoint, he]
      rfl
  | some ds =>
      have htail : w.tail = '.' :: (ds ++ w.exponent.getD []) := by rw [tail, hfraction]; rfl
      have hds := h.fraction ds hfraction
      have hfractionDigits : Text.digits (ds ++ w.exponent.getD []) =
          (digitValues ds, w.exponent.getD []) :=
        Text.digits_append hds.isDigit h.not_isDigit_exponent
      have hne : digitValues ds ≠ [] := by simpa [digitValues] using hds.ne_nil
      rw [htail] at hdigits
      refine ⟨⟨w.negative, digitValues w.whole, some (digitValues ds), e⟩, ?_, rfl, rfl,
        by rw [hfraction]; rfl, hsome, hpower⟩
      rw [htail, hcs, List.cons_append,
        ofChars?_of_fraction hminus hdigits hproper hfractionDigits hne, he]
      rfl

end Written

/-! ## Classification -/

/-- What a numeral denotes is a number, or nothing. -/
theorem toJson_cases (n : Numeral) :
    (∃ x, n.toJson = .number x) ∨ n.toJson = .faulty .numberOutOfRange := by
  rw [toJson]
  cases n.integer? with
  | some i => exact .inl ⟨_, rfl⟩
  | none =>
      cases n.magnitude? with
      | some m => exact .inl ⟨_, rfl⟩
      | none => exact .inr rfl

variable {n : Numeral}

theorem isPlain_toJson (n : Numeral) : n.toJson.isPlain = true := by
  rcases n.toJson_cases with ⟨x, hx⟩ | hx
  · rw [hx]
    rfl
  · rw [hx]
    rfl

theorem depth_toJson (n : Numeral) : n.toJson.depth = 0 := by
  rcases n.toJson_cases with ⟨x, hx⟩ | hx
  · rw [hx]
    rfl
  · rw [hx]
    rfl

theorem toJson_ne_string (n : Numeral) (s : String) : n.toJson ≠ .string s := by
  rcases n.toJson_cases with ⟨x, hx⟩ | hx
  · rw [hx]
    exact Json.noConfusion
  · rw [hx]
    exact Json.noConfusion

/-- What a numeral denotes is no number when it is neither an integer nor a binary fraction. -/
theorem toJson_eq_faulty_iff :
    n.toJson = .faulty .numberOutOfRange ↔ n.integer? = none ∧ n.magnitude? = none := by
  rw [toJson]
  cases n.integer? <;> cases n.magnitude? <;> simp

theorem IsOf.digitsValue_whole (h : n.IsOf w) : Text.digitsValue n.whole = w.value := by
  rw [h.whole, Text.digitsValue_digitValues]
  rfl

theorem integer?_of_isMachineInteger (h : n.IsOf w) (hw : w.IsMachineInteger) :
    n.integer? = some w.integer := by
  obtain ⟨⟨hfraction, hexponent⟩, hatLeast, hbelow, hzero⟩ := hw
  have hmax : maxSignificand + 1 = Nat.pow 2 64 := rfl
  have hhalf : UInt64.size / 2 = Nat.pow 2 63 := rfl
  rw [Written.integer] at hatLeast hbelow ⊢
  rw [integer?, h.negative, h.digitsValue_whole, h.fraction, h.exponent, hfraction, hexponent]
  cases hnegative : w.negative with
  | true =>
      have hpositive := Nat.pos_of_ne_zero (hzero hnegative)
      have hfits : w.value ≤ UInt64.size / 2 := by
        rw [hnegative, if_pos rfl] at hatLeast
        omega
      simp [hpositive, hfits]
  | false =>
      have hfits : w.value ≤ maxSignificand := by
        rw [hnegative, if_neg Bool.false_ne_true] at hbelow
        omega
      simp [hfits]

theorem integer?_of_not_isMachineInteger (h : n.IsOf w) (hw : ¬ w.IsMachineInteger) :
    n.integer? = none := by
  have hmax : maxSignificand + 1 = Nat.pow 2 64 := rfl
  have hhalf : UInt64.size / 2 = Nat.pow 2 63 := rfl
  rw [integer?, h.negative, h.digitsValue_whole, h.fraction, h.exponent,
    Option.isSome_map]
  by_cases hwhole : w.IsWhole
  · obtain ⟨hfraction, hexponent⟩ := hwhole
    rw [hfraction, hexponent]
    cases hnegative : w.negative with
    | true =>
        have hbeyond : ¬ (0 < w.value ∧ w.value ≤ UInt64.size / 2) := by
          rintro ⟨hpositive, hfits⟩
          have hinteger : w.integer = -w.value := if_pos hnegative
          exact hw ⟨⟨hfraction, hexponent⟩, by omega, by omega,
            fun _ => Nat.pos_iff_ne_zero.mp hpositive⟩
        simp [hbeyond]
    | false =>
        have hbeyond : ¬ w.value ≤ maxSignificand := by
          intro hfits
          have hinteger : w.integer = w.value := if_neg (Bool.not_eq_true _ ▸ hnegative)
          refine hw ⟨⟨hfraction, hexponent⟩, by omega, by omega, fun htrue => ?_⟩
          rw [hnegative] at htrue
          cases htrue
        simp [hbeyond]
  · have hsome : (w.fraction.isSome || w.exponent.isSome) = true := by
      rw [Bool.or_eq_true, Option.isSome_iff_ne_none, Option.isSome_iff_ne_none]
      exact Classical.not_and_iff_not_or_not.mp hwhole
    exact if_pos hsome

namespace Written

theorem isWordChar_of_isDigit {c : Char} (h : c.isDigit = true) : Json.isWordChar c = true := by
  simp [Json.isWordChar, Char.isAlphanum, h]

theorem isWordChar_of_isExponent (h : IsExponent cs) : ∀ c ∈ cs, Json.isWordChar c = true := by
  obtain ⟨hletter, hsign, hds⟩ := h
  rw [List.forall_mem_cons, List.forall_mem_append]
  refine ⟨?_, ?_, fun c hc => isWordChar_of_isDigit (hds.isDigit c hc)⟩
  · rcases hletter with rfl | rfl <;> rfl
  · rcases hsign with rfl | rfl | rfl <;> simp [Json.isWordChar]

/-- A number literal is one word. -/
theorem IsLiteral.isWordChar (h : w.IsLiteral) : ∀ c ∈ w.chars, Json.isWordChar c = true := by
  rw [chars, List.forall_mem_append, List.forall_mem_append, List.forall_mem_append]
  refine ⟨?_, fun c hc => isWordChar_of_isDigit (h.whole.isDigit c hc), ?_, ?_⟩
  · cases w.negative <;> simp [Json.isWordChar]
  · cases hfraction : w.fraction with
    | none => nofun
    | some ds =>
        refine List.forall_mem_cons.mpr ⟨rfl, fun c hc => ?_⟩
        exact isWordChar_of_isDigit ((h.fraction ds hfraction).isDigit c hc)
  · cases hexponent : w.exponent with
    | none => nofun
    | some cs => exact isWordChar_of_isExponent (h.exponent cs hexponent)

/-- A number literal begins with a minus sign or a digit. -/
theorem IsLiteral.head_chars (h : w.IsLiteral) :
    ∃ c cs, w.chars = c :: cs ∧ (c = '-' ∨ c.isDigit = true) := by
  obtain ⟨c, cs, hcs⟩ := List.exists_cons_of_ne_nil h.whole.ne_nil
  have hc := h.whole.isDigit c (hcs ▸ List.mem_cons_self)
  rw [chars, hcs]
  cases w.negative with
  | false => exact ⟨c, _, rfl, .inr hc⟩
  | true => exact ⟨'-', _, rfl, .inl rfl⟩

end Written

end Numeral

namespace Json

open Numeral (Written)

variable {w : Written}

/-- The machine takes word characters into the word under way. -/
theorem Parser.run_word {cs : List Char} (h : ∀ c ∈ cs, isWordChar c = true) (p : Position)
    (word : List Char) : run ⟨p, .word word⟩ cs = some ⟨p, .word (cs.reverse ++ word)⟩ := by
  induction cs generalizing word with
  | nil => rfl
  | cons c cs ih =>
      obtain ⟨hc, hcs⟩ := List.forall_mem_cons.mp h
      simp only [run, step, hc, if_true, ih hcs]
      rw [List.reverse_cons, List.append_assoc]
      rfl

/-- A text that is one word has the value of the word. -/
theorem parse?_ofList_of_isWordChar {c : Char} {cs : List Char}
    (h : ∀ d ∈ c :: cs, isWordChar d = true) (hspace : isSpace c = false) (hquote : c ≠ '"') :
    parse? (String.ofList (c :: cs)) = word? (c :: cs) := by
  obtain ⟨hc, hcs⟩ := List.forall_mem_cons.mp h
  have hfirst : Parser.start.step c = some ⟨.start, .word [c]⟩ := by
    simp [Parser.start, Parser.step, Parser.between, hspace, hquote, hc]
  rw [parse?, String.toList_ofList, Parser.run, hfirst]
  simp only [Parser.run_word hcs, Option.bind_some, Parser.finish, Parser.finishWord,
    List.reverse_append, List.reverse_reverse, List.reverse_singleton, List.singleton_append]
  cases word? (c :: cs) <;> rfl

/-- A number literal is read as the number it denotes. -/
theorem exists_parse?_text (h : w.IsLiteral) :
    ∃ n : Numeral, parse? w.text = some n.toJson ∧ n.IsOf w := by
  obtain ⟨n, hn, hof⟩ := h.exists_ofChars?
  refine ⟨n, ?_, hof⟩
  obtain ⟨c, cs, hcs, hc⟩ := h.head_chars
  have hwords := h.isWordChar
  have hletter : c ≠ 'n' ∧ c ≠ 't' ∧ c ≠ 'f' ∧ c ≠ '"' ∧ isSpace c = false := by
    rcases hc with rfl | hc
    · decide
    · refine ⟨Numeral.ne_of_isDigit hc rfl, Numeral.ne_of_isDigit hc rfl,
        Numeral.ne_of_isDigit hc rfl, Numeral.ne_of_isDigit hc rfl, ?_⟩
      simp [isSpace, Numeral.ne_of_isDigit hc]
  obtain ⟨hnull, htrue, hfalse, hquote, hspace⟩ := hletter
  rw [hcs] at hn hwords
  rw [Written.text, hcs, parse?_ofList_of_isWordChar hwords hspace hquote, word?, if_neg, if_neg,
    if_neg, hn]
  · rfl
  · exact fun heq => hfalse (List.cons.inj heq).1
  · exact fun heq => htrue (List.cons.inj heq).1
  · exact fun heq => hnull (List.cons.inj heq).1

/-- A number literal is held as the integer that it spells if 64 bits can hold that, and else as a
binary fraction, if it is held at all. -/
theorem held?_text (h : w.IsLiteral) :
    (w.IsMachineInteger ∧ held? w.text = some (.number (.integer w.integer))) ∨
      (¬ w.IsMachineInteger ∧ ((∃ x, held? w.text = some (.number (.real x))) ∨
        held? w.text = none)) := by
  obtain ⟨n, hparse, hof⟩ := exists_parse?_text h
  by_cases hw : w.IsMachineInteger
  · rw [Numeral.toJson, Numeral.integer?_of_isMachineInteger hof hw] at hparse
    exact .inl ⟨hw, held?_of_isPlain hparse rfl⟩
  · rw [Numeral.toJson, Numeral.integer?_of_not_isMachineInteger hof hw] at hparse
    cases hmagnitude : n.magnitude? with
    | some m =>
        simp only [hmagnitude] at hparse
        exact .inr ⟨hw, .inl ⟨_, held?_of_isPlain hparse rfl⟩⟩
    | none =>
        simp only [hmagnitude] at hparse
        exact .inr ⟨hw, .inr (held?_of_isPlain hparse rfl)⟩

/-- What a number literal is held as is a number. -/
theorem number_of_held?_text (h : w.IsLiteral) {v : Json} (hv : held? w.text = some v) :
    (w.IsMachineInteger ∧ v = .number (.integer w.integer)) ∨
      (¬ w.IsMachineInteger ∧ ∃ x, v = .number (.real x)) := by
  rcases held?_text h with ⟨hmachine, hheld⟩ | ⟨hmachine, ⟨x, hheld⟩ | hheld⟩
  · exact .inl ⟨hmachine, Option.some.inj (hv.symm.trans hheld)⟩
  · exact .inr ⟨hmachine, x, Option.some.inj (hv.symm.trans hheld)⟩
  · rw [hheld] at hv
    cases hv

/-- A number is held if its document is sound. -/
theorem exists_held?_of_isSound {text : String} {n : Numeral} (hn : parse? text = some n.toJson)
    (hsound : n.toJson.isSound = true) : ∃ v, held? text = some v :=
  ⟨n.toJson, by rw [held?_of_isPlain hn n.isPlain_toJson, if_pos hsound]⟩

end Json
end StageRelay
