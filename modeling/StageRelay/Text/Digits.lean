/-!
# Decimal digits

The value of a digit, of a run of digits at the front of a text, and of a text
that is nothing but digits. Only the ten ASCII digits count.
-/

namespace StageRelay.Text

def digit? (c : Char) : Option Nat :=
  if '0' ≤ c ∧ c ≤ '9' then some (c.toNat - '0'.toNat) else none

/-- The longest run of digits at the front, by value, and the rest. -/
def digits : List Char → List Nat × List Char
  | [] => ([], [])
  | c :: cs =>
    match digit? c with
    | none => ([], c :: cs)
    | some d => (d :: (digits cs).1, (digits cs).2)

def digitsValue (ds : List Nat) : Nat := ds.foldl (fun n d => 10 * n + d) 0

/-- The number that a text of one or more digits spells. -/
def number? (cs : List Char) : Option Nat :=
  match digits cs with
  | (d :: ds, []) => some (digitsValue (d :: ds))
  | _ => none

/-- The number that a text spells, with an optional plus sign before the digits,
if it is below a bound. -/
def natural? (bound : Nat) (cs : List Char) : Option Nat :=
  (number? (match cs with
    | '+' :: r => r
    | r => r)).filter (· < bound)

def hexDigit? (c : Char) : Option Nat :=
  if '0' ≤ c ∧ c ≤ '9' then some (c.toNat - '0'.toNat)
  else if 'a' ≤ c ∧ c ≤ 'f' then some (c.toNat - 'a'.toNat + 10)
  else if 'A' ≤ c ∧ c ≤ 'F' then some (c.toNat - 'A'.toNat + 10)
  else none

/-- A number in decimal digits, with zeros before it up to a width. -/
def padded (width n : Nat) : List Char :=
  let ds := Nat.toDigits 10 n
  List.replicate (width - ds.length) '0' ++ ds

@[simp] theorem digits_nil : digits [] = ([], []) := rfl

theorem digit?_eq (c : Char) :
    digit? c = if c.isDigit then some (c.toNat - '0'.toNat) else none := by
  simp [digit?, Char.isDigit, Char.le_def]

def digitValues (cs : List Char) : List Nat := cs.map fun c => c.toNat - '0'.toNat

/-- Digits are taken up to the first character that is none. -/
theorem digits_append {cs rest : List Char} (h : ∀ c ∈ cs, c.isDigit = true)
    (hrest : ∀ c ∈ rest.head?, c.isDigit = false) :
    digits (cs ++ rest) = (digitValues cs, rest) := by
  induction cs with
  | nil =>
      cases rest with
      | nil => rfl
      | cons c rest =>
          have hc := hrest c rfl
          simp [digits, digit?_eq, hc, digitValues]
  | cons c cs ih =>
      obtain ⟨hc, hcs⟩ := List.forall_mem_cons.mp h
      rw [List.cons_append, digits, digit?_eq, if_pos hc, ih hcs]
      rfl

theorem digits_of_isDigit {cs : List Char} (h : ∀ c ∈ cs, c.isDigit = true) :
    digits cs = (digitValues cs, []) := by
  have hdigits : digits (cs ++ []) = (digitValues cs, []) := digits_append h nofun
  rwa [List.append_nil] at hdigits

/-- The value of digits is the one that the library gives to them. -/
theorem digitsValue_digitValues (cs : List Char) :
    digitsValue (digitValues cs) = Nat.ofDigitChars 10 cs 0 := by
  rw [digitsValue, digitValues, List.foldl_map]
  rfl

theorem isDigit_of_mem_toDigits {n : Nat} : ∀ c ∈ Nat.toDigits 10 n, c.isDigit = true :=
  fun _ hc => Nat.isDigit_of_mem_toDigits (by decide) (by decide) hc

/-- A number is read back from its decimal digits. -/
theorem number?_toDigits (n : Nat) : number? (Nat.toDigits 10 n) = some n := by
  rw [number?, digits_of_isDigit isDigit_of_mem_toDigits]
  obtain ⟨c, cs, hdigits⟩ := List.exists_cons_of_ne_nil (Nat.toDigits_ne_nil (n := n) (b := 10))
  have hvalue : digitsValue (digitValues (Nat.toDigits 10 n)) = n := by
    rw [digitsValue_digitValues]
    exact Nat.ofDigitChars_toDigits (by decide) (by decide)
  rw [hdigits] at hvalue ⊢
  exact congrArg some hvalue

theorem natural?_toDigits {bound n : Nat} (h : n < bound) :
    natural? bound (Nat.toDigits 10 n) = some n := by
  have hsign : ∀ r, Nat.toDigits 10 n = '+' :: r → False := by
    intro r hr
    have hplus : ('+' : Char).isDigit = true :=
      isDigit_of_mem_toDigits (n := n) '+' (by rw [hr]; exact List.mem_cons_self)
    exact absurd hplus (by decide)
  rw [natural?, number?_toDigits]
  · simp [h]
  · exact hsign

end StageRelay.Text
