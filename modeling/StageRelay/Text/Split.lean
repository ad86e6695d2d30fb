/-!
# Cutting a text at a character

A text is cut at the first place where a given character stands; the character
itself belongs to neither part.
-/

namespace StageRelay.Text

/-- The text before the first `c`, or all of it when `c` does not occur. What follows
`c` is not told; `cut?` gives both parts. -/
def before (c : Char) (s : String) : String := String.ofList (s.toList.takeWhile (· != c))

/-- The two parts around the first `c`; none when `c` does not occur. -/
def cut? (c : Char) (s : String) : Option (String × String) :=
  match s.toList.dropWhile (· != c) with
  | [] => none
  | _ :: rest => some (before c s, String.ofList rest)

/-- All pieces between the occurrences of `c`; there is always at least one. -/
def pieces (c : Char) : List Char → List (List Char)
  | [] => [[]]
  | x :: xs =>
    if x = c then [] :: pieces c xs
    else
      match pieces c xs with
      | [] => [[x]]
      | p :: ps => (x :: p) :: ps

def startsWith (s head : String) : Bool := head.toList.isPrefixOf s.toList

/-- The rest of `s` after the text `head`; none when `s` does not start with it. -/
def after? (head s : String) : Option String :=
  if startsWith s head then some (String.ofList (s.toList.drop head.toList.length)) else none

def join (separator : String) : List String → String
  | [] => ""
  | [s] => s
  | s :: t :: rest => s ++ separator ++ join separator (t :: rest)

/-- A text without `c` is one piece. -/
theorem pieces_of_notMem {c : Char} {cs : List Char} (h : c ∉ cs) : pieces c cs = [cs] := by
  induction cs with
  | nil => rfl
  | cons d cs ih =>
      obtain ⟨hd, hcs⟩ := not_or.mp (mt List.mem_cons.mpr h)
      rw [pieces, if_neg (Ne.symm hd), ih hcs]

theorem pieces_ne_nil (c : Char) (cs : List Char) : pieces c cs ≠ [] := by
  cases cs with
  | nil => nofun
  | cons d cs =>
      rw [pieces]
      split
      · nofun
      · split <;> nofun

/-- The pieces before a `c` and those after it are all the pieces. -/
theorem pieces_append_cons (c : Char) (cs rest : List Char) :
    pieces c (cs ++ c :: rest) = pieces c cs ++ pieces c rest := by
  induction cs with
  | nil => exact if_pos rfl
  | cons d cs ih =>
      rw [List.cons_append, pieces, pieces, ih]
      split
      · rfl
      · obtain ⟨p, ps, hpieces⟩ := List.exists_cons_of_ne_nil (pieces_ne_nil c cs)
        rw [hpieces]
        rfl

end StageRelay.Text
