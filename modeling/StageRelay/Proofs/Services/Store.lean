import StageRelay.Proofs.Files.Appending
import StageRelay.Services.Stamp
import StageRelay.Services.Store
import StageRelay.Text.Split

/-!
# What is in the store

The store keeps everything that was in it. What is added are the records of just those payloads that
were answered as stored, in the order in which they were handled; of the others nothing is left. If
there was nothing before, the payloads are found again in what is there: each record is a line, and
the payload is what stands behind the first separator in it, whether it has separators in it or not.
-/

namespace StageRelay

namespace Store

variable {σ ε : Type}

/-! ## One payload after the other -/

/-- A payload that is handled, the time stamp of its record, and the operation by which the record
is written then. The operation may fail for one payload and not for another. -/
structure Arrival (σ ε : Type) where
  stamp : String
  payload : ByteArray
  append : σ → String → Except ε σ

def Arrival.record (a : Arrival σ ε) : String := Store.record a.stamp a.payload

/-- Handles payloads one after the other. Each finds the store as those before it have left it, be
they written or not. -/
def handleAll : List (Arrival σ ε) → σ → List Answer × σ
  | [], s => ([], s)
  | a :: as, s =>
    let one := handle a.append a.stamp a.payload s
    let rest := handleAll as one.2
    (one.1 :: rest.1, rest.2)

def stored (as : List (Arrival σ ε)) (answers : List Answer) : List (Arrival σ ε) :=
  ((as.zip answers).filter fun e => e.2.status = storedStatus).map Prod.fst

/-- The operation adds the whole text at the end of the content, or it fails. A part of the text is
never written. -/
def Appends (content : σ → ByteArray) (append : σ → String → Except ε σ) : Prop :=
  ∀ s text s', append s text = .ok s' → content s' = content s ++ text.toUTF8

variable {content : σ → ByteArray} {a : Arrival σ ε} {as : List (Arrival σ ε)} {s : σ}

def storedAnswer : Answer := ⟨201, "stored".toUTF8⟩

def failedAnswer : Answer := ⟨500, "store write failed".toUTF8⟩

/-- A payload is stored when its record could be written, and else nothing happens. -/
theorem handle_cases (a : Arrival σ ε) (s : σ) :
    (∃ s', a.append s a.record = .ok s' ∧
      handle a.append a.stamp a.payload s = (storedAnswer, s')) ∨
    (∃ e, a.append s a.record = .error e ∧
      handle a.append a.stamp a.payload s = (failedAnswer, s)) := by
  rw [handle, ← Arrival.record]
  cases a.append s a.record with
  | ok s' => exact .inl ⟨s', rfl, rfl⟩
  | error e => exact .inr ⟨e, rfl, rfl⟩

@[simp] theorem stored_cons_stored (a : Arrival σ ε) (as : List (Arrival σ ε))
    (answers : List Answer) :
    stored (a :: as) (storedAnswer :: answers) = a :: stored as answers := rfl

@[simp] theorem stored_cons_failed (a : Arrival σ ε) (as : List (Arrival σ ε))
    (answers : List Answer) :
    stored (a :: as) (failedAnswer :: answers) = stored as answers := rfl

theorem length_handleAll (as : List (Arrival σ ε)) (s : σ) :
    (handleAll as s).1.length = as.length := by
  induction as generalizing s with
  | nil => rfl
  | cons a as ih => exact congrArg Nat.succ (ih _)

/-- The payloads before one have been handled when its turn comes. -/
theorem getElem?_handleAll (before : List (Arrival σ ε)) (a : Arrival σ ε)
    (after : List (Arrival σ ε)) (s : σ) :
    (handleAll (before ++ a :: after) s).1[before.length]? =
      some (handle a.append a.stamp a.payload (handleAll before s).2).1 := by
  induction before generalizing s with
  | nil => rfl
  | cons b before ih => exact ih _

/-- What the answers say has happened to the content: the records of the payloads that are answered
as stored, in order, and nothing of the others. -/
theorem content_handleAll (h : ∀ a ∈ as, Appends content a.append) (s : σ) :
    content (handleAll as s).2 = content s ++
      (String.join ((stored as (handleAll as s).1).map Arrival.record)).toUTF8 := by
  induction as generalizing s with
  | nil => exact ByteArray.append_empty.symm
  | cons a as ih =>
      obtain ⟨ha, has⟩ := List.forall_mem_cons.mp h
      obtain ⟨s', happend, hhandle⟩ | ⟨e, -, hhandle⟩ := handle_cases a s
      · simp only [handleAll, hhandle, stored_cons_stored, List.map_cons, String.join_cons]
        rw [ih has s', ha s a.record s' happend, ByteArray.append_assoc]
        exact congrArg _ String.toByteArray_append.symm
      · simp only [handleAll, hhandle, stored_cons_failed]
        exact ih has s

/-! ## Records -/

/-- What stands behind the first separator of a line; none when there is no separator. -/
def payloadOf? : List Char → Option (List Char)
  | [] => none
  | c :: cs =>
    if separator.toList.isPrefixOf (c :: cs) then some ((c :: cs).drop separator.toList.length)
    else payloadOf? cs

/-- The payloads in a file: what stands behind the first separator of each of its lines. The first
line is empty, since every record begins with a line break. -/
def payloads? (bytes : ByteArray) : Option (List ByteArray) :=
  (String.fromUTF8? bytes).bind fun text =>
    (Text.pieces '\n' text.toList).tail.mapM fun line =>
      (payloadOf? line).map fun cs => (String.ofList cs).toUTF8

/-- The time stamp ends with the first characters of a separator, so that with the blank behind it
there is one separator more. -/
def BeginsSeparator (stamp : String) : Prop := [' ', '-'] <:+ stamp.toList

instance (stamp : String) : Decidable (BeginsSeparator stamp) :=
  inferInstanceAs (Decidable ([' ', '-'] <:+ stamp.toList))

/-- The time stamp has neither a line break nor a separator in it. -/
structure IsClear (stamp : String) : Prop where
  noLineBreak : '\n' ∉ stamp.toList
  noSeparator : ¬ separator.toList <:+: stamp.toList

/-- A separator that begins in a time stamp ends in it, or else the stamp ends in its middle. -/
theorem isPrefixOf_separator {c : Char} {stamp : List Char}
    (hseparator : ¬ separator.toList <:+: c :: stamp) (hbegun : ¬ [' ', '-'] <:+ c :: stamp)
    (cs : List Char) :
    separator.toList.isPrefixOf (c :: (stamp ++ (separator.toList ++ cs))) = false := by
  rw [Bool.eq_false_iff, ne_eq, List.isPrefixOf_iff_prefix]
  rintro ⟨rest, hrest⟩
  match stamp with
  | [] => cases hrest
  | [d] =>
      cases hrest
      exact hbegun List.suffix_rfl
  | d :: e :: stamp =>
      cases hrest
      exact hseparator ⟨[], stamp, rfl⟩

theorem payloadOf?_append {stamp : List Char} (hseparator : ¬ separator.toList <:+: stamp)
    (hbegun : ¬ [' ', '-'] <:+ stamp) (cs : List Char) :
    payloadOf? (stamp ++ (separator.toList ++ cs)) = some cs := by
  induction stamp with
  | nil => rfl
  | cons c stamp ih =>
      have hsuffix : stamp <:+ c :: stamp := List.suffix_cons c stamp
      rw [List.cons_append, payloadOf?, isPrefixOf_separator hseparator hbegun cs]
      exact ih (fun h => hseparator (h.trans hsuffix.isInfix)) (fun h => hbegun (h.trans hsuffix))

/-- A payload is found again in the line of its record. -/
theorem payloadOf?_record {stamp : String} (hstamp : IsClear stamp)
    (hbegins : ¬ BeginsSeparator stamp) (text : String) :
    payloadOf? (stamp ++ separator ++ text).toList = some text.toList := by
  rw [String.append_assoc, String.toList_append, String.toList_append]
  exact payloadOf?_append hstamp.noSeparator hbegins text.toList

/-- A separator that begins in the time stamp is found first, and a part of the next one with the
payload. -/
theorem payloadOf?_record_of_beginsSeparator {stamp : String} (hstamp : IsClear stamp)
    (hbegins : BeginsSeparator stamp) (text : String) :
    payloadOf? (stamp ++ separator ++ text).toList = some ("- " ++ text).toList := by
  obtain ⟨before, hbefore⟩ := hbegins
  have hnone := hstamp.noSeparator
  rw [← hbefore] at hnone
  have hseparator : ¬ separator.toList <:+: before :=
    fun h => hnone (h.trans (List.prefix_append before [' ', '-']).isInfix)
  have hbegun : ¬ [' ', '-'] <:+ before := by
    rintro ⟨first, rfl⟩
    exact hnone ⟨first, ['-'], by simp [separator]⟩
  have hline : (stamp ++ separator ++ text).toList =
      before ++ (separator.toList ++ ("- " ++ text).toList) := by
    rw [String.toList_append, String.toList_append, ← hbefore, String.toList_append]
    simp [separator]
  rw [hline]
  exact payloadOf?_append hseparator hbegun _

/-- Lines that are written behind line breaks are the pieces between these. -/
theorem pieces_flatMap {lines : List (List Char)} (h : ∀ line ∈ lines, '\n' ∉ line)
    {first : List Char} (hfirst : '\n' ∉ first) :
    Text.pieces '\n' (first ++ lines.flatMap fun line => '\n' :: line) = first :: lines := by
  induction lines generalizing first with
  | nil => rw [List.flatMap_nil, List.append_nil, Text.pieces_of_notMem hfirst]
  | cons line lines ih =>
      obtain ⟨hline, hlines⟩ := List.forall_mem_cons.mp h
      rw [List.flatMap_cons, List.cons_append, Text.pieces_append_cons,
        Text.pieces_of_notMem hfirst, ih hlines hline, List.singleton_append]

/-! ## Time stamps -/

theorem isDigit_of_mem_padded {width n : Nat} :
    ∀ c ∈ (Stamp.padded width n).toList, c.isDigit = true := by
  intro c hc
  rw [Stamp.padded, String.toList_ofList, Text.padded, List.mem_append] at hc
  obtain hc | hc := hc
  · rw [List.eq_of_mem_replicate hc]
    rfl
  · exact Text.isDigit_of_mem_toDigits c hc

def isStampChar (c : Char) : Bool := c.isDigit || ['-', 'T', ':', '.', '+'].contains c

theorem isStampChar_of_mem_padded {width n : Nat} :
    ∀ c ∈ (Stamp.padded width n).toList, isStampChar c = true := by
  intro c hc
  rw [isStampChar, isDigit_of_mem_padded c hc]
  rfl

theorem isStampChar_of_mem_mark {mark : String} (h : mark.toList.all isStampChar = true) :
    ∀ c ∈ mark.toList, isStampChar c = true :=
  List.all_eq_true.mp h

theorem isStampChar_of_mem_fraction {nanos : Nat} :
    ∀ c ∈ (Stamp.fraction nanos).toList, isStampChar c = true := by
  have hpoint : ∀ width n, ∀ c ∈ ("." ++ Stamp.padded width n).toList, isStampChar c = true := by
    intro width n
    rw [String.toList_append, List.forall_mem_append]
    exact ⟨isStampChar_of_mem_mark (by decide), isStampChar_of_mem_padded⟩
  rw [Stamp.fraction]
  split
  · nofun
  · split
    · exact hpoint 3 _
    · split
      · exact hpoint 6 _
      · exact hpoint 9 _

theorem isStampChar_of_mem_text {seconds nanos : Nat} :
    ∀ c ∈ (Stamp.text seconds nanos).toList, isStampChar c = true := by
  simp only [Stamp.text, toString, String.toList_append, List.forall_mem_append]
  and_intros
  all_goals first
    | with_reducible exact isStampChar_of_mem_padded
    | with_reducible exact isStampChar_of_mem_fraction
    | exact isStampChar_of_mem_mark (by decide)

/-- The time stamps that are written are clear and begin no separator, because there is no blank in
them. -/
theorem isClear_text (seconds nanos : Nat) :
    IsClear (Stamp.text seconds nanos) ∧ ¬ BeginsSeparator (Stamp.text seconds nanos) := by
  have hchars : ∀ c, isStampChar c = false → c ∉ (Stamp.text seconds nanos).toList := by
    intro c hc hmem
    rw [isStampChar_of_mem_text c hmem] at hc
    cases hc
  have hblank : ' ' ∉ (Stamp.text seconds nanos).toList := hchars ' ' (by decide)
  refine ⟨⟨hchars '\n' (by decide), fun h => hblank (h.subset ?_)⟩, fun h => hblank (h.subset ?_)⟩
  · exact List.mem_cons_self
  · exact List.mem_cons_self

/-! ## The whole content -/

/-- The payload is a line of text, and its time stamp has no separator. Then the record can be found
again in the file, and the payload in the record. -/
structure Arrival.IsReadable (a : Arrival σ ε) : Prop where
  stamp : IsClear a.stamp
  payload : ∃ text : String, text.toUTF8 = a.payload ∧ '\n' ∉ text.toList

def Arrival.line (a : Arrival σ ε) : List Char :=
  (a.stamp ++ separator ++ Utf8.lossy a.payload).toList

theorem Arrival.toList_record (a : Arrival σ ε) : a.record.toList = '\n' :: a.line := by
  simp [record, Store.record, line]

theorem Arrival.IsReadable.notMem_line (h : a.IsReadable) : '\n' ∉ a.line := by
  obtain ⟨hstamp, text, htext, hpayload⟩ := h
  have hseparator : '\n' ∉ separator.toList := by decide
  rw [Arrival.line, ← htext, Utf8.lossy_toUTF8, String.toList_append, String.toList_append]
  simp [hstamp.noLineBreak, hseparator, hpayload]

/-- What is found in the line of a record. -/
def Arrival.found (a : Arrival σ ε) : ByteArray :=
  if BeginsSeparator a.stamp then "- ".toUTF8 ++ a.payload else a.payload

theorem Arrival.found_eq_payload_iff (a : Arrival σ ε) :
    a.found = a.payload ↔ ¬ BeginsSeparator a.stamp := by
  rw [found]
  by_cases h : BeginsSeparator a.stamp
  · rw [if_pos h]
    refine iff_of_false (fun heq => ?_) (not_not_intro h)
    have hsize := congrArg ByteArray.size heq
    rw [ByteArray.size_append] at hsize
    have hdash : "- ".toUTF8.size = 2 := by decide +kernel
    omega
  · rw [if_neg h]
    exact iff_of_true rfl h

theorem Arrival.IsReadable.payloadOf?_line (h : a.IsReadable) :
    (payloadOf? a.line).map (fun cs => (String.ofList cs).toUTF8) = some a.found := by
  obtain ⟨hstamp, text, htext, -⟩ := h
  rw [Arrival.line, Arrival.found, ← htext, Utf8.lossy_toUTF8]
  split
  next hbegins =>
    rw [payloadOf?_record_of_beginsSeparator hstamp hbegins, Option.map_some, String.ofList_toList]
    exact congrArg some String.toByteArray_append
  next hbegins =>
    rw [payloadOf?_record hstamp hbegins, Option.map_some, String.ofList_toList]

/-- What is found in the records is found in each of them. -/
theorem payloads?_join (h : ∀ a ∈ as, a.IsReadable) :
    payloads? (String.join (as.map Arrival.record)).toUTF8 = some (as.map Arrival.found) := by
  have hlines : ∀ line ∈ as.map Arrival.line, '\n' ∉ line :=
    List.forall_mem_map.mpr fun a ha => (h a ha).notMem_line
  have htext : (String.join (as.map Arrival.record)).toList =
      (as.map Arrival.line).flatMap fun line => '\n' :: line := by
    rw [String.toList_join, List.flatMap_map, List.flatMap_map]
    simp only [Arrival.toList_record]
  have hpieces := pieces_flatMap hlines (List.not_mem_nil (a := '\n'))
  rw [List.nil_append] at hpieces
  rw [payloads?, Utf8.fromUTF8?_eq_some_iff.mpr rfl, Option.bind_some, htext, hpieces,
    List.tail_cons]
  clear htext hlines hpieces
  induction as with
  | nil => rfl
  | cons a as ih =>
      obtain ⟨ha, has⟩ := List.forall_mem_cons.mp h
      rw [List.map_cons, List.mapM_cons, ha.payloadOf?_line, ih has]
      rfl

theorem mem_of_mem_stored {answers : List Answer} (h : a ∈ stored as answers) : a ∈ as := by
  obtain ⟨⟨b, answer⟩, hmem, rfl⟩ := List.mem_map.mp h
  exact (List.of_mem_zip (List.mem_filter.mp hmem).1).1

/-- Where there was no content before, the payloads are found again unless a time stamp stands in
the way. -/
theorem payloads?_handleAll_eq_iff (h : ∀ a ∈ as, Appends content a.append)
    (hempty : content s = .empty) (hreadable : ∀ a ∈ stored as (handleAll as s).1, a.IsReadable) :
    payloads? (content (handleAll as s).2) =
        some ((stored as (handleAll as s).1).map Arrival.payload) ↔
      ∀ a ∈ stored as (handleAll as s).1, ¬ BeginsSeparator a.stamp := by
  rw [content_handleAll h s, hempty, ByteArray.empty_append, payloads?_join hreadable,
    Option.some.injEq, List.map_inj_left]
  exact forall₂_congr fun a _ => a.found_eq_payload_iff

/-- Of payloads that are handled one after the other each is answered as stored or as failed, by
whether its record could be written then. After them the content is what it was before, and the
records of those that were answered as stored, in this order.

If there was no content before, and the payloads that were stored are lines of text, and their time
stamps have neither line breaks nor separators in them, then these payloads are found again. The
only exception is a time stamp that ends as a separator begins; the stamps of the clock do not. -/
theorem content_of_handled {content : σ → ByteArray} {as : List (Arrival σ ε)}
    (h : ∀ a ∈ as, Appends content a.append) (s : σ) :
    (handleAll as s).1.length = as.length ∧
    (∀ before a after, as = before ++ a :: after →
      ((handleAll as s).1[before.length]? = some ⟨201, "stored".toUTF8⟩ ∧
        ∃ s', a.append (handleAll before s).2 a.record = .ok s') ∨
      ((handleAll as s).1[before.length]? = some ⟨500, "store write failed".toUTF8⟩ ∧
        ∃ e, a.append (handleAll before s).2 a.record = .error e)) ∧
    content (handleAll as s).2 = content s ++
      (String.join ((stored as (handleAll as s).1).map fun a =>
        "\n" ++ a.stamp ++ " - " ++ Utf8.lossy a.payload)).toUTF8 ∧
    (content s = .empty → (∀ a ∈ stored as (handleAll as s).1, a.IsReadable) →
      (payloads? (content (handleAll as s).2) =
          some ((stored as (handleAll as s).1).map Arrival.payload) ↔
        ∀ a ∈ stored as (handleAll as s).1, ¬ BeginsSeparator a.stamp)) ∧
    ∀ seconds nanos, IsClear (Stamp.text seconds nanos) ∧
      ¬ BeginsSeparator (Stamp.text seconds nanos) := by
  refine ⟨length_handleAll as s, ?_, content_handleAll h s, payloads?_handleAll_eq_iff h,
    isClear_text⟩
  rintro before a after rfl
  rw [getElem?_handleAll]
  obtain ⟨s', happend, hhandle⟩ | ⟨e, happend, hhandle⟩ := handle_cases a (handleAll before s).2
  · exact .inl ⟨by rw [hhandle]; rfl, s', happend⟩
  · exact .inr ⟨by rw [hhandle]; rfl, e, happend⟩

/-- Lines of text that were stored at times of the clock are found again, whatever separators they
have in them. -/
theorem payloads?_of_clock (h : ∀ a ∈ as, Appends content a.append) (hempty : content s = .empty)
    (hclock : ∀ a ∈ as, ∃ seconds nanos, a.stamp = Stamp.text seconds nanos)
    (hlines : ∀ a ∈ stored as (handleAll as s).1,
      ∃ text : String, text.toUTF8 = a.payload ∧ '\n' ∉ text.toList) :
    payloads? (content (handleAll as s).2) =
      some ((stored as (handleAll as s).1).map Arrival.payload) := by
  have hclear : ∀ a ∈ stored as (handleAll as s).1,
      IsClear a.stamp ∧ ¬ BeginsSeparator a.stamp := by
    intro a ha
    obtain ⟨seconds, nanos, hstamp⟩ := hclock a (mem_of_mem_stored ha)
    rw [hstamp]
    exact isClear_text seconds nanos
  exact (payloads?_handleAll_eq_iff h hempty fun a ha => ⟨(hclear a ha).1, hlines a ha⟩).mpr
    fun a ha => (hclear a ha).2

/-- A file is such a store. -/
theorem appends_file (path : String) :
    Appends (FileTree.content path) fun files text => files.append path text :=
  fun _ _ _ => FileTree.content_append

/-- Three payloads in the first seconds of the clock, of which the second one cannot be written. -/
def threeArrivals : List (Arrival FileTree FileError) :=
  [⟨Stamp.text 0 0, "a - b".toUTF8, fun files text => files.append "/store.out" text⟩,
    ⟨Stamp.text 1 0, "c".toUTF8, fun _ _ => .error .isDirectory⟩,
    ⟨Stamp.text 2 500000000, "d".toUTF8, fun files text => files.append "/store.out" text⟩]

/-- Two of the payloads are stored, and are found again. -/
theorem content_of_handled_three :
    FileTree.content "/store.out" (handleAll threeArrivals .empty).2 =
      ("\n1970-01-01T00:00:00+00:00 - a - b\n1970-01-01T00:00:02.500+00:00 - d").toUTF8 ∧
    payloads? (FileTree.content "/store.out" (handleAll threeArrivals .empty).2) =
      some ["a - b".toUTF8, "d".toUTF8] := by
  have happends : ∀ a ∈ threeArrivals, Appends (FileTree.content "/store.out") a.append := by
    simp only [threeArrivals, List.forall_mem_cons]
    exact ⟨appends_file _, nofun, appends_file _, nofun⟩
  obtain ⟨-, -, hcontent, hpayloads, hclear⟩ := content_of_handled happends .empty
  have hstored : stored threeArrivals (handleAll threeArrivals .empty).1 =
      [⟨Stamp.text 0 0, "a - b".toUTF8, fun files text => files.append "/store.out" text⟩,
        ⟨Stamp.text 2 500000000, "d".toUTF8,
          fun files text => files.append "/store.out" text⟩] := by
    have hanswers : (handleAll threeArrivals .empty).1 =
        [storedAnswer, failedAnswer, storedAnswer] := by
      decide +kernel
    rw [hanswers]
    rfl
  have hempty : FileTree.content "/store.out" .empty = .empty := by decide +kernel
  rw [hstored] at hcontent hpayloads
  refine ⟨?_, (hpayloads hempty ?_).mpr ?_⟩
  · rw [hcontent, hempty]
    decide +kernel
  · simp only [List.forall_mem_cons]
    exact ⟨⟨(hclear 0 0).1, "a - b", rfl, by decide⟩,
      ⟨(hclear 2 500000000).1, "d", rfl, by decide⟩, nofun⟩
  · simp only [List.forall_mem_cons]
    exact ⟨(hclear 0 0).2, (hclear 2 500000000).2, nofun⟩

end Store
end StageRelay
