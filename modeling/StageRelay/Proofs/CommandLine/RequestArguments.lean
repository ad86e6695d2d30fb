import Mathlib.Data.List.Induction
import Mathlib.Data.List.Nodup
import Mathlib.Data.List.TakeWhile
import StageRelay.CommandLine.RequestArguments
import StageRelay.Gateway.Inbound
import StageRelay.Proofs.Text.Cuts

/-!
# The same request on the command line and at the gateway

A request can be given to the command line in the parts that it has over HTTP, with one argument for
each header. What becomes of it is the same request in all but one respect: of headers with one name
the command line keeps the last value, where the gateway joins all of them. So the two requests are
equal just when no name is repeated, in whatever case.
-/

namespace StageRelay

/-- A header that reads the same on the command line and on the network: a name that can be sent,
and a visible value without blanks around it. -/
structure IsPlainHeader (h : String × String) : Prop where
  isFieldName : Http.isFieldName h.1 = true
  isVisible : h.2.toUTF8.data.all Http.isVisibleByte = true
  /-- No blanks stand around the value. -/
  isTrimmed : Text.trim h.2 = h.2

instance (h : String × String) : Decidable (IsPlainHeader h) :=
  decidable_of_iff (Http.isFieldName h.1 = true ∧ h.2.toUTF8.data.all Http.isVisibleByte = true ∧
      Text.trim h.2 = h.2)
    ⟨fun ⟨hname, hvisible, htrimmed⟩ => ⟨hname, hvisible, htrimmed⟩,
      fun ⟨hname, hvisible, htrimmed⟩ => ⟨hname, hvisible, htrimmed⟩⟩

def keysOf (headers : List (String × String)) : List String := headers.map fun h => Ascii.lower h.1

namespace Http

/-- A token has neither blanks nor colons. -/
theorem isBlank_of_isTokenChar {c : Char} (h : isTokenChar c = true) :
    Text.isBlank c = false ∧ c ≠ ':' := by
  rw [isTokenChar, Bool.or_eq_true] at h
  rcases h with h | h
  · have hrange : 48 ≤ c.toNat ∧ c.toNat ≤ 57 ∨ 65 ≤ c.toNat ∧ c.toNat ≤ 90 ∨
        97 ≤ c.toNat ∧ c.toNat ≤ 122 := by
      have hcode : (decide (65 ≤ c.val ∧ c.val ≤ 90) || (97 ≤ c.val && c.val ≤ 122) ||
          (48 ≤ c.val && c.val ≤ 57)) = true := h
      simp only [Bool.or_eq_true, Bool.and_eq_true, decide_eq_true_eq,
        UInt32.le_iff_toNat_le] at hcode
      exact hcode.elim .inr .inl
    refine ⟨?_, ?_⟩
    · simp only [Text.isBlank, Bool.or_eq_false_iff, Bool.and_eq_false_iff,
        decide_eq_false_iff_not, beq_eq_false_iff_ne]
      omega
    · rintro rfl
      revert hrange
      decide
  · have hmarks : tokenMarks.all (fun c => !Text.isBlank c && c != ':') = true := by decide
    simpa using List.all_eq_true.mp hmarks c (List.contains_iff_mem.mp h)

theorem visibleText?_toUTF8 {v : String} (h : v.toUTF8.data.all isVisibleByte = true) :
    visibleText? v.toUTF8 = some v := by
  rw [visibleText?, if_pos h]
  exact dif_pos v.isValidUTF8

/-- A target that starts with a slash and has no fragment is the path and the query. -/
theorem Target.ofText?_of_slash {uri : String} (hslash : Text.startsWith uri "/" = true)
    (hfragment : '#' ∉ uri.toList) : ofText? uri = some (.path uri) := by
  have hsplit : ∃ cs, uri.toList = '/' :: cs := by
    obtain ⟨cs, hcs⟩ := List.isPrefixOf_iff_prefix.mp hslash
    exact ⟨cs, hcs.symm⟩
  obtain ⟨cs, hcs⟩ := hsplit
  have hkept : ('/' :: cs).takeWhile (· != '#') = '/' :: cs := by
    rw [← hcs]
    refine List.takeWhile_eq_self_iff.mpr fun c hc => ?_
    rw [bne_iff_ne]
    rintro rfl
    exact hfragment hc
  rw [ofText?, hcs]
  show some (ofPathAndQuery ('/' :: cs)) = _
  rw [ofPathAndQuery, hkept]
  show some (path (String.ofList ('/' :: cs))) = _
  rw [← hcs, String.ofList_toList]

end Http

/-! ## Headers of the command line -/

namespace CommandLine

variable {headers : List (String × String)}

def headerArgument (h : String × String) : String := h.1 ++ ":" ++ h.2

/-- The headers of which the last of each name is kept. -/
def lastValues (headers : List (String × String)) : SortedMap String String :=
  headers.foldl (fun m h => m.insert (Ascii.lower h.1) h.2) .empty

theorem parseHeader_headerArgument {h : String × String} (hh : IsPlainHeader h) :
    parseHeader (headerArgument h) = .ok h := by
  obtain ⟨htoken, -⟩ := Bool.and_eq_true_iff.mp hh.isFieldName
  obtain ⟨hne, hchars⟩ := Bool.and_eq_true_iff.mp htoken
  have hname : ∀ c ∈ h.1.toList, Text.isBlank c = false ∧ c ≠ ':' := fun c hc =>
    Http.isBlank_of_isTokenChar (List.all_eq_true.mp hchars c hc)
  have hcut : Text.cut? ':' (headerArgument h) = some (h.1, h.2) :=
    Text.cut?_eq_some_iff.mpr ⟨rfl, fun hmem => (hname _ hmem).2 rfl⟩
  have htrim : Text.trim h.1 = h.1 := by
    rw [Text.trim, Text.trimChars_of_not_isBlank fun c hc => (hname c hc).1, String.ofList_toList]
  rw [parseHeader, hcut]
  simp only [htrim, hh.isTrimmed]
  exact if_neg (of_decide_eq_true hne)

theorem addHeaders_headerArguments (hheaders : ∀ h ∈ headers, IsPlainHeader h) (r : Request) :
    addHeaders r (headers.map headerArgument) =
      .ok { r with
        headers := headers.foldl (fun m h => m.insert (Ascii.lower h.1) h.2) r.headers } := by
  induction headers generalizing r with
  | nil => rfl
  | cons h headers ih =>
      obtain ⟨hh, hheaders⟩ := List.forall_mem_cons.mp hheaders
      rw [List.map_cons, addHeaders, parseHeader_headerArgument hh]
      exact ih hheaders (r.withHeader h.1 h.2)

theorem get?_lastValues_of_notMem {k : String} (hk : k ∉ keysOf headers) :
    (lastValues headers).get? k = none := by
  induction headers using List.reverseRecOn with
  | nil => rfl
  | append_singleton headers h ih =>
      simp only [keysOf, List.map_append, List.mem_append, not_or, List.map_cons, List.map_nil,
        List.mem_singleton] at hk
      rw [lastValues, List.foldl_append]
      exact (SortedMap.get?_insert_of_ne _ _ hk.2).trans (ih hk.1)

end CommandLine

/-! ## Headers at the gateway -/

namespace Inbound

variable {headers : List (String × String)}

def fieldsOf (headers : List (String × String)) : List (String × ByteArray) :=
  headers.map fun h => (h.1, h.2.toUTF8)

/-- The value of a header after one more field of its name. -/
def joined (earlier : Option String) (value : String) : String :=
  match earlier with
  | none => value
  | some earlier => earlier ++ valueSeparator ++ value

theorem headersOf_concat (fields : List (String × ByteArray)) (f : String × ByteArray) :
    headersOf (fields ++ [f]) = addField (headersOf fields) f := by
  rw [headersOf, List.foldl_append]
  rfl

theorem headersOf_append_singleton {h : String × String} (hh : IsPlainHeader h) :
    headersOf (fieldsOf (headers ++ [h])) = (headersOf (fieldsOf headers)).insert
      (Ascii.lower h.1) (joined ((headersOf (fieldsOf headers)).get? (Ascii.lower h.1)) h.2) := by
  rw [fieldsOf, List.map_append]
  refine (headersOf_concat _ _).trans ?_
  rw [addField, Http.visibleText?_toUTF8 hh.isVisible]
  rfl

theorem mem_keysOf_iff (hheaders : ∀ h ∈ headers, IsPlainHeader h) {k : String} :
    k ∈ keysOf headers ↔ (headersOf (fieldsOf headers)).get? k ≠ none := by
  induction headers using List.reverseRecOn with
  | nil => simp [keysOf, headersOf, fieldsOf]
  | append_singleton headers h ih =>
      obtain ⟨hheaders, hh⟩ := List.forall_mem_append.mp hheaders
      rw [headersOf_append_singleton (hh h List.mem_cons_self), keysOf, List.map_append,
        List.mem_append, ← keysOf, ih hheaders]
      by_cases hk : k = Ascii.lower h.1
      · subst hk
        simp [SortedMap.get?_insert_self]
      · rw [SortedMap.get?_insert_of_ne _ _ hk]
        simp [hk]

/-- A value that is joined to another one is longer, so it is not the last value alone. -/
theorem eq_joined_iff {earlier : Option String} {value : String} :
    value = joined earlier value ↔ earlier = none := by
  cases earlier with
  | none => exact iff_of_true rfl rfl
  | some earlier =>
      refine iff_of_false (fun heq => ?_) (Option.some_ne_none _)
      have hlength : value.length = (earlier ++ valueSeparator ++ value).length :=
        congrArg String.length heq
      have hseparator : valueSeparator.length = 2 := by decide
      simp only [String.length_append] at hlength
      omega

/-- One more header is the same in both maps if it is new to them. -/
theorem insert_eq_insert_joined_iff {m n : SortedMap String String} {k value : String}
    (hnone : n.get? k = none → m.get? k = none) :
    m.insert k value = n.insert k (joined (n.get? k) value) ↔ m = n ∧ n.get? k = none := by
  constructor
  · intro heq
    have hvalue := congrArg (SortedMap.get? · k) heq
    simp only [SortedMap.get?_insert_self, Option.some.injEq] at hvalue
    have hn := eq_joined_iff.mp hvalue
    refine ⟨SortedMap.ext_get? fun a => ?_, hn⟩
    by_cases ha : a = k
    · rw [ha, hn, hnone hn]
    · have hother := congrArg (SortedMap.get? · a) heq
      simp only [SortedMap.get?_insert_of_ne _ _ ha] at hother
      exact hother
  · rintro ⟨rfl, hn⟩
    rw [hn]
    rfl

/-- The last values are all there is just when no name is repeated. -/
theorem lastValues_eq_headersOf_iff (hheaders : ∀ h ∈ headers, IsPlainHeader h) :
    CommandLine.lastValues headers = headersOf (fieldsOf headers) ↔ (keysOf headers).Nodup := by
  induction headers using List.reverseRecOn with
  | nil => simp [keysOf, headersOf, fieldsOf, CommandLine.lastValues]
  | append_singleton headers h ih =>
      obtain ⟨hheaders, hh⟩ := List.forall_mem_append.mp hheaders
      have hlast : CommandLine.lastValues (headers ++ [h]) =
          (CommandLine.lastValues headers).insert (Ascii.lower h.1) h.2 := by
        rw [CommandLine.lastValues, List.foldl_append]
        rfl
      have hnodup : (keysOf (headers ++ [h])).Nodup ↔
          (keysOf headers).Nodup ∧ Ascii.lower h.1 ∉ keysOf headers := by
        rw [keysOf, List.map_append, ← keysOf, List.nodup_append_comm]
        exact List.nodup_cons.trans and_comm
      have hfresh : Ascii.lower h.1 ∉ keysOf headers ↔
          (headersOf (fieldsOf headers)).get? (Ascii.lower h.1) = none := by
        rw [mem_keysOf_iff hheaders, not_not]
      rw [hlast, headersOf_append_singleton (hh h List.mem_cons_self), hnodup, ← ih hheaders,
        hfresh]
      exact insert_eq_insert_joined_iff fun hnone =>
        CommandLine.get?_lastValues_of_notMem (hfresh.mpr hnone)

end Inbound

/-! ## Requests -/

namespace CommandLine

/-- A request in the parts that it has over HTTP is the same on the command line, with one argument
for each header, except for its headers, and these are the same just when no name is repeated. -/
theorem toRequest_eq_iff {uri payload : String} {headers : List (String × String)}
    (hheaders : ∀ h ∈ headers, IsPlainHeader h) (hslash : Text.startsWith uri "/" = true)
    (hfragment : '#' ∉ uri.toList) (hpayload : Text.startsWith payload "@" = false)
    (method : String) (config : Option String) (files : FileTree) :
    ∃ target r, Http.Target.ofText? uri = some target ∧
      RequestArguments.toRequest files
        ⟨config, method, uri, headers.map headerArgument, some payload⟩ = .ok r ∧
      (let inbound : Inbound := ⟨method, target, Inbound.fieldsOf headers, payload.toUTF8⟩
      inbound.toRequest = { r with headers := inbound.toRequest.headers } ∧
        (r = inbound.toRequest ↔ (keysOf headers).Nodup)) := by
  have hplain : payloadText files payload = .ok payload := by
    rw [payloadText, Text.after?, hpayload]
    rfl
  refine ⟨.path uri, ⟨Ascii.upper method, uri, lastValues headers, payload.toUTF8, []⟩,
    Http.Target.ofText?_of_slash hslash hfragment, ?_, rfl, ?_⟩
  · rw [RequestArguments.toRequest, addHeaders_headerArguments hheaders]
    show (payloadText files payload >>= fun text => _) = _
    rw [hplain]
    rfl
  · rw [← Inbound.lastValues_eq_headersOf_iff hheaders]
    exact ⟨congrArg Request.headers, fun heq => congrArg (Request.mk _ _ · _ _) heq⟩

/-- One header in each case of letters, and a payload. -/
theorem toRequest_eq_iff_of_two : ∃ r,
    RequestArguments.toRequest .empty
      ⟨none, "post", "/a?b=1", ["Accept:text/plain", "x-id:7"], some "c"⟩ = .ok r ∧
    r = (⟨"post", .path "/a?b=1", [("Accept", "text/plain".toUTF8), ("x-id", "7".toUTF8)],
      "c".toUTF8⟩ : Inbound).toRequest := by
  obtain ⟨target, r, htarget, hr, -, hiff⟩ := @toRequest_eq_iff "/a?b=1" "c"
    [("Accept", "text/plain"), ("x-id", "7")] (by decide +kernel) (by decide) (by decide)
    (by decide) "post" none .empty
  obtain rfl : Http.Target.path "/a?b=1" = target := Option.some.inj htarget
  exact ⟨r, hr, hiff.mpr (by decide)⟩

/-- Of two values for one name the command line knows only the last, so what depends on both of them
does not hold of its request. -/
theorem header_of_repeated_name : ∃ r,
    RequestArguments.toRequest .empty
      ⟨none, "GET", "/a", ["accept:text/plain", "accept:application/json"], some ""⟩ = .ok r ∧
    r.header "accept" = some "application/json" ∧
    (⟨"GET", .path "/a", Inbound.fieldsOf
      [("accept", "text/plain"), ("accept", "application/json")],
      .empty⟩ : Inbound).toRequest.header "accept" = some "text/plain, application/json" := by
  refine ⟨_, rfl, ?_, ?_⟩
  · decide +kernel
  · decide +kernel

end CommandLine

end StageRelay
