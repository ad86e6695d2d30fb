import Mathlib.Data.List.Induction
import StageRelay.CommandLine.RequestArguments
import StageRelay.Proofs.Lists
import StageRelay.Proofs.Text.Cuts

/-!
# What arguments say of a request

An argument for a header has a name before its first colon and a value behind it, and the blanks
around both are not part of them. It has a fault if there is no colon, or no name. The arguments for
a request fail by the first of their headers that has a fault, and by a payload that cannot be read
only if there is none. Otherwise they say everything about the request, and for a header it is the
last argument for its name that counts, in whatever case the name is written.
-/

namespace StageRelay

theorem Request.header_withHeader (r : Request) (given value name : String) :
    (r.withHeader given value).header name =
      if Ascii.sameFold given name then some value else r.header name := by
  rw [header, withHeader]
  split
  next hsame =>
    rw [← Ascii.sameFold_iff.mp hsame]
    exact SortedMap.get?_insert_self _ _ _
  next hother =>
    exact SortedMap.get?_insert_of_ne _ _ fun heq => hother (Ascii.sameFold_iff.mpr heq.symm)

namespace CommandLine

variable {raw name value : String} {raws : List String} {e : RequestError} {r s : Request}

/-! ## One header -/

/-- An argument gives a header: the first colon divides it into a name, which is not blank, and a
value, both without the blanks around them. -/
def GivesHeader (raw name value : String) : Prop :=
  ∃ head tail, raw = head ++ ":" ++ tail ∧ ':' ∉ head.toList ∧
    Text.TrimsTo head name ∧ Text.TrimsTo tail value ∧ name ≠ ""

inductive HeaderFault (raw : String) : RequestError → Prop where
  | noColon (hcolon : ':' ∉ raw.toList) : HeaderFault raw (.headerWithoutColon raw)
  | noName {head tail : String} (hraw : raw = head ++ ":" ++ tail) (hcolon : ':' ∉ head.toList)
      (hblank : Text.IsAllBlank head) : HeaderFault raw (.headerWithoutName raw)

theorem parseHeader_of_givesHeader (h : GivesHeader raw name value) :
    parseHeader raw = .ok (name, value) := by
  obtain ⟨head, tail, hraw, hcolon, hname, hvalue, hne⟩ := h
  have hcut : Text.cut? ':' raw = some (head, tail) := Text.cut?_eq_some_iff.mpr ⟨hraw, hcolon⟩
  rw [parseHeader, hcut]
  simp only [hname.eq, hvalue.eq]
  exact if_neg hne

theorem parseHeader_of_headerFault (h : HeaderFault raw e) : parseHeader raw = .error e := by
  rw [parseHeader]
  cases h with
  | noColon hcolon => rw [Text.cut?_eq_none_iff.mpr hcolon]
  | @noName head tail hraw hcolon hblank =>
      have hcut : Text.cut? ':' raw = some (head, tail) := Text.cut?_eq_some_iff.mpr ⟨hraw, hcolon⟩
      rw [hcut]
      exact if_pos (Text.trim_eq_empty_iff.mpr hblank)

theorem givesHeader_or_fault (raw : String) :
    (∃ name value, GivesHeader raw name value) ∨ ∃ e, HeaderFault raw e := by
  cases hcut : Text.cut? ':' raw with
  | none => exact .inr ⟨_, .noColon (Text.cut?_eq_none_iff.mp hcut)⟩
  | some parts =>
      obtain ⟨hraw, hcolon⟩ := Text.cut?_eq_some_iff.mp hcut
      by_cases hblank : Text.trim parts.1 = ""
      · exact .inr ⟨_, .noName hraw hcolon (Text.trim_eq_empty_iff.mp hblank)⟩
      · exact .inl ⟨_, _, _, _, hraw, hcolon, Text.trimsTo_trim _, Text.trimsTo_trim _, hblank⟩

theorem GivesHeader.eq {name' value' : String} (h : GivesHeader raw name value)
    (h' : GivesHeader raw name' value') : name = name' ∧ value = value' := by
  have heq := (parseHeader_of_givesHeader h).symm.trans (parseHeader_of_givesHeader h')
  exact Prod.mk.inj (Except.ok.inj heq)

theorem GivesHeader.not_headerFault (h : GivesHeader raw name value) : ¬ HeaderFault raw e := by
  intro hfault
  have heq := (parseHeader_of_givesHeader h).symm.trans (parseHeader_of_headerFault hfault)
  cases heq

/-! ## All headers -/

/-- An argument for a header of a name. -/
def IsFor (raw name : String) : Prop :=
  ∃ given value, GivesHeader raw given value ∧ Ascii.sameFold given name = true

/-- The last of the arguments for a header of a name gives it a value. Those before it do not
matter, and those behind it are for other names. -/
def LastGives (raws : List String) (name value : String) : Prop :=
  ∃ before raw after given, raws = before ++ raw :: after ∧ GivesHeader raw given value ∧
    Ascii.sameFold given name = true ∧ ∀ later ∈ after, ¬ IsFor later name

theorem isFor_iff {given : String} (h : GivesHeader raw given value) :
    IsFor raw name ↔ Ascii.sameFold given name = true := by
  refine ⟨?_, fun hsame => ⟨given, value, h, hsame⟩⟩
  rintro ⟨other, text, hother, hsame⟩
  rwa [(h.eq hother).1]

theorem lastGives_cons_iff {given text : String} (h : GivesHeader raw given text) :
    LastGives (raw :: raws) name value ↔ LastGives raws name value ∨
      (∀ later ∈ raws, ¬ IsFor later name) ∧ Ascii.sameFold given name = true ∧ text = value := by
  constructor
  · rintro ⟨before, raw', after, given', hraws, hgives, hsame, hafter⟩
    cases before with
    | nil =>
        obtain ⟨rfl, rfl⟩ := List.cons.inj hraws
        obtain ⟨rfl, rfl⟩ := h.eq hgives
        exact .inr ⟨hafter, hsame, rfl⟩
    | cons first before =>
        obtain ⟨rfl, rfl⟩ := List.cons.inj hraws
        exact .inl ⟨before, raw', after, given', rfl, hgives, hsame, hafter⟩
  · rintro (⟨before, raw', after, given', rfl, hgives, hsame, hafter⟩ | ⟨hafter, hsame, rfl⟩)
    · exact ⟨raw :: before, raw', after, given', rfl, hgives, hsame, hafter⟩
    · exact ⟨[], raw, raws, given, rfl, h, hsame, hafter⟩

/-- Some value is the last one if there is an argument for the name at all. -/
theorem exists_lastGives_iff (raws : List String) (name : String) :
    (∃ value, LastGives raws name value) ↔ ∃ raw ∈ raws, IsFor raw name := by
  constructor
  · rintro ⟨value, before, raw, after, given, rfl, hgives, hsame, -⟩
    exact ⟨raw, by simp, given, value, hgives, hsame⟩
  · intro h
    induction raws using List.reverseRecOn with
    | nil => simp at h
    | append_singleton raws last ih =>
        by_cases hlast : IsFor last name
        · obtain ⟨given, value, hgives, hsame⟩ := hlast
          exact ⟨value, raws, last, [], given, rfl, hgives, hsame, List.forall_mem_nil _⟩
        · obtain ⟨raw, hraw, hfor⟩ := h
          rcases List.mem_append.mp hraw with hraw | hraw
          · obtain ⟨value, before, raw', after, given, rfl, hgives, hsame, hafter⟩ :=
              ih ⟨raw, hraw, hfor⟩
            refine ⟨value, before, raw', after ++ [last], given, by simp, hgives, hsame, ?_⟩
            exact List.forall_mem_append.mpr ⟨hafter, List.forall_mem_singleton.mpr hlast⟩
          · rw [List.mem_singleton.mp hraw] at hfor
            exact absurd hfor hlast

theorem addHeaders_of_gives (h : GivesHeader raw name value) (r : Request) (raws : List String) :
    addHeaders r (raw :: raws) = addHeaders (r.withHeader name value) raws := by
  rw [addHeaders, parseHeader_of_givesHeader h]
  rfl

/-- Arguments without a fault add headers and change nothing else. -/
theorem exists_addHeaders (h : ∀ raw ∈ raws, ∃ name value, GivesHeader raw name value)
    (r : Request) : ∃ headers, addHeaders r raws = .ok { r with headers := headers } := by
  induction raws generalizing r with
  | nil => exact ⟨r.headers, rfl⟩
  | cons raw raws ih =>
      obtain ⟨⟨name, value, hgives⟩, hraws⟩ := List.forall_mem_cons.mp h
      rw [addHeaders_of_gives hgives]
      exact ih hraws (r.withHeader name value)

theorem addHeaders_of_fault {before after : List String}
    (hbefore : ∀ raw ∈ before, ∃ name value, GivesHeader raw name value)
    (h : HeaderFault raw e) (r : Request) : addHeaders r (before ++ raw :: after) = .error e := by
  induction before generalizing r with
  | nil =>
      rw [List.nil_append, addHeaders, parseHeader_of_headerFault h]
      rfl
  | cons first before ih =>
      obtain ⟨⟨name, value, hgives⟩, hbefore⟩ := List.forall_mem_cons.mp hbefore
      rw [List.cons_append, addHeaders_of_gives hgives]
      exact ih hbefore (r.withHeader name value)

/-- The header of a name is what the last argument for it gives, or what it was before there were
any. -/
theorem header_addHeaders (hraws : ∀ raw ∈ raws, ∃ name value, GivesHeader raw name value)
    (h : addHeaders r raws = .ok s) : s.header name = some value ↔
      LastGives raws name value ∨
        (∀ raw ∈ raws, ¬ IsFor raw name) ∧ r.header name = some value := by
  induction raws generalizing r with
  | nil =>
      cases h
      simp [LastGives]
  | cons raw raws ih =>
      obtain ⟨⟨given, text, hgives⟩, hraws⟩ := List.forall_mem_cons.mp hraws
      rw [addHeaders_of_gives hgives] at h
      rw [ih hraws h, lastGives_cons_iff hgives, List.forall_mem_cons, isFor_iff hgives,
        Request.header_withHeader]
      by_cases hsame : Ascii.sameFold given name = true
      · simp [hsame]
      · simp [hsame]

/-! ## Requests -/

/-- The payload that the argument for it stands for. -/
inductive GivesPayload (files : FileTree) : Option String → ByteArray → Prop where
  | nothing : GivesPayload files none .empty
  | text {data : String} (h : ∀ path, data ≠ "@" ++ path) :
      GivesPayload files (some data) data.toUTF8
  | file {path text : String} (h : files.readText path = .ok text) :
      GivesPayload files (some ("@" ++ path)) text.toUTF8

/-- The first thing that is wrong with the arguments for a request: a header, or else a payload in a
file that cannot be read. -/
inductive RequestFault (files : FileTree) (a : RequestArguments) : RequestError → Prop where
  | header {before after : List String} {raw : String} {e : RequestError}
      (hheaders : a.headers = before ++ raw :: after)
      (hbefore : ∀ given ∈ before, ∃ name value, GivesHeader given name value)
      (h : HeaderFault raw e) : RequestFault files a e
  | payload {path : String} {cause : FileError}
      (hheaders : ∀ given ∈ a.headers, ∃ name value, GivesHeader given name value)
      (hdata : a.data = some ("@" ++ path)) (h : files.readText path = .error cause) :
      RequestFault files a (.unreadablePayload path cause)

/-- The request that arguments describe. It holds nothing beyond them: a header is there just when
an argument gives it. -/
structure Describes (files : FileTree) (a : RequestArguments) (r : Request) : Prop where
  method : r.method = Ascii.upper a.method
  uri : r.uri = a.uri
  payload : GivesPayload files a.data r.payload
  files : r.files = []
  header : ∀ name value, r.header name = some value ↔ LastGives a.headers name value
  absent : ∀ name, r.header name = none ↔ ∀ raw ∈ a.headers, ¬ IsFor raw name

variable {files : FileTree} {a : RequestArguments}

theorem payloadText_of_text {data : String} (h : ∀ path, data ≠ "@" ++ path) :
    payloadText files data = .ok data := by
  rw [payloadText, Text.after?_eq_none_iff.mpr h]

theorem payloadText_of_path (path : String) : payloadText files ("@" ++ path) =
    (files.readText path).mapError (.unreadablePayload path) := by
  rw [payloadText, Text.after?_eq_some_iff.mpr rfl]

/-- The payload is one that the argument gives, or the file is not there to be read. -/
theorem givesPayload_or_fault (files : FileTree) (data : Option String) :
    (∃ payload, GivesPayload files data payload) ∨
      ∃ path cause, data = some ("@" ++ path) ∧ files.readText path = .error cause := by
  cases data with
  | none => exact .inl ⟨_, .nothing⟩
  | some data =>
      cases hpath : Text.after? "@" data with
      | none => exact .inl ⟨_, .text (Text.after?_eq_none_iff.mp hpath)⟩
      | some path =>
          obtain rfl := Text.after?_eq_some_iff.mp hpath
          cases hread : files.readText path with
          | ok text => exact .inl ⟨_, .file hread⟩
          | error cause => exact .inr ⟨path, cause, rfl, hread⟩

theorem toRequest_of_gives {payload : ByteArray}
    (hheaders : ∀ raw ∈ a.headers, ∃ name value, GivesHeader raw name value)
    (hpayload : GivesPayload files a.data payload) : ∃ r, a.toRequest files = .ok r ∧
      Describes files a r := by
  obtain ⟨headers, hadd⟩ := exists_addHeaders hheaders (Request.make a.method a.uri)
  have hrequest : a.toRequest files = .ok ⟨Ascii.upper a.method, a.uri, headers, payload, []⟩ := by
    rw [RequestArguments.toRequest, hadd]
    generalize a.data = data at hpayload
    cases hpayload with
    | nothing => rfl
    | @text data h =>
        show (payloadText files data >>= fun text => _) = _
        rw [payloadText_of_text h]
        rfl
    | @file path text h =>
        show (payloadText files ("@" ++ path) >>= fun text => _) = _
        rw [payloadText_of_path, h]
        rfl
  have hheader : ∀ name value,
      (Request.mk (Ascii.upper a.method) a.uri headers payload []).header name = some value ↔
        LastGives a.headers name value := by
    intro name value
    refine (header_addHeaders hheaders hadd).trans (or_iff_left ?_)
    rintro ⟨-, hbefore⟩
    cases hbefore
  refine ⟨_, hrequest, rfl, rfl, hpayload, rfl, hheader, fun name => ?_⟩
  rw [Option.eq_none_iff_forall_ne_some]
  have hnone := not_congr (exists_lastGives_iff a.headers name)
  simp only [not_exists, not_and] at hnone
  exact (forall_congr' fun value => not_congr (hheader name value)).trans hnone

theorem toRequest_of_fault (h : RequestFault files a e) : a.toRequest files = .error e := by
  rw [RequestArguments.toRequest]
  cases h with
  | header hheaders hbefore h =>
      rw [hheaders, addHeaders_of_fault hbefore h]
      rfl
  | @payload path cause hheaders hdata h =>
      obtain ⟨headers, hadd⟩ := exists_addHeaders hheaders (Request.make a.method a.uri)
      rw [hadd, hdata]
      show (payloadText files ("@" ++ path) >>= fun text => _) = _
      rw [payloadText_of_path, h]
      rfl

theorem exists_requestFault_iff : (∃ e, RequestFault files a e) ↔
    (∃ raw ∈ a.headers, ∃ e, HeaderFault raw e) ∨
      ∃ path cause, a.data = some ("@" ++ path) ∧ files.readText path = .error cause := by
  constructor
  · rintro ⟨e, @⟨before, after, raw, _, hheaders, -, h⟩ | @⟨path, cause, -, hdata, h⟩⟩
    · exact .inl ⟨raw, by simp [hheaders], e, h⟩
    · exact .inr ⟨path, cause, hdata, h⟩
  · intro h
    rcases forall_or_first (fun raw => ∃ name value, GivesHeader raw name value) a.headers with
      hheaders | ⟨before, raw, after, hheaders, hbefore, hbad⟩
    · rcases h with ⟨raw, hraw, e, hfault⟩ | ⟨path, cause, hdata, h⟩
      · obtain ⟨name, value, hgives⟩ := hheaders raw hraw
        exact absurd hfault hgives.not_headerFault
      · exact ⟨_, .payload hheaders hdata h⟩
    · obtain ⟨e, hfault⟩ := (givesHeader_or_fault raw).resolve_left hbad
      exact ⟨e, .header hheaders hbefore hfault⟩

theorem describes_or_fault (files : FileTree) (a : RequestArguments) :
    (∃ r, a.toRequest files = .ok r ∧ Describes files a r) ∨ ∃ e, RequestFault files a e := by
  rcases forall_or_first (fun raw => ∃ name value, GivesHeader raw name value) a.headers with
    hheaders | ⟨before, raw, after, hheaders, hbefore, hbad⟩
  · rcases givesPayload_or_fault files a.data with ⟨payload, hpayload⟩ | ⟨path, cause, hdata, h⟩
    · exact .inl (toRequest_of_gives hheaders hpayload)
    · exact .inr ⟨_, .payload hheaders hdata h⟩
  · obtain ⟨e, hfault⟩ := (givesHeader_or_fault raw).resolve_left hbad
    exact .inr ⟨e, .header hheaders hbefore hfault⟩

/-- Arguments fail by the first thing that is wrong with them. There is something wrong with them
just when one of the headers has a fault or the payload is in a file that cannot be read. Otherwise
the request has the method in upper case, the URI as it stands, the payload and no files, and every
header is what the last argument for its name gives. -/
theorem toRequest_described (files : FileTree) (a : RequestArguments) :
    (∀ e, a.toRequest files = .error e ↔ RequestFault files a e) ∧
    ((∃ e, a.toRequest files = .error e) ↔ (∃ raw ∈ a.headers, ∃ e, HeaderFault raw e) ∨
      ∃ path cause, a.data = some ("@" ++ path) ∧ files.readText path = .error cause) ∧
    ∀ r, a.toRequest files = .ok r → Describes files a r := by
  have hfaulty : ∀ e, a.toRequest files = .error e ↔ RequestFault files a e := by
    refine fun e => ⟨fun h => ?_, toRequest_of_fault⟩
    rcases describes_or_fault files a with ⟨r, hr, -⟩ | ⟨e', hfault⟩
    · rw [hr] at h
      cases h
    · rw [toRequest_of_fault hfault] at h
      cases h
      exact hfault
  refine ⟨hfaulty, (exists_congr hfaulty).trans exists_requestFault_iff, fun r h => ?_⟩
  rcases describes_or_fault files a with ⟨s, hs, hdescribes⟩ | ⟨e, hfault⟩
  · rw [hs] at h
    cases h
    exact hdescribes
  · rw [toRequest_of_fault hfault] at h
    cases h

/-- Of two headers whose names differ in the case of letters the later one counts. A header without
a colon is what is reported, although there is no file for the payload either. -/
theorem toRequest_described_of_two :
    let given : RequestArguments := ⟨none, "post", "/", ["X-A: 1", "x-a:2 "], some "hi"⟩
    let faulty : RequestArguments := ⟨none, "post", "/", ["X-A"], some "@body"⟩
    let r : Request := ⟨"POST", "/", .ofList [("x-a", "2")], "hi".toUTF8, []⟩
    given.toRequest .empty = .ok r ∧ Describes .empty given r ∧
      LastGives given.headers "X-a" "2" ∧
      RequestFault .empty faulty (.headerWithoutColon "X-A") := by
  intro given faulty r
  have hrequest : given.toRequest .empty = .ok r := by decide +kernel
  have hfailure : faulty.toRequest .empty = .error (.headerWithoutColon "X-A") := by decide +kernel
  have hdescribes := (toRequest_described .empty given).2.2 r hrequest
  exact ⟨hrequest, hdescribes, (hdescribes.header "X-a" "2").mp (by decide +kernel),
    ((toRequest_described .empty faulty).1 _).mp hfailure⟩

end CommandLine

end StageRelay
