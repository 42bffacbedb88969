import DeviceHost.Config.Basic
import DeviceHost.Http.Client
import DeviceHost.Proofs.Integers
import DeviceHost.Proofs.Percent
import Mathlib.Data.List.Infix
import Mathlib.Data.List.TakeWhile
import Mathlib.Data.String.Basic

/-!
# Where requests are sent

A request for a record goes to the endpoint of its kind, with the name of the record as one segment
below it. A name may be any text: what would part segments or end the path is encoded. Dots are not,
so `.` and `..` are segments that the client resolves, and just these two names miss their records.

* `segments_below` — the segments of an address are those of its path;
* `resolveFrom_concat` — resolving a path that has dots in its last segment at most;
* `target_inquiry` — the target of every request for a record;
* `landing_eq_landing_iff` — which requests have the same target;
* `Config.requests_addressed` — what the requests of a configured service lead to.
-/

namespace DeviceHost.Http

/-! ### Paths and their segments -/

/-- Characters that neither part segments nor end a path. -/
def IsBare (cs : List Char) : Prop := ∀ c ∈ cs, c ≠ '/' ∧ c ≠ '?' ∧ c ≠ '#'

theorem IsBare.append {cs ds : List Char} (hcs : IsBare cs) (hds : IsBare ds) : IsBare (cs ++ ds) :=
  fun c hc => (List.mem_append.mp hc).elim (hcs c) (hds c)

/-- Bare characters hold no separator, so a bare text is one segment. -/
theorem IsBare.slash_not_mem {cs : List Char} (h : IsBare cs) : '/' ∉ cs :=
  fun hmem => (h '/' hmem).1 rfl

/-- Percent-encoding leaves nothing that an address would take apart. -/
theorem isBare_encode (cs : List Char) : IsBare (Percent.encode cs) := fun c hc =>
  have hsegment := Percent.forall_mem_encode cs c hc
  ⟨hsegment.ne rfl (by decide), hsegment.ne rfl (by decide), hsegment.ne rfl (by decide)⟩

/-- The path of some segments. -/
def below (ss : List String) : String := "/" ++ "/".intercalate ss

theorem toList_below {ss : List String} (h : ss ≠ []) :
    (below ss).toList = ['/'].intercalate ([] :: ss.map String.toList) := by
  obtain ⟨s, r, rfl⟩ := List.exists_cons_of_ne_nil h
  rw [below, String.toList_append, String.toList_intercalate]
  rfl

theorem resolvedPath_eq (address : String) :
    resolvedPath address = below (resolveFrom [] (segments address)) := rfl

/-- To part a text at the text `/` is to part it at the character: there is no match that is only
begun. -/
theorem splitOnAux_slash (s : String) (b i : String.Pos.Raw) (acc : List String) :
    String.splitOnAux s "/" b i 0 acc = String.splitAux s (· == '/') b i acc := by
  have hget : String.Pos.Raw.get "/" 0 = '/' := rfl
  have hend : String.Pos.Raw.atEnd "/" (String.Pos.Raw.next "/" 0) = true := rfl
  fun_induction String.splitAux s (· == '/') b i acc with
  | case1 b i acc hdone => unfold String.splitOnAux; rw [if_pos hdone]
  | case2 b i acc hmore _ hslash j ih =>
    have hc : String.Pos.Raw.get s i = '/' := by simpa using hslash
    have hback : (String.Pos.Raw.next s i).unoffsetBy (String.Pos.Raw.next "/" 0) = i := by
      rw [String.Pos.Raw.next, hc]; rfl
    unfold String.splitOnAux
    rw [if_neg hmore, if_pos (by rwa [hget]), if_pos hend, hback]
    exact ih
  | case3 b i acc hmore _ hother ih =>
    unfold String.splitOnAux
    rw [if_neg hmore, if_neg (by rwa [hget])]
    exact ih

theorem splitOn_slash (s : String) :
    s.splitOn "/" = (s.toList.splitOn '/').map String.ofList := by
  have hne : ¬ (("/" : String) == "") = true := by decide
  rw [String.splitOn, if_neg hne, splitOnAux_slash, List.splitOn_eq_splitOnP,
    ← String.splitToList_of_valid, String.splitToList]

/-- A path splits into the segments that it was put together from. -/
theorem splitOn_below {ss : List String} (hss : ∀ s ∈ ss, '/' ∉ s.toList) (hne : ss ≠ []) :
    (below ss).splitOn "/" = "" :: ss := by
  have hsep : ∀ l ∈ [] :: ss.map String.toList, '/' ∉ l := by
    intro l hl
    rcases List.mem_cons.mp hl with rfl | hl
    · exact List.not_mem_nil
    · obtain ⟨s, hs, rfl⟩ := List.mem_map.mp hl
      exact hss s hs
  rw [splitOn_slash, toList_below hne, List.splitOn_intercalate '/' hsep (by simp)]
  simp [Function.comp_def]

/-- Paths of segments without separators are equal only for equal segments. -/
theorem below_injective {ss ts : List String} (hss : ∀ s ∈ ss, '/' ∉ s.toList) (hne : ss ≠ [])
    (hts : ∀ t ∈ ts, '/' ∉ t.toList) (hne' : ts ≠ []) (h : below ss = below ts) : ss = ts := by
  have hsplit := splitOn_below hss hne
  rw [h, splitOn_below hts hne'] at hsplit
  exact (List.cons.inj hsplit).2.symm

theorem below_concat {ss : List String} (hne : ss ≠ []) (s : String) :
    below (ss ++ [s]) = below ss ++ "/" ++ s := by
  rw [below, below, String.intercalate_append_of_ne_nil hne (by simp), String.intercalate_singleton,
    String.append_assoc, String.append_assoc, String.append_assoc]

/-- What holds of the separator and of all characters of the segments holds of the whole path. -/
theorem forall_mem_below {p : Char → Prop} (hslash : p '/') {ss : List String}
    (hss : ∀ s ∈ ss, ∀ c ∈ s.toList, p c) : ∀ c ∈ (below ss).toList, p c := by
  have hinner : ∀ c ∈ ("/".intercalate ss).toList, p c := by
    induction ss with
    | nil => simp
    | cons s r ih =>
      rcases eq_or_ne r [] with rfl | hr
      · rw [String.intercalate_singleton]
        exact hss s (.head _)
      · intro c hc
        rw [String.intercalate_cons_of_ne_nil hr, String.toList_append, String.toList_append,
          List.mem_append, List.mem_append] at hc
        rcases hc with (hc | hc) | hc
        · exact hss s (.head _) c hc
        · obtain rfl := List.mem_singleton.mp hc
          exact hslash
        · exact ih (fun t ht => hss t (.tail _ ht)) c hc
  intro c hc
  rw [below, String.toList_append] at hc
  rcases List.mem_append.mp hc with hc | hc
  · obtain rfl := List.mem_singleton.mp hc
    exact hslash
  · exact hinner c hc

/-! ### Addresses -/

/-- The beginning of an address up to its path. -/
def IsBase (base : String) : Prop :=
  ∃ scheme place : List Char, base.toList = scheme ++ ':' :: '/' :: '/' :: place ∧
    (∀ c ∈ scheme, c ≠ ':' ∧ c ≠ '/') ∧ IsBare place

/-- What follows the host of a base address is the path behind it. -/
theorem afterHost_below {base : String} (h : IsBase base) (ss : List String) :
    afterHost (base ++ below ss).toList = (below ss).toList := by
  obtain ⟨scheme, place, hbase, hscheme, hplace⟩ := h
  obtain ⟨path, hpath⟩ : ∃ path, (below ss).toList = '/' :: path :=
    ⟨_, by rw [below, String.toList_append]; rfl⟩
  rw [String.toList_append, hbase, hpath, List.append_assoc, List.cons_append, List.cons_append,
    List.cons_append]
  have hfirst : (scheme ++ ':' :: '/' :: '/' :: (place ++ '/' :: path)).takeWhile
      (fun c => c != ':' && c != '/') = scheme := by
    rw [List.takeWhile_append_of_pos (by simpa using hscheme)]
    simp
  have hrest : (place ++ '/' :: path).dropWhile (fun c => c != '/' && c != '?' && c != '#') =
      '/' :: path := by
    rw [List.dropWhile_append_of_pos (by simpa [and_assoc, IsBare] using hplace)]
    simp
  simp only [afterHost, hfirst, List.drop_left, hrest]

/-- The segments of an address are those that were put behind its base. -/
theorem segments_below {base : String} (h : IsBase base) {ss : List String}
    (hss : ∀ s ∈ ss, IsBare s.toList) (hne : ss ≠ []) : segments (base ++ below ss) = ss := by
  have hpath : pathOf (base ++ below ss) = (below ss).toList := by
    rw [pathOf, afterHost_below h, List.takeWhile_eq_self_iff]
    refine forall_mem_below (by decide) fun s hs c hc => ?_
    simpa using (hss s hs c hc).2
  rw [segments, hpath, String.ofList_toList,
    splitOn_below (fun s hs => (hss s hs).slash_not_mem) hne]
  rfl

/-! ### Resolving -/

/-- What is left of some segments and one more when the last one is resolved. -/
def settle (ss : List String) (s : String) : List String :=
  if s = "." then ss ++ [""] else if s = ".." then ss.dropLast ++ [""] else ss ++ [s]

/-- Segments other than dots are kept, so that only the last one is left to settle. -/
theorem resolveFrom_concat (found : List String) {ss : List String}
    (hss : ∀ s ∈ ss, s ≠ "." ∧ s ≠ "..") (s : String) :
    resolveFrom found (ss ++ [s]) = settle (found.reverse ++ ss) s := by
  induction ss generalizing found with
  | nil =>
    rw [List.nil_append, List.append_nil, resolveFrom, settle, List.dropLast_reverse]
    simp only [List.reverse_cons]
  | cons t r ih =>
    obtain ⟨hdot, hdots⟩ := hss t (.head _)
    have hstep : resolveFrom found (t :: (r ++ [s])) = resolveFrom (t :: found) (r ++ [s]) := by
      -- a segment that is not the last one is resolved by the third equation
      rw [resolveFrom.eq_3 _ _ _ (by simp), if_neg hdot, if_neg hdots]
    rw [List.cons_append, hstep, ih _ fun u hu => hss u (.tail _ hu)]
    simp

end DeviceHost.Http

namespace DeviceHost.Client

open Http

/-! ### Requests for records -/

/-- The kinds of records that are asked for by name. -/
inductive Kind
  /-- a device, by its id -/
  | device
  /-- the devices of a service -/
  | devicesOf
  /-- a profile -/
  | profile
  deriving Repr, DecidableEq

namespace Kind

/-- The request for what has a name. -/
def inquiry : Kind → String → Inquiry
  | device => .device
  | devicesOf => .devicesOf
  | profile => .profile

/-- Where records of a kind are found. -/
def endpoint : Kind → String
  | device => "/api/v1/device"
  | devicesOf => "/api/v1/device/servicename"
  | profile => "/api/v1/deviceprofile/name"

/-- The segments of the endpoint. -/
def places : Kind → List String
  | device => ["api", "v1", "device"]
  | devicesOf => ["api", "v1", "device", "servicename"]
  | profile => ["api", "v1", "deviceprofile", "name"]

theorem below_places (k : Kind) : below k.places = k.endpoint := by
  cases k <;> decide

theorem places_ne_nil (k : Kind) : k.places ≠ [] := by
  cases k <;> decide

theorem isBare_of_mem_places (k : Kind) : ∀ s ∈ k.places, IsBare s.toList := by
  cases k <;> simp [places, IsBare]

theorem ne_dots_of_mem_places (k : Kind) : ∀ s ∈ k.places, s ≠ "." ∧ s ≠ ".." := by
  cases k <;> decide

/-- The path of an inquiry is the endpoint of its kind with the encoded text behind it. -/
theorem path_inquiry (k : Kind) (s : String) :
    path (k.inquiry s) = below (k.places ++ [segment s]) := by
  rw [below_concat k.places_ne_nil, below_places]
  cases k <;> exact congrArg (· ++ segment s) (by decide)

/-- An inquiry is sent as a bodiless GET to the resolved address of its path. -/
theorem request_inquiry (base : String) (k : Kind) (s : String) :
    request base (k.inquiry s) = ⟨"GET", resolvedPath (url base (k.inquiry s)), none, []⟩ := by
  cases k <;> rfl

end Kind

theorem isBare_segment (s : String) : IsBare (segment s).toList := by
  rw [segment, String.toList_ofList]
  exact isBare_encode s.toList

/-- Different texts are encoded differently. -/
theorem segment_injective {s t : String} (h : segment s = segment t) : s = t :=
  String.toList_inj.mp (Percent.encode_injective (String.ofList_inj.mp h))

/-- The segments that a request leads to. -/
def landing (k : Kind) (s : String) : List String := settle k.places (segment s)

/-- A text other than one or two dots lands below the endpoint of its kind. -/
theorem landing_of_ne {s : String} (h : s ≠ "." ∧ s ≠ "..") (k : Kind) :
    landing k s = k.places ++ [segment s] := by
  have hdot : segment s ≠ "." := fun hs => h.1 (segment_injective hs)
  have hdots : segment s ≠ ".." := fun hs => h.2 (segment_injective hs)
  rw [landing, settle, if_neg hdot, if_neg hdots]

/-- One dot lands at the endpoint itself, two dots one level above it, any other text below it. -/
theorem landing_cases (k : Kind) (s : String) :
    (s = "." ∧ landing k s = k.places ++ [""]) ∨
    (s = ".." ∧ landing k s = k.places.dropLast ++ [""]) ∨
    ((s ≠ "." ∧ s ≠ "..") ∧ landing k s = k.places ++ [segment s]) := by
  by_cases hdot : s = "."
  · subst hdot
    exact .inl ⟨rfl, by cases k <;> decide⟩
  by_cases hdots : s = ".."
  · subst hdots
    exact .inr (.inl ⟨rfl, by cases k <;> decide⟩)
  exact .inr (.inr ⟨⟨hdot, hdots⟩, landing_of_ne ⟨hdot, hdots⟩ k⟩)

/-- The target of a request for a record. -/
theorem target_inquiry {base : String} (h : IsBase base) (k : Kind) (s : String) :
    (request base (k.inquiry s)).target = below (landing k s) := by
  have hbare : ∀ t ∈ k.places ++ [segment s], IsBare t.toList :=
    List.forall_mem_append.mpr
      ⟨k.isBare_of_mem_places, List.forall_mem_singleton.mpr (isBare_segment s)⟩
  rw [k.request_inquiry, resolvedPath_eq, url, k.path_inquiry, segments_below h hbare (by simp),
    resolveFrom_concat [] k.ne_dots_of_mem_places]
  rfl

/-- Dots leave an empty segment behind. -/
theorem ne_dots_of_landing {k : Kind} {s t : String} {ss : List String}
    (h : landing k s = ss ++ [t]) (ht : t ≠ "") : s ≠ "." ∧ s ≠ ".." := by
  obtain ⟨-, hl⟩ | ⟨-, hl⟩ | ⟨hne, -⟩ := landing_cases k s
  · rw [hl, List.append_singleton_inj] at h
    exact absurd h.2.symm ht
  · rw [hl, List.append_singleton_inj] at h
    exact absurd h.2.symm ht
  · exact hne

theorem slash_not_mem_landing (k : Kind) (s : String) : ∀ t ∈ landing k s, '/' ∉ t.toList := by
  have hplaces : ∀ t ∈ k.places, '/' ∉ t.toList :=
    fun t ht => (k.isBare_of_mem_places t ht).slash_not_mem
  have hempty : ∀ t ∈ [""], '/' ∉ t.toList := by simp
  obtain ⟨-, h⟩ | ⟨-, h⟩ | ⟨-, h⟩ := landing_cases k s
  · rw [h]
    exact List.forall_mem_append.mpr ⟨hplaces, hempty⟩
  · rw [h]
    exact List.forall_mem_append.mpr
      ⟨fun t ht => hplaces t (List.mem_of_mem_dropLast ht), hempty⟩
  · rw [h]
    exact List.forall_mem_append.mpr
      ⟨hplaces, List.forall_mem_singleton.mpr (isBare_segment s).slash_not_mem⟩

theorem landing_ne_nil (k : Kind) (s : String) : landing k s ≠ [] := by
  obtain ⟨-, h⟩ | ⟨-, h⟩ | ⟨-, h⟩ := landing_cases k s <;> simp [h]

/-- The target of a request is that of some segments only if the request leads to them. -/
theorem target_eq_below_iff {base : String} (h : IsBase base) (k : Kind) (s : String)
    {ss : List String} (hss : ∀ t ∈ ss, '/' ∉ t.toList) (hne : ss ≠ []) :
    (request base (k.inquiry s)).target = below ss ↔ landing k s = ss := by
  rw [target_inquiry h]
  exact ⟨below_injective (slash_not_mem_landing k s) (landing_ne_nil k s) hss hne,
    congrArg below⟩

/-! ### Which records are reached -/

/-- A target is a path and one segment below it that stands for a name. -/
def LeadsTo (target path name : String) : Prop :=
  ∃ cs : List Char, IsBare cs ∧ target = path ++ "/" ++ String.ofList cs ∧
    Percent.text? cs = some name

/-- The request for a text that is not empty leads to its record exactly if it is not dots. -/
theorem leadsTo_iff {base : String} (h : IsBase base) (k : Kind) {s : String} (hs : s ≠ "") :
    LeadsTo (request base (k.inquiry s)).target k.endpoint s ↔ s ≠ "." ∧ s ≠ ".." := by
  constructor
  · rintro ⟨cs, hcs, htarget, htext⟩
    have hbare : ∀ t ∈ k.places ++ [String.ofList cs], '/' ∉ t.toList :=
      List.forall_mem_append.mpr ⟨fun t ht => (k.isBare_of_mem_places t ht).slash_not_mem,
        List.forall_mem_singleton.mpr (by simpa using hcs.slash_not_mem)⟩
    rw [← k.below_places, ← below_concat k.places_ne_nil,
      target_eq_below_iff h k s hbare (by simp)] at htarget
    -- an empty segment stands for no name but the empty one
    refine ne_dots_of_landing htarget fun hempty => ?_
    obtain rfl := String.ofList_eq_empty_iff.mp hempty
    exact hs (Option.some.inj htext).symm
  · intro hne
    refine ⟨Percent.encode s.toList, isBare_encode _, ?_, Percent.text?_encode s⟩
    rw [target_inquiry h, landing_of_ne hne, below_concat k.places_ne_nil, k.below_places]
    rfl

/-- The two requests that are one although they ask for different things. -/
def Crossed (k : Kind) (s : String) (l : Kind) (t : String) : Prop :=
  (k = .device ∧ s = ".") ∧ l = .devicesOf ∧ t = ".."

theorem Kind.places_injective {k l : Kind} (h : k.places = l.places) : k = l := by
  cases k <;> cases l <;> first | rfl | exact absurd h (by decide)

theorem segment_ne_empty {s : String} (h : s ≠ "") : segment s ≠ "" :=
  fun hs => h (segment_injective hs)

/-- Apart from dots, requests land at one place only for equal kinds and texts. -/
theorem landing_eq_landing_iff_of_ne {k l : Kind} {s t : String} (hs : s ≠ "")
    (hne : s ≠ "." ∧ s ≠ "..") : landing k s = landing l t ↔ k = l ∧ s = t := by
  constructor
  · intro h
    rw [landing_of_ne hne] at h
    have htne := ne_dots_of_landing h.symm (segment_ne_empty hs)
    rw [landing_of_ne htne, List.append_singleton_inj] at h
    exact ⟨Kind.places_injective h.1, segment_injective h.2⟩
  · rintro ⟨rfl, rfl⟩
    rfl

/-- Two requests land at one place only if they are equal or one of them is dots that cross the
other. -/
theorem landing_eq_landing_iff {k l : Kind} {s t : String} (hs : s ≠ "") (ht : t ≠ "") :
    landing k s = landing l t ↔ (k = l ∧ s = t) ∨ Crossed k s l t ∨ Crossed l t k s := by
  by_cases hsne : s ≠ "." ∧ s ≠ ".."
  · rw [landing_eq_landing_iff_of_ne hs hsne]
    simp [Crossed, hsne]
  by_cases htne : t ≠ "." ∧ t ≠ ".."
  · rw [eq_comm, landing_eq_landing_iff_of_ne ht htne]
    simp [Crossed, htne, eq_comm]
  have hsdots : s = "." ∨ s = ".." := by rwa [not_and_or, not_not, not_not] at hsne
  have htdots : t = "." ∨ t = ".." := by rwa [not_and_or, not_not, not_not] at htne
  -- two names and three kinds on either side: the targets are written out and compared
  unfold Crossed
  rcases hsdots with rfl | rfl <;> rcases htdots with rfl | rfl <;>
    cases k <;> cases l <;> decide

/-- Requests are the same if their targets are. -/
theorem request_eq_request_iff {base : String} (h : IsBase base) {k l : Kind} {s t : String} :
    request base (k.inquiry s) = request base (l.inquiry t) ↔ landing k s = landing l t := by
  rw [← target_eq_below_iff h k s (slash_not_mem_landing l t) (landing_ne_nil l t),
    ← target_inquiry h, k.request_inquiry, l.request_inquiry]
  simp

/-- What the requests to an authority address, whose address begins with `base`. -/
structure Addressed (base : String) : Prop where
  /-- the record asked for, unless its name is `.` or `..` -/
  leadsTo (k : Kind) (s : String) : s ≠ "" →
    (LeadsTo (request base (k.inquiry s)).target k.endpoint s ↔ s ≠ "." ∧ s ≠ "..")
  /-- no record of the endpoint, if it is `.` -/
  dot (k : Kind) : (request base (k.inquiry ".")).target = k.endpoint ++ "/"
  /-- the place above the endpoint, if it is `..` -/
  dots (k : Kind) : ∃ above place, '/' ∉ place.toList ∧ k.endpoint = above ++ "/" ++ place ∧
    (request base (k.inquiry "..")).target = above ++ "/"
  /-- different requests for different records, but for one pair of dots -/
  distinct (k l : Kind) (s t : String) : s ≠ "" → t ≠ "" →
    (request base (k.inquiry s) = request base (l.inquiry t) ↔
      (k = l ∧ s = t) ∨ Crossed k s l t ∨ Crossed l t k s)

theorem addressed_of_isBase {base : String} (h : IsBase base) : Addressed base where
  leadsTo k _ hs := leadsTo_iff h k hs
  dot k := by
    rw [target_inquiry h]
    cases k <;> decide
  dots k := by
    refine ⟨below k.places.dropLast, k.places.getLast k.places_ne_nil,
      (k.isBare_of_mem_places _ (List.getLast_mem _)).slash_not_mem, ?_, ?_⟩
    · cases k <;> decide
    · rw [target_inquiry h]
      cases k <;> decide
  distinct k l s t hs ht := by rw [request_eq_request_iff h, landing_eq_landing_iff hs ht]

end DeviceHost.Client

namespace DeviceHost.Config

open Http Client

/-! ### Configured authorities -/

/-- A host without a path, with the scheme of a web address or without one. A client takes `\` for
`/`. -/
def Pathless (host : String) : Prop :=
  ∃ scheme ∈ ["", "http://", "https://"], ∃ bare : List Char, IsBare bare ∧ '\\' ∉ bare ∧
    (withoutSlashes host).toList = scheme.toList ++ bare

theorem isBare_natText (n : Nat) : IsBare (Numeral.natText n).toList := by
  intro c hc
  rw [Numeral.natText, String.toList_ofList] at hc
  have hdigit : Numeral.isDigit c = true := (Numeral.isDecimal_digits n).all_digits c hc
  refine ⟨?_, ?_, ?_⟩ <;> rintro rfl <;> cases hdigit

/-- A host names its scheme if it starts with one of the two known ones. -/
theorem hasScheme_iff (host : String) : hasScheme host = true ↔
    "http://".toList <+: host.toList ∨ "https://".toList <+: host.toList := by
  rw [hasScheme, Bool.or_eq_true, String.startsWith_string_iff, String.startsWith_string_iff]

theorem baseUrl_of_hasScheme {c : Config} (h : hasScheme (withoutSlashes c.metadata.host) = true) :
    c.baseUrl =
      withoutSlashes c.metadata.host ++ (":" ++ Numeral.natText c.metadata.port.toNat) := by
  simp only [baseUrl, if_pos h, ← String.append_assoc]
  rfl

theorem baseUrl_of_not_hasScheme {c : Config}
    (h : ¬ hasScheme (withoutSlashes c.metadata.host) = true) : c.baseUrl =
      "http://" ++ (withoutSlashes c.metadata.host ++
        (":" ++ Numeral.natText c.metadata.port.toNat)) := by
  simp only [baseUrl, if_neg h, ← String.append_assoc]
  rfl

/-- A configured host without a path gives a base address. -/
theorem isBase_baseUrl {c : Config} (h : Pathless c.metadata.host) : IsBase c.baseUrl := by
  obtain ⟨scheme, hscheme, bare, hbare, -, hhost⟩ := h
  have hplace : IsBare (bare ++ (":" ++ Numeral.natText c.metadata.port.toNat).toList) := by
    rw [String.toList_append]
    exact hbare.append (IsBare.append (by simp [IsBare]) (isBare_natText _))
  rcases List.mem_cons.mp hscheme with rfl | hscheme
  · have hnone : ¬ hasScheme (withoutSlashes c.metadata.host) = true := by
      rw [hasScheme_iff, hhost]
      rintro (hfront | hfront) <;> exact hbare.slash_not_mem (hfront.subset (by decide))
    refine ⟨"http".toList, _, ?_, by simp, hplace⟩
    rw [baseUrl_of_not_hasScheme hnone, String.toList_append, String.toList_append, hhost]
    rfl
  · have hsome : hasScheme (withoutSlashes c.metadata.host) = true := by
      rw [hasScheme_iff, hhost]
      rcases List.mem_pair.mp hscheme with rfl | rfl
      · exact .inl (List.prefix_append _ _)
      · exact .inr (List.prefix_append _ _)
    obtain ⟨word, hword, hchars⟩ : ∃ word : List Char,
        scheme.toList = word ++ [':', '/', '/'] ∧ ∀ d ∈ word, d ≠ ':' ∧ d ≠ '/' := by
      rcases List.mem_pair.mp hscheme with rfl | rfl
      · exact ⟨"http".toList, rfl, by simp⟩
      · exact ⟨"https".toList, rfl, by simp⟩
    refine ⟨word, _, ?_, hchars, hplace⟩
    rw [baseUrl_of_hasScheme hsome, String.toList_append, hhost, hword]
    simp

theorem pathless_standard : Pathless Config.standard.metadata.host :=
  ⟨"", .head _, "localhost".toList, by simp [IsBare], by simp, by decide⟩

/-- **Requests address the records that they ask for**: all but those for `.` and `..`, which a
client takes for directions. -/
theorem requests_addressed (c : Config) (h : Pathless c.metadata.host) : Addressed c.baseUrl :=
  addressed_of_isBase (isBase_baseUrl h)

theorem requests_addressed_standard : Pathless Config.standard.metadata.host ∧
    LeadsTo (request Config.standard.baseUrl (.device "a b/c")).target "/api/v1/device" "a b/c" :=
  ⟨pathless_standard, ((requests_addressed Config.standard pathless_standard).leadsTo .device
    "a b/c" (by decide)).mpr (by decide)⟩

/-- A device whose id is `..` is looked for outside the devices. -/
theorem not_forall_leadsTo : ¬ ∀ (c : Config) (k : Kind) (s : String),
    Pathless c.metadata.host → s ≠ "" →
      LeadsTo (request c.baseUrl (k.inquiry s)).target k.endpoint s := by
  intro h
  have hleads := h Config.standard .device ".." pathless_standard (by decide)
  rw [leadsTo_iff (isBase_baseUrl pathless_standard) .device (by decide)] at hleads
  exact hleads.2 rfl

end DeviceHost.Config
