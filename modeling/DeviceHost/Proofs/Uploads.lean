import DeviceHost.Driver.Template
import DeviceHost.Proofs.Traffic
import Mathlib.Data.List.Induction

/-!
# What a start asks about the profiles

A start hands over the profiles of a folder that the authority does not have. It looks their names
up, so a name that is in the cache already is not asked for. That is meant for the name that an
earlier file of the folder has carried. But it also holds for a name that the service has learned
before the start, while it did not run: from a look-up, or from a start that went wrong later. Such
a profile is not handed over, whether or not the authority has it by now.

* `Authority.log` — requests to the authority with their answers, and `Authority.Converses` — the
  log of a trace;
* `Profiles.Lookup` — the ways in which a look-up of a profile ends;
* `Profiles.Settles`, `Profiles.HandsOver` — what is asked about a single file, and about the files
  of a folder one after the other;
* `Learns` — an operation from which a service that does not run learns a name, and `exists_learns`
  — there has been one for every name that such a service knows;
* `StartAsks` — the whole account of a start that goes well, and `startAsks_of_ok`;
* `not_forall_asked` — a start that does not ask for the name of one of its files.
-/

namespace DeviceHost

open Activity

/-! ## Requests and answers -/

/-- The requests to the authority in a trace, first request first. -/
def inquiries (es : List Event) : List Inquiry :=
  es.filterMap fun
    | .asked q => some q
    | _ => none

/-- Whether a request hands a profile over. -/
def Inquiry.isUpload : Inquiry → Bool
  | upload _ => true
  | _ => false

/-- An event that is not a request to the authority. -/
def Event.IsUnasked : Event → Prop
  | asked _ => False
  | _ => True

theorem inquiries_append (es fs : List Event) :
    inquiries (es ++ fs) = inquiries es ++ inquiries fs :=
  List.filterMap_append

theorem Event.IsLogged.isUnasked {e : Event} (h : e.IsLogged) : e.IsUnasked := by
  cases e with
  | logged line => trivial
  | asked q => exact h.elim
  | called c => exact h.elim
  | told l c => exact h.elim

theorem inquiries_of_unasked {es : List Event} (h : ∀ e ∈ es, e.IsUnasked) :
    inquiries es = [] := by
  refine List.filterMap_eq_nil_iff.mpr fun e he => ?_
  cases e with
  | asked q => exact (h _ he).elim
  | logged line => rfl
  | called c => rfl
  | told l c => rfl

namespace Authority

variable {α : Type}

/-- A request and its answer. -/
structure Reply where
  /-- the request -/
  inquiry : Inquiry
  /-- the body of the response, or a failure -/
  answer : Except AuthorityError (List UInt8)

/-- What an authority answers to one request after the other. -/
def log (a : Authority α) (s : α) : List Inquiry → List Reply
  | [] => []
  | q :: qs => ⟨q, (a.answer q s).1⟩ :: a.log (a.answer q s).2 qs

/-- The state of an authority after one request after the other. -/
def after (a : Authority α) (s : α) (qs : List Inquiry) : α :=
  qs.foldl (fun s q => (a.answer q s).2) s

theorem log_append (a : Authority α) (s : α) (qs rs : List Inquiry) :
    a.log s (qs ++ rs) = a.log s qs ++ a.log (a.after s qs) rs := by
  induction qs generalizing s with
  | nil => rfl
  | cons q qs ih =>
    rw [List.cons_append, log, log, ih]
    rfl

theorem after_append (a : Authority α) (s : α) (qs rs : List Inquiry) :
    a.after s (qs ++ rs) = a.after (a.after s qs) rs :=
  List.foldl_append

/-- The requests of a trace are answered in this way, from one state of the authority to another. -/
structure Converses (a : Authority α) (s : α) (es : List Event) (replies : List Reply) (s' : α) :
    Prop where
  /-- the requests with their answers -/
  log : a.log s (inquiries es) = replies
  /-- the state afterwards -/
  after : a.after s (inquiries es) = s'

namespace Converses

variable {a : Authority α} {s s' s'' : α}

theorem of_unasked {es : List Event} (h : ∀ e ∈ es, e.IsUnasked) : Converses a s es [] s := by
  constructor <;> rw [inquiries_of_unasked h] <;> rfl

/-- A single inquiry is answered by what the authority says to it. -/
theorem asked (a : Authority α) (q : Inquiry) (s : α) :
    Converses a s [.asked q] [⟨q, (a.answer q s).1⟩] (a.answer q s).2 :=
  ⟨rfl, rfl⟩

/-- Two conversations in a row are one, with the replies of both. -/
theorem append {es fs : List Event} {replies more : List Reply} (h : Converses a s es replies s')
    (h' : Converses a s' fs more s'') : Converses a s (es ++ fs) (replies ++ more) s'' := by
  constructor
  · rw [inquiries_append, log_append, h.log, h.after, h'.log]
  · rw [inquiries_append, after_append, h.after, h'.after]

end Converses

/-- A profile is handed over by one inquiry, whose receipt is not looked at. -/
theorem upload_eq (a : Authority α) (yaml : String) (s : α) :
    a.upload yaml s =
      ⟨(a.answer (.upload yaml) s).1.map fun _ => (), (a.answer (.upload yaml) s).2,
        [.asked (.upload yaml)]⟩ := by
  rw [upload, bind_eq, Activity.bind, ask]
  dsimp only
  rcases (a.answer (.upload yaml) s).1 with e | body <;> rfl

/-- A list of devices comes of one inquiry that was answered. -/
theorem converses_fetchDevices {a : Authority α} {service : String} {s : α} {listed : List Device}
    (h : (a.fetchDevices service s).value = .ok listed) :
    ∃ body, Converses a s (a.fetchDevices service s).trace [⟨.devicesOf service, .ok body⟩]
      (a.fetchDevices service s).state := by
  rw [fetchDevices, bind_eq, Activity.bind, askFor_eq] at h ⊢
  have hasked := Converses.asked a (.devicesOf service) s
  dsimp only at h ⊢
  rcases hanswer : (a.answer (.devicesOf service) s).1 with e | body
  · rw [hanswer] at h
    cases h
  · rw [hanswer] at h hasked
    refine ⟨body, ?_⟩
    rw [Except.bind] at h ⊢
    rcases hread : Device.decodeEntries body with p | entries
    · rw [hread] at h
      cases h
    · refine hasked.append (.of_unasked fun e he => ?_)
      -- only the entries that are passed over are written to the log
      rcases List.mem_append.mp he with he | he
      · obtain ⟨position, -, rfl⟩ := List.mem_map.mp he
        trivial
      · cases he

end Authority

/-! ## Profiles -/

/-- A name is in the cache. -/
def ProfileCache.Knows (c : ProfileCache) (name : String) : Prop := (c.cached? name).isSome

theorem ProfileCache.knows_of_cached? {c : ProfileCache} {name : String} {p : Profile}
    (h : c.cached? name = some p) : c.Knows name := by
  rw [Knows, h]
  rfl

/-- A kept profile makes its name known and no other. -/
theorem ProfileCache.knows_keep {c : ProfileCache} {name n : String} {p : Profile} :
    (c.keep name p).Knows n ↔ c.Knows n ∨ n = name := by
  rw [Knows, cached?_keep]
  split
  · rename_i h
    exact ⟨fun _ => .inr h.symm, fun _ => rfl⟩
  · rename_i h
    exact ⟨.inl, fun h' => h'.elim id fun he => absurd he.symm h⟩

namespace Profiles

open Authority (Reply Converses)

variable {α : Type} {a : Authority α} {ps : Profiles α}

/-- The ways in which a look-up of a profile ends. -/
inductive Lookup (a : Authority α) (name : String) (ps : Profiles α) :
    Outcome Event (Profiles α) (Except AuthorityError Profile) → Prop
  /-- the name is known, and the authority is not asked -/
  | known (p : Profile) (h : ps.cache.cached? name = some p) : Lookup a name ps ⟨.ok p, ps, []⟩
  /-- the authority fails to give the profile -/
  | refused (e : AuthorityError) (h : ¬ ps.cache.Knows name)
    (answer : (a.answer (.profile name) ps.authority).1 = .error e) :
    Lookup a name ps ⟨.error e, ⟨ps.cache, (a.answer (.profile name) ps.authority).2⟩,
      [.asked (.profile name)]⟩
  /-- the authority gives something else -/
  | garbled (body : List UInt8) (problem : Problem) (h : ¬ ps.cache.Knows name)
    (answer : (a.answer (.profile name) ps.authority).1 = .ok body)
    (undecoded : Profile.decode body = .error problem) :
    Lookup a name ps ⟨.error (.decode problem),
      ⟨ps.cache, (a.answer (.profile name) ps.authority).2⟩, [.asked (.profile name)]⟩
  /-- the authority gives the profile, which is kept under the name -/
  | given (body : List UInt8) (p : Profile) (line : LogLine) (h : ¬ ps.cache.Knows name)
    (answer : (a.answer (.profile name) ps.authority).1 = .ok body)
    (decoded : Profile.decode body = .ok p) :
    Lookup a name ps
      ⟨.ok p, ⟨ps.cache.keep name p, (a.answer (.profile name) ps.authority).2⟩,
        [.asked (.profile name), .logged line]⟩

/-- Every look-up of a profile follows from the cache and the authority's answer. -/
theorem lookup_get (a : Authority α) (name : String) (ps : Profiles α) :
    Lookup a name ps (get a name ps) := by
  rw [get, look_bind]
  rcases hcached : ps.cache.cached? name with _ | p
  · have hnew : ¬ ps.cache.Knows name := by simp [ProfileCache.Knows, hcached]
    dsimp only
    rw [bind_eq, Activity.bind, on, Authority.fetchProfile, Authority.askFor_eq]
    dsimp only [authorityPart]
    rcases hanswer : (a.answer (.profile name) ps.authority).1 with e | body
    · exact .refused e hnew hanswer
    · rw [Except.bind]
      rcases hdecode : Profile.decode body with problem | p
      · exact .garbled body problem hnew hanswer hdecode
      · exact .given body p _ hnew hanswer hdecode
  · exact .known p hcached

/-- A look-up makes no other name known than the one that is looked up. -/
theorem knows_get {name n : String} (h : (get a name ps).state.cache.Knows n) :
    ps.cache.Knows n ∨ n = name := by
  have hlook := lookup_get a name ps
  generalize get a name ps = o at hlook h
  cases hlook with
  | known p hcached => exact .inl h
  | refused e _ _ => exact .inl h
  | garbled _ _ _ _ _ => exact .inl h
  | given body p line _ _ _ => exact ProfileCache.knows_keep.mp h

/-- What is asked about a profile that is to be handed over, given whether its name is known. -/
inductive Settles (yaml name : String) (known : Prop) : List Reply → Prop
  /-- the name is known, and nothing is asked -/
  | skipped (h : known) : Settles yaml name known []
  /-- the authority has the profile -/
  | found (h : ¬ known) (body : List UInt8) (p : Profile) (decoded : Profile.decode body = .ok p) :
    Settles yaml name known [⟨.profile name, .ok body⟩]
  /-- the authority does not have the profile; it is handed over and then found -/
  | handedOver (h : ¬ known) (what : String) (receipt body : List UInt8) (p : Profile)
    (decoded : Profile.decode body = .ok p) :
    Settles yaml name known
      [⟨.profile name, .error (.notFound what)⟩, ⟨.upload yaml, .ok receipt⟩,
        ⟨.profile name, .ok body⟩]

/-- Everything that is asked in some work on the profiles, after which one more name is known. -/
structure Introduces (a : Authority α) (name : String) (replies : List Reply) (ps : Profiles α)
    {β : Type} (o : Outcome Event (Profiles α) β) : Prop where
  /-- what is asked and answered -/
  converses : Converses a ps.authority o.trace replies o.state.authority
  /-- the names that are known afterwards -/
  knows : ∀ n, o.state.cache.Knows n ↔ ps.cache.Knows n ∨ n = name

/-- Hand a profile over that the authority does not have, and look it up again. -/
def deliver (a : Authority α) (path yaml name : String) :
    Activity Event (Profiles α) (Except FolderError Bool) := do
  Activity.emit (.line .info s!"Uploading device profile from {path}")
  match ← (a.upload yaml).on authorityPart with
  | .error e => return .error (.authority e)
  | .ok () =>
    match ← get a name with
    | .error e => return .error (.authority e)
    | .ok _ => return .ok true

/-- Handing over a profile that was not known introduces it: an upload, then a fetch. -/
theorem introduces_deliver {path yaml name : String} {isNew : Bool}
    (h : (deliver a path yaml name ps).value = .ok isNew) (hnew : ¬ ps.cache.Knows name) :
    isNew = true ∧ ∃ receipt body p, Profile.decode body = .ok p ∧
      Introduces a name [⟨.upload yaml, .ok receipt⟩, ⟨.profile name, .ok body⟩] ps
        (deliver a path yaml name ps) := by
  rw [deliver, bind_eq, Activity.bind] at h ⊢
  dsimp only [emit] at h ⊢
  rw [bind_eq, Activity.bind, on, Authority.upload_eq] at h ⊢
  dsimp only [authorityPart] at h ⊢
  have hlook := lookup_get a name ⟨ps.cache, (a.answer (.upload yaml) ps.authority).2⟩
  rcases hsent : (a.answer (.upload yaml) ps.authority).1 with e | receipt
  · rw [hsent] at h
    cases h
  · rw [hsent] at h
    dsimp only [Except.map] at h ⊢
    rw [bind_eq, Activity.bind] at h ⊢
    generalize get a name ⟨ps.cache, (a.answer (.upload yaml) ps.authority).2⟩ = o at hlook h ⊢
    cases hlook with
    | known p hcached => exact (hnew (ProfileCache.knows_of_cached? hcached)).elim
    | refused e _ _ => cases h
    | garbled _ _ _ _ _ => cases h
    | given body p line _ answer decoded =>
      obtain rfl : true = isNew := Except.ok.inj h
      refine ⟨rfl, receipt, body, p, decoded, ⟨?_, rfl⟩, fun n => ProfileCache.knows_keep⟩
      rw [← hsent, ← answer]
      rfl

/-- What is done about a profile, given what looking it up has come to. -/
def settle (a : Authority α) (path yaml name : String) :
    Except AuthorityError Profile → Activity Event (Profiles α) (Except FolderError Bool)
  | .ok _ => do
    Activity.emit (.line .info s!"Device profile {name} already exists: skipped")
    return .ok false
  | .error (.notFound _) => deliver a path yaml name
  | .error e => return .error (.authority e)

/-- A file that can be read is settled by a look-up of its name. -/
theorem uploadFile_of_read {path : String} {content : FileContent} {yaml name : String}
    (h : readProfile path content = .ok (yaml, name)) (ps : Profiles α) :
    uploadFile a path content ps =
      (Activity.emit (.line .debug s!"Checking existence of device profile {name}") >>= fun _ =>
        get a name >>= settle a path yaml name) ps := by
  rw [uploadFile, h]
  rfl

/-- A file that is dealt with carries a named profile, of which exactly what is necessary is asked;
afterwards its name is known. It counts as new if it was handed over. -/
theorem settles_of_uploadFile {path : String} {content : FileContent} {isNew : Bool}
    (h : (uploadFile a path content ps).value = .ok isNew) :
    ∃ yaml name replies, readProfile path content = .ok (yaml, name) ∧
      Settles yaml name (ps.cache.Knows name) replies ∧
      Introduces a name replies ps (uploadFile a path content ps) ∧
      isNew = replies.any fun r => r.inquiry.isUpload := by
  rcases hread : readProfile path content with e | ⟨yaml, name⟩
  · rw [uploadFile, hread] at h
    cases h
  · refine ⟨yaml, name, ?_⟩
    rw [uploadFile_of_read hread, bind_eq, Activity.bind] at h ⊢
    dsimp only [emit] at h ⊢
    rw [bind_eq, Activity.bind] at h ⊢
    have hlook := lookup_get a name ps
    generalize get a name ps = o at hlook h ⊢
    cases hlook with
    | known p hcached =>
      have hknown := ProfileCache.knows_of_cached? hcached
      exact ⟨[], rfl, .skipped hknown, ⟨⟨rfl, rfl⟩, fun n =>
        ⟨.inl, fun hn => hn.elim id fun hn => hn ▸ hknown⟩⟩, (Except.ok.inj h).symm⟩
    | given body p line hnew answer decoded =>
      refine ⟨_, rfl, .found hnew body p decoded, ⟨⟨?_, rfl⟩, fun n => ProfileCache.knows_keep⟩,
        (Except.ok.inj h).symm⟩
      rw [← answer]
      rfl
    | garbled _ _ _ _ _ => cases h
    | refused e hnew answer =>
      cases e with
      | notFound what =>
        have hvalue : (deliver a path yaml name
            ⟨ps.cache, (a.answer (.profile name) ps.authority).2⟩).value = .ok isNew := h
        obtain ⟨hisNew, receipt, body, p, decoded, hdeliver⟩ := introduces_deliver hvalue hnew
        have hasked := Converses.asked a (.profile name) ps.authority
        rw [answer] at hasked
        have hconverses := hasked.append hdeliver.converses
        exact ⟨_, rfl, .handedOver hnew what receipt body p decoded,
          ⟨⟨hconverses.log, hconverses.after⟩, hdeliver.knows⟩, hisNew⟩
      | _ => cases h

/-- A file of a folder carries the profile of a name. -/
def Carries (folder : String) (file : FileName × FileContent) (name : String) : Prop :=
  ∃ yaml, readProfile (filePath folder file.1) file.2 = .ok (yaml, name)

/-- A file that can be read carries exactly its name. -/
theorem carries_iff {folder : String} {file : FileName × FileContent} {yaml name n : String}
    (h : readProfile (filePath folder file.1) file.2 = .ok (yaml, name)) :
    Carries folder file n ↔ n = name := by
  constructor
  · rintro ⟨yaml', h'⟩
    exact (Prod.mk.inj (Except.ok.inj (h'.symm.trans h))).2
  · rintro rfl
    exact ⟨yaml, h⟩

/-- What is asked about the files of a folder, one after the other, given the names that are known.
The name of a file is known to those that come after it. -/
inductive HandsOver (folder : String) :
    (String → Prop) → List (FileName × FileContent) → List Reply → Prop
  /-- there are no files -/
  | nil (known : String → Prop) : HandsOver folder known [] []
  /-- one file is dealt with, and then the others -/
  | cons {known : String → Prop} {file : FileName × FileContent} {yaml name : String}
    {mine : List Reply} {files : List (FileName × FileContent)} {later : List Reply}
    (read : readProfile (filePath folder file.1) file.2 = .ok (yaml, name))
    (settles : Settles yaml name (known name) mine)
    (rest : HandsOver folder (fun n => known n ∨ n = name) files later) :
    HandsOver folder known (file :: files) (mine ++ later)

/-- How many profiles are handed over. -/
def uploads (replies : List Reply) : Nat := replies.countP fun r => r.inquiry.isUpload

theorem uploads_append (replies more : List Reply) :
    uploads (replies ++ more) = uploads replies + uploads more :=
  List.countP_append

/-- A file is handed over at most once. -/
theorem Settles.uploads {yaml name : String} {known : Prop} {replies : List Reply}
    (h : Settles yaml name known replies) :
    uploads replies = if replies.any fun r => r.inquiry.isUpload then 1 else 0 := by
  cases h <;> rfl

/-- Everything that is asked about the files of a folder, when all of them have been dealt with.
What is counted is what is handed over, and afterwards the names that the files carry are known. -/
theorem handsOver_of_uploadFiles {folder : String} {files : List (FileName × FileContent)}
    {count n : Nat} (h : (uploadFiles a folder count files ps).value = .ok n) :
    ∃ replies, HandsOver folder ps.cache.Knows files replies ∧
      Converses a ps.authority (uploadFiles a folder count files ps).trace replies
        (uploadFiles a folder count files ps).state.authority ∧
      n = count + uploads replies ∧
      ∀ m, (uploadFiles a folder count files ps).state.cache.Knows m ↔
        ps.cache.Knows m ∨ ∃ f ∈ files, Carries folder f m := by
  induction files generalizing count ps with
  | nil => exact ⟨[], .nil _, ⟨rfl, rfl⟩, (Except.ok.inj h).symm, by simp [uploadFiles]⟩
  | cons file files ih =>
    rw [uploadFiles, bind_eq, Activity.bind] at h ⊢
    dsimp only at h ⊢
    rcases hfile : (uploadFile a (filePath folder file.1) file.2 ps).value with e | isNew
    · rw [hfile] at h
      cases h
    · rw [hfile] at h
      obtain ⟨yaml, name, mine, hread, hsettles, hintroduces, hisNew⟩ := settles_of_uploadFile hfile
      obtain ⟨later, hrest, hconverses, hcount, hafter⟩ := ih h
      -- the names known to the other files are those known to this one, and its own
      have hknows : (uploadFile a (filePath folder file.1) file.2 ps).state.cache.Knows =
          fun n => ps.cache.Knows n ∨ n = name := funext fun n => propext (hintroduces.knows n)
      rw [hknows] at hrest
      refine ⟨mine ++ later, .cons hread hsettles hrest, hintroduces.converses.append hconverses,
        ?_, fun m => ?_⟩
      · rw [hcount, uploads_append, hsettles.uploads, ← hisNew]
        split
        · rw [Nat.add_assoc]
        · rw [Nat.zero_add]
      · rw [hafter, hknows]
        simp [carries_iff hread, or_assoc]

/-- What is asked about any of the files: its name may be known from the beginning, or because an
earlier file carries it. -/
theorem HandsOver.split {folder : String} {known : String → Prop}
    {before after : List (FileName × FileContent)} {file : FileName × FileContent}
    {replies : List Reply} (h : HandsOver folder known (before ++ file :: after) replies) :
    ∃ yaml name earlier mine later,
      readProfile (filePath folder file.1) file.2 = .ok (yaml, name) ∧
        replies = earlier ++ mine ++ later ∧ HandsOver folder known before earlier ∧
          Settles yaml name (known name ∨ ∃ f ∈ before, Carries folder f name) mine := by
  induction before generalizing known replies with
  | nil =>
    cases h with
    | cons read settles rest =>
      refine ⟨_, _, [], _, _, read, rfl, .nil known, ?_⟩
      simpa using settles
  | cons first before ih =>
    cases h with
    | cons read settles rest =>
      obtain ⟨yaml, name, earlier, mine, later, hread, rfl, hearlier, hmine⟩ := ih rest
      refine ⟨yaml, name, _, mine, later, hread, ?_, .cons read settles hearlier, ?_⟩
      · rw [List.append_assoc, List.append_assoc, List.append_assoc]
      · -- the first file carries only its own name
        simpa [carries_iff read, or_assoc] using hmine

/-- Everything that is asked about a folder that has been dealt with. -/
theorem handsOver_of_uploadFolder {f : Folder} {n : Nat}
    (h : (uploadFolder a f ps).value = .ok n) :
    ∃ entries replies, f.entries = .ok entries ∧
      HandsOver f.path ps.cache.Knows (yamlFiles entries) replies ∧
        Converses a ps.authority (uploadFolder a f ps).trace replies
          (uploadFolder a f ps).state.authority := by
  unfold uploadFolder at h ⊢
  rcases hentries : f.entries with reason | entries
  · rw [hentries] at h
    cases h
  · rw [hentries] at h
    obtain ⟨replies, hover, hconverses, -⟩ := handsOver_of_uploadFiles h
    exact ⟨entries, replies, rfl, hover, hconverses.log, hconverses.after⟩

end Profiles

/-! ## Starts -/

namespace Service

open Authority (Converses)
open Profiles (HandsOver Settles Carries)

variable {δ α : Type} {s : Service δ α} {st : State δ α}

/-- An upload that goes well hands over the files of the folder. -/
theorem handsOver_of_uploadProfiles {f : Folder} (hf : s.folder = some f)
    (h : (s.uploadProfiles st).value = .ok ()) :
    ∃ entries replies, f.entries = .ok entries ∧
      HandsOver f.path st.cache.Knows (yamlFiles entries) replies ∧
        Converses s.authority st.authority (s.uploadProfiles st).trace replies
          (s.uploadProfiles st).state.authority := by
  rw [uploadProfiles, hf] at h ⊢
  dsimp only at h ⊢
  rw [bind_eq, Activity.bind, on] at h ⊢
  dsimp only at h ⊢
  rcases hup : (Profiles.uploadFolder s.authority f (profilesPart.get st)).value with e | n
  · rw [hup] at h
    cases h
  · obtain ⟨entries, replies, hentries, hover, hconverses⟩ := Profiles.handsOver_of_uploadFolder hup
    refine ⟨entries, replies, hentries, hover, ?_⟩
    rw [← List.append_nil replies]
    exact hconverses.append ⟨rfl, rfl⟩

/-- A sync that goes well hands over the files of the folder, then asks for the list of devices. -/
theorem handsOver_of_sync {f : Folder} (hf : s.folder = some f) {n : Nat}
    (h : (s.sync st).value = .ok n) :
    ∃ entries replies body, f.entries = .ok entries ∧
      HandsOver f.path st.cache.Knows (yamlFiles entries) replies ∧
        s.authority.log st.authority (inquiries (s.sync st).trace) =
          replies ++ [⟨.devicesOf s.name, .ok body⟩] := by
  rw [sync, bind_eq, Activity.bind] at h ⊢
  dsimp only at h ⊢
  rcases hup : (s.uploadProfiles st).value with e | _
  · rw [hup] at h
    cases h
  · rw [hup] at h
    dsimp only at h ⊢
    rw [bind_eq, Activity.bind, on] at h ⊢
    dsimp only at h ⊢
    obtain ⟨entries, replies, hentries, hover, hconverses⟩ := handsOver_of_uploadProfiles hf hup
    rcases hlist : (s.authority.fetchDevices s.name
      (authorityPart.get (s.uploadProfiles st).state)).value with e | listed
    · rw [hlist] at h
      cases h
    · obtain ⟨body, hlisting⟩ := Authority.converses_fetchDevices hlist
      refine ⟨entries, replies, body, hentries, hover, ?_⟩
      have hload : Emits Event.IsUnasked
          (s.load listed >>= fun n => pure (.ok n) : Act δ α (Except ServiceError Nat)) :=
        Keeps.bind ((s.logged_load listed).mono fun _ => Event.IsLogged.isUnasked) fun _ =>
          Keeps.pure _
      dsimp only
      rw [← List.append_assoc, inquiries_append, inquiries_of_unasked (hload.trace _),
        List.append_nil]
      exact (hconverses.append hlisting).log

/-- A completion that goes well asks for what its sync asks for. -/
theorem sync_of_complete (h : (s.complete st).value = .ok ()) :
    (∃ n, (s.sync st).value = .ok n) ∧
      inquiries (s.complete st).trace = inquiries (s.sync st).trace := by
  rw [complete, bind_eq, Activity.bind] at h ⊢
  dsimp only at h ⊢
  rcases hsync : (s.sync st).value with e | n
  · rw [hsync] at h
    cases h
  · rw [hsync] at h
    refine ⟨⟨n, rfl⟩, ?_⟩
    dsimp only
    rw [inquiries_append]
    refine (congrArg _ (inquiries_of_unasked ?_)).trans (List.append_nil _)
    -- what is left only says that the service runs
    refine Emits.trace (Keeps.bind Keeps.state fun st => ?_) _
    refine Keeps.bind (Keeps.modify fun _ _ => trivial) fun _ => ?_
    split
    · exact Keeps.pure _
    · exact Keeps.bind (Keeps.emit trivial) fun _ => Keeps.pure _

/-- Everything that is asked in a start that goes well. -/
theorem handsOver_of_start {f : Folder} (hf : s.folder = some f)
    (hok : (s.start st).value = .ok ()) :
    ∃ entries replies body, f.entries = .ok entries ∧
      HandsOver f.path st.cache.Knows (yamlFiles entries) replies ∧
        s.authority.log st.authority (inquiries (s.start st).trace) =
          replies ++ [⟨.devicesOf s.name, .ok body⟩] := by
  rw [start, bind_eq, Activity.bind] at hok ⊢
  dsimp only at hok ⊢
  -- before the profiles are handed over, nothing is asked and no profile is met
  have hbefore : Keeps (fun st' => st'.cache = st.cache ∧ st'.authority = st.authority)
      Event.IsUnasked s.begin := s.keeps_begin (fun _ _ h => h) (fun _ => trivial) fun _ => trivial
  obtain ⟨⟨hcache, hauthority⟩, hquiet⟩ := hbefore st ⟨rfl, rfl⟩
  rcases hbegin : (s.begin st).value with e | _
  · rw [hbegin] at hok
    cases hok
  · rw [hbegin] at hok
    obtain ⟨⟨n, hsync⟩, hcomplete⟩ := sync_of_complete hok
    have hover := handsOver_of_sync hf hsync
    rw [hcache, hauthority] at hover
    dsimp only
    rw [inquiries_append, inquiries_of_unasked hquiet, List.nil_append, hcomplete]
    exact hover

/-! ## Names that are known before a start -/

/-- A service that does not run learns a name, which it did not know: the name is looked up, or a
start comes across it and goes wrong. -/
structure Learns (s : Service δ α) (st : State δ α) (name : String) (op : Operation) : Prop where
  /-- it does not run -/
  idle : st.running = false
  /-- the name is new -/
  new : ¬ st.cache.Knows name
  /-- it is a look-up of the name, or a start that goes wrong -/
  way : op = .profile name ∨
    ∃ content, op = .start content ∧ ∃ e, ((s.finding content).start st).value = .error e
  /-- the name is known afterwards -/
  learned : (s.perform op st).cache.Knows name

/-- A command leaves the cache of profiles alone. -/
theorem cache_of_command {op : Operation} (h : op.IsCommand) (st : State δ α) :
    (s.perform op st).cache = st.cache := by
  cases op with
  | read k command =>
    rw [perform, read, look_bind]
    rcases commandDevice st k with e | d
    · rfl
    · dsimp only
      rw [state_bind]
      rcases ((Command.read s.driver d command).on driverPart st).value <;> rfl
  | write k command texts =>
    rw [perform, write, look_bind]
    rcases commandDevice st k with e | d
    · rfl
    · dsimp only
      rw [state_bind]
      rcases ((Command.write s.driver d command texts).on driverPart st).value with e | ⟨⟩ <;> rfl
  | getBatch id requests =>
    rw [perform, getBatch, look_bind]
    rcases st.store.get? id <;> rfl
  | putBatch id requests values =>
    rw [perform, putBatch, look_bind]
    rcases st.store.get? id <;> rfl
  | _ => exact h.elim

/-- **One operation of a service that does not run** teaches it a name only in one of these ways. -/
theorem learns_of_knows {name : String} {op : Operation} (hidle : st.running = false)
    (hnew : ¬ st.cache.Knows name) (hstill : (s.perform op st).running = false)
    (hknows : (s.perform op st).cache.Knows name) : s.Learns st name op := by
  refine ⟨hidle, hnew, ?_, hknows⟩
  -- what leaves the cache as it is, teaches nothing
  have hsame (h : (s.perform op st).cache = st.cache) : False := hnew (h ▸ hknows)
  cases op with
  | register l =>
    obtain ⟨r, hr⟩ := register_state l st
    exact (hsame (by rw [perform, hr])).elim
  | start content =>
    rcases (s.finding content).start_cases st with ⟨e, he, -⟩ | ⟨_, -, -, hstarted⟩
    · exact .inr ⟨content, rfl, e, he⟩
    · exact absurd (hstarted.running.symm.trans hstill) (by decide)
  | stop force => exact (hsame (by rw [perform, stop_of_not_running hidle])).elim
  | notify n => exact (hsame (by rw [perform, notify_of_not_running hidle])).elim
  | profile n =>
    rcases Profiles.knows_get hknows with h | rfl
    · exact (hnew h).elim
    · exact .inl rfl
  | _ => exact (hsame (cache_of_command (by exact trivial) st)).elim

/-- An operation after which the service does not run any more forgets all names. -/
theorem not_knows_of_running {op : Operation} (hrun : st.running = true)
    (hidle : (s.perform op st).running = false) (name : String) :
    ¬ (s.perform op st).cache.Knows name := by
  -- what leaves the run as it is, does not end it
  have hsame (h : (s.perform op st).running = st.running) : False :=
    absurd (hidle.symm.trans (h.trans hrun)) (by decide)
  cases op with
  | register l =>
    obtain ⟨r, hr⟩ := register_state l st
    exact (hsame (by rw [perform, hr])).elim
  | start content =>
    rcases (s.finding content).start_cases st with ⟨_, -, hkept⟩ | ⟨_, -, -, hstarted⟩
    · exact (hsame hkept.running).elim
    · exact absurd (hstarted.running.symm.trans hidle) (by decide)
  | stop force =>
    rw [perform, (stop_of_running hrun force).cache]
    exact Bool.false_ne_true
  | notify n => exact (hsame (s.notify_running n)).elim
  | _ => exact (hsame (undisturbed_perform (by exact trivial) st).running).elim

/-- A name that is known to a service which does not run was learned, and the service has not run
since then. -/
theorem exists_learns {name : String} {ops : List Operation} (hnew : ¬ st.cache.Knows name)
    (hidle : (s.run ops st).running = false) (hknows : (s.run ops st).cache.Knows name) :
    ∃ earlier op later, ops = earlier ++ op :: later ∧ s.Learns (s.run earlier st) name op ∧
      ∀ since, since <+: later → (s.run (earlier ++ op :: since) st).running = false := by
  induction ops using List.reverseRecOn with
  | nil => exact (hnew hknows).elim
  | append_singleton ops op ih =>
    have hlast : s.run (ops ++ [op]) st = s.perform op (s.run ops st) := run_append ops [op] st
    rw [hlast] at hidle hknows
    rcases hrun : (s.run ops st).running with _ | _
    · by_cases hbefore : (s.run ops st).cache.Knows name
      · obtain ⟨earlier, first, later, rfl, hlearns, hsince⟩ := ih hrun hbefore
        refine ⟨earlier, first, later ++ [op], by simp, hlearns, fun since hprefix => ?_⟩
        rcases List.prefix_concat_iff.mp hprefix with rfl | hprefix
        · rw [← List.cons_append, ← List.append_assoc, hlast]
          exact hidle
        · exact hsince since hprefix
      · have hlearns := learns_of_knows hrun hbefore hidle hknows
        refine ⟨ops, op, [], rfl, hlearns, fun since hprefix => ?_⟩
        rw [List.prefix_nil.mp hprefix, hlast]
        exact hidle
    · exact (not_knows_of_running hrun hidle name hknows).elim

/-! ## The whole account -/

/-- Everything that the start of a service asks, in the state that operations have led to, and where
the names come from that it does not ask for. -/
structure StartAsks (s : Service δ α) (f : Folder) (new : State δ α) (ops : List Operation) :
    Prop where
  /-- The authority is asked about the files, one after the other, and then for the devices. The
  name of a file is not asked for if it is known before the start or if an earlier file carries
  it. -/
  files : ∃ entries replies body, f.entries = .ok entries ∧
    s.authority.log (s.run ops new).authority (inquiries (s.start (s.run ops new)).trace) =
        replies ++ [⟨.devicesOf s.name, .ok body⟩] ∧
      ∀ before file after, yamlFiles entries = before ++ file :: after →
        ∃ yaml name earlier mine later,
          readProfile (filePath f.path file.1) file.2 = .ok (yaml, name) ∧
            replies = earlier ++ mine ++ later ∧
              HandsOver f.path (s.run ops new).cache.Knows before earlier ∧
                Settles yaml name
                  ((s.run ops new).cache.Knows name ∨ ∃ b ∈ before, Carries f.path b name) mine
  /-- A name is known before the start if it was learned since the service has run last. -/
  known : ∀ name, (s.run ops new).cache.Knows name →
    ∃ earlier op later, ops = earlier ++ op :: later ∧ s.Learns (s.run earlier new) name op ∧
      ∀ since, since <+: later → (s.run (earlier ++ op :: since) new).running = false

/-- **What a start asks about the profiles**, whatever was done with the service before. In a start
that goes well, every file of the folder carries a named profile. Unless the name is known before
the start, or an earlier file carries it, the authority is asked for it, and the profile is handed
over exactly if the authority answers that it does not have it. A name is known before the start
only if it was looked up since the service has run last, or if a start since then has come across it
and gone wrong. -/
theorem startAsks_of_ok (s : Service δ α) {f : Folder} (hf : s.folder = some f) (driver : δ)
    (authority : α) (ops : List Operation)
    (hok : (s.start (s.run ops (.initial driver authority))).value = .ok ()) :
    s.StartAsks f (.initial driver authority) ops := by
  constructor
  · obtain ⟨entries, replies, body, hentries, hover, hlog⟩ := handsOver_of_start hf hok
    refine ⟨entries, replies, body, hentries, hlog, fun before file after hsplit => ?_⟩
    rw [hsplit] at hover
    exact hover.split
  · intro name hknows
    -- a start that goes well is one of a service that does not run
    obtain ⟨_, -, hstarted⟩ := start_of_ok hok
    exact exists_learns Bool.false_ne_true hstarted.idle hknows

/-- A file with the profile of a meter. -/
def meterFile : FileName × FileContent :=
  (Utf8.ofString "meter.yaml", .ok (Utf8.ofString "name: meter"))

/-- A file with the profile of a valve. -/
def valveFile : FileName × FileContent :=
  (Utf8.ofString "valve.yaml", .ok (Utf8.ofString "name: valve"))

/-- A folder with two profiles. -/
def meterAndValve : Folder :=
  ⟨"profiles", .ok [(meterFile.1, .file meterFile.2), (valveFile.1, .file valveFile.2)]⟩

/-- A service that finds the two profiles. -/
def meterAndValveService : Service Unit (List (List UInt8)) :=
  ⟨.withProfiles "profiles", Template.driver, .scripted, some meterAndValve⟩

/-- Answers to two starts: the first one comes across the meter and goes wrong at the valve. -/
def valveLater : List (List UInt8) :=
  [Utf8.ofString "\x7b\"name\":\"meter\"\x7d", [], Utf8.ofString "\x7b\"name\":\"valve\"\x7d",
    Utf8.ofString "[]"]

/-- The second start asks for the valve only. -/
theorem startAsks_of_ok_of_script :
    let s := meterAndValveService
    let ops : List Operation := [.start meterAndValve.entries]
    let st := s.run ops (.initial () valveLater)
    (s.folder = some meterAndValve ∧ (s.start st).value = .ok () ∧
      inquiries (s.start st).trace = [.profile "valve", .devicesOf s.name]) ∧
      s.StartAsks meterAndValve (.initial () valveLater) ops := by
  intro s ops st
  obtain ⟨hok, hasked⟩ : (s.start st).value.toOption = some () ∧
      inquiries (s.start st).trace = [.profile "valve", .devicesOf s.name] := by decide +kernel
  have hok := eq_ok_of_toOption hok
  exact ⟨⟨rfl, hok, hasked⟩, startAsks_of_ok s rfl () valveLater ops hok⟩

/-- A start does not ask for all names that its files carry: what a start that went wrong has come
across is taken to be known to the authority for good. -/
theorem not_forall_asked :
    ¬ ∀ (δ α : Type) (s : Service δ α) (f : Folder) (driver : δ) (authority : α)
      (ops : List Operation),
      let st := s.run ops (.initial driver authority)
      s.folder = some f → (s.start st).value = .ok () → ∀ entries, f.entries = .ok entries →
        ∀ before file after name, yamlFiles entries = before ++ file :: after →
          Carries f.path file name →
            .asked (.profile name) ∈ (s.start st).trace ∨ ∃ b ∈ before, Carries f.path b name := by
  intro h
  let s := meterAndValveService
  let ops : List Operation := [.start meterAndValve.entries]
  obtain ⟨hok, hunasked, hread, hfirst⟩ :
      (s.start (s.run ops (.initial () valveLater))).value.toOption = some () ∧
        .asked (.profile "meter") ∉ (s.start (s.run ops (.initial () valveLater))).trace ∧
        (readProfile (filePath "profiles" meterFile.1) meterFile.2).toOption =
          some ("name: meter", "meter") ∧
        (meterAndValve.entries.map yamlFiles).toOption = some [meterFile, valveFile] := by
    decide +kernel
  have hcarries : Carries "profiles" meterFile "meter" := ⟨"name: meter", eq_ok_of_toOption hread⟩
  have hfiles : yamlFiles [(meterFile.1, .file meterFile.2), (valveFile.1, .file valveFile.2)] =
      [] ++ meterFile :: [valveFile] := Option.some.inj hfirst
  rcases h _ _ s meterAndValve () valveLater ops rfl (eq_ok_of_toOption hok) _ rfl []
    meterFile _ "meter" hfiles hcarries with hasked | ⟨b, hb, -⟩
  · exact hunasked hasked
  · cases hb

end Service

end DeviceHost
