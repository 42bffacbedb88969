import DeviceHost.Proofs.Folders
import DeviceHost.Proofs.Recollection

/-!
# Handing a folder over

The files of a folder are worked off one after the other, and the first one that cannot be dealt
with ends the work. What was handed over is found in the cache by all files behind it, so no name is
handed over twice: neither in one go, nor when the same folder is handed over again.

* `Halts`, `halts_of_uploadFile` — the file that ends the work, and what is asked about it;
* `stops_of_uploadFiles` — it is the first one of its kind, and nothing is asked about the files
  behind it;
* `HandsOver.handed_nodup` — no name is handed over twice;
* `uploadFiles_of_knows` — nothing is asked about files whose names are known;
* `Course` — the files that were dealt with, and the one that ended the work if there was one;
* `Handover`, `handover_uploadFolder` — the whole account.
-/

namespace DeviceHost

open Activity
open Authority (Reply Converses)

/-- What an answer to a request for a profile gives. -/
def Profile.ofAnswer : Except AuthorityError (List UInt8) → Except AuthorityError Profile
  | .error e => .error e
  | .ok body => (Profile.decode body).mapError .decode

/-- Only the authority itself says that it does not have a profile. -/
theorem Profile.eq_notFound_of_ofAnswer {answer : Except AuthorityError (List UInt8)}
    {what : String} (h : ofAnswer answer = .error (.notFound what)) :
    answer = .error (.notFound what) := by
  rcases answer with e | body
  · exact congrArg Except.error (Except.error.inj h)
  · rw [ofAnswer] at h
    rcases hdecode : decode body with problem | p
    · rw [hdecode] at h
      cases h
    · rw [hdecode] at h
      cases h

namespace Profiles

variable {α : Type} {a : Authority α} {ps : Profiles α}

/-! ## The file that ends the work -/

/-- A look-up that fails has asked for the profile. -/
theorem converses_get_of_error {name : String} {e : AuthorityError}
    (h : (get a name ps).value = .error e) :
    ¬ ps.cache.Knows name ∧ ∃ answer, Profile.ofAnswer answer = .error e ∧
      Converses a ps.authority (get a name ps).trace [⟨.profile name, answer⟩]
        (get a name ps).state.authority := by
  have hlook := lookup_get a name ps
  generalize get a name ps = o at hlook h ⊢
  cases hlook with
  | known p hcached => cases h
  | refused e' hnew answer =>
    obtain rfl := Except.error.inj h
    exact ⟨hnew, _, congrArg Profile.ofAnswer answer, Converses.asked a _ _⟩
  | garbled body problem hnew answer undecoded =>
    obtain rfl := Except.error.inj h
    refine ⟨hnew, _, (congrArg Profile.ofAnswer answer).trans ?_, Converses.asked a _ _⟩
    rw [Profile.ofAnswer, undecoded]
    rfl
  | given body p line hnew answer decoded => cases h

/-- What is asked about a file with which the work ends, given the names that are known. -/
inductive Halts (path : String) (content : FileContent) (known : String → Prop) :
    List Reply → FolderError → Prop
  /-- it cannot be read, or has no name -/
  | unread {e : FolderError} (h : Unread path content e) : Halts path content known [] e
  /-- it cannot be found out whether the authority has the profile -/
  | refused {yaml name : String} (document : Document content yaml name) (h : ¬ known name)
    (answer : Except AuthorityError (List UInt8)) (e : AuthorityError)
    (failed : Profile.ofAnswer answer = .error e) (other : ∀ what, e ≠ .notFound what) :
    Halts path content known [⟨.profile name, answer⟩] (.authority e)
  /-- the authority does not have the profile, and does not take it -/
  | rejected {yaml name : String} (document : Document content yaml name) (h : ¬ known name)
    (what : String) (e : AuthorityError) :
    Halts path content known
      [⟨.profile name, .error (.notFound what)⟩, ⟨.upload yaml, .error e⟩] (.authority e)
  /-- the authority takes the profile, and does not give it back -/
  | lost {yaml name : String} (document : Document content yaml name) (h : ¬ known name)
    (what : String) (receipt : List UInt8) (answer : Except AuthorityError (List UInt8))
    (e : AuthorityError) (failed : Profile.ofAnswer answer = .error e) :
    Halts path content known
      [⟨.profile name, .error (.notFound what)⟩, ⟨.upload yaml, .ok receipt⟩,
        ⟨.profile name, answer⟩] (.authority e)

/-- A profile that is not handed over, or not found again. -/
theorem converses_deliver_of_error {path yaml name : String} {e : FolderError}
    (h : (deliver a path yaml name ps).value = .error e) :
    ∃ e' more, e = .authority e' ∧
      Converses a ps.authority (deliver a path yaml name ps).trace more
        (deliver a path yaml name ps).state.authority ∧
      (more = [⟨.upload yaml, .error e'⟩] ∨ ∃ receipt answer,
        Profile.ofAnswer answer = .error e' ∧
          more = [⟨.upload yaml, .ok receipt⟩, ⟨.profile name, answer⟩]) := by
  rw [deliver, bind_eq, Activity.bind] at h ⊢
  dsimp only [emit] at h ⊢
  rw [bind_eq, Activity.bind, on, Authority.upload_eq] at h ⊢
  dsimp only [authorityPart] at h ⊢
  have hsending := Converses.asked a (.upload yaml) ps.authority
  rcases hsent : (a.answer (.upload yaml) ps.authority).1 with e' | receipt
  · rw [hsent] at h hsending
    obtain rfl := Except.error.inj h
    exact ⟨e', _, rfl, ⟨hsending.log, hsending.after⟩, .inl rfl⟩
  · rw [hsent] at h hsending
    dsimp only [Except.map] at h ⊢
    rw [bind_eq, Activity.bind] at h ⊢
    dsimp only at h ⊢
    rcases hget : (get a name ⟨ps.cache, (a.answer (.upload yaml) ps.authority).2⟩).value
      with e' | p
    · rw [hget] at h
      obtain rfl := Except.error.inj h
      obtain ⟨-, answer, hanswer, hconverses⟩ := converses_get_of_error hget
      have hboth := hsending.append hconverses
      dsimp only [pure_eq]
      rw [List.append_nil]
      exact ⟨e', _, rfl, ⟨hboth.log, hboth.after⟩, .inr ⟨receipt, answer, hanswer, rfl⟩⟩
    · rw [hget] at h
      cases h

/-- **A file that ends the work**: what was asked about it, and why it ended the work. -/
theorem halts_of_uploadFile {path : String} {content : FileContent} {e : FolderError}
    (h : (uploadFile a path content ps).value = .error e) :
    ∃ replies, Halts path content ps.cache.Knows replies e ∧
      Converses a ps.authority (uploadFile a path content ps).trace replies
        (uploadFile a path content ps).state.authority := by
  rcases hread : readProfile path content with e' | ⟨yaml, name⟩
  · rw [uploadFile, hread] at h ⊢
    obtain rfl := Except.error.inj h
    exact ⟨[], .unread (readProfile_eq_error_iff.mp hread), ⟨rfl, rfl⟩⟩
  · have hdocument : Document content yaml name := readProfile_eq_ok_iff.mp hread
    rw [uploadFile_of_read hread, bind_eq, Activity.bind] at h ⊢
    dsimp only [emit] at h ⊢
    rw [bind_eq, Activity.bind] at h ⊢
    dsimp only at h ⊢
    rcases hget : (get a name ps).value with e' | p
    · rw [hget] at h
      obtain ⟨hnew, answer, hanswer, hconverses⟩ := converses_get_of_error hget
      by_cases hmissing : ∃ what, e' = .notFound what
      · obtain ⟨what, rfl⟩ := hmissing
        have hvalue : (deliver a path yaml name (get a name ps).state).value = .error e := h
        obtain ⟨e', more, rfl, hmore, hways⟩ := converses_deliver_of_error hvalue
        obtain rfl := Profile.eq_notFound_of_ofAnswer hanswer
        have hboth := hconverses.append hmore
        refine ⟨_, ?_, ⟨hboth.log, hboth.after⟩⟩
        rcases hways with rfl | ⟨receipt, answer, hfailed, rfl⟩
        · exact .rejected hdocument hnew what e'
        · exact .lost hdocument hnew what receipt answer e' hfailed
      · have hother : ∀ what, e' ≠ .notFound what := fun what he => hmissing ⟨what, he⟩
        have hsettle : settle a path yaml name (.error e') = pure (.error (.authority e')) := by
          cases e' with
          | notFound what => exact absurd rfl (hother what)
          | _ => rfl
        rw [hsettle] at h
        rw [hsettle]
        obtain rfl := Except.error.inj h
        dsimp only [pure_eq]
        rw [List.append_nil]
        exact ⟨_, .refused hdocument hnew answer e' hanswer hother,
          ⟨hconverses.log, hconverses.after⟩⟩
    · rw [hget] at h
      cases h

/-! ## The files of a folder -/

/-- Which name a file carries does not depend on the folder. -/
theorem carries_iff_carried {folder : String} {file : FileName × FileContent} {name : String} :
    Carries folder file name ↔ Carried file.2 name :=
  exists_congr fun _ => readProfile_eq_ok_iff

/-- **The first file that cannot be dealt with** ends the work: nothing is asked about the files
behind it. -/
theorem stops_of_uploadFiles {folder : String} {files : List (FileName × FileContent)} {count : Nat}
    {e : FolderError} (h : (uploadFiles a folder count files ps).value = .error e) :
    ∃ before file after earlier mine, files = before ++ file :: after ∧
      HandsOver folder ps.cache.Knows before earlier ∧
        Halts (filePath folder file.1) file.2
          (fun n => ps.cache.Knows n ∨ ∃ f ∈ before, Carries folder f n) mine e ∧
          Converses a ps.authority (uploadFiles a folder count files ps).trace (earlier ++ mine)
            (uploadFiles a folder count files ps).state.authority := by
  induction files generalizing count ps with
  | nil => cases h
  | cons file files ih =>
    rw [uploadFiles, bind_eq, Activity.bind] at h ⊢
    dsimp only at h ⊢
    rcases hfile : (uploadFile a (filePath folder file.1) file.2 ps).value with e' | isNew
    · rw [hfile] at h
      obtain rfl := Except.error.inj h
      obtain ⟨mine, hhalts, hconverses⟩ := halts_of_uploadFile hfile
      dsimp only [pure_eq]
      rw [List.append_nil]
      exact ⟨[], file, files, [], mine, rfl, .nil _, by simpa using hhalts, hconverses⟩
    · rw [hfile] at h
      obtain ⟨yaml, name, mine, hread, hsettles, hintroduces, -⟩ := settles_of_uploadFile hfile
      obtain ⟨before, last, after, earlier, more, rfl, hbefore, hhalts, hconverses⟩ := ih h
      -- the names known to the other files are those known to this one, and its own
      have hknows : (uploadFile a (filePath folder file.1) file.2 ps).state.cache.Knows =
          fun n => ps.cache.Knows n ∨ n = name := funext fun n => propext (hintroduces.knows n)
      rw [hknows] at hbefore hhalts
      refine ⟨file :: before, last, after, mine ++ earlier, more, rfl,
        .cons hread hsettles hbefore, ?_, ?_⟩
      · simpa [carries_iff hread, or_assoc] using hhalts
      · rw [List.append_assoc]
        exact hintroduces.converses.append hconverses

/-- Files that are dealt with, each with what is asked about it. A name is known if it is known
already, or if an earlier file carries it. -/
def Dealt (known : String → Prop) (work : List ((FileName × FileContent) × List Reply)) : Prop :=
  ∀ before file mine after, work = before ++ (file, mine) :: after →
    ∃ yaml name, Document file.2 yaml name ∧
      Settles yaml name (known name ∨ ∃ w ∈ before, Carried w.1.2 name) mine

/-- The replies of a whole folder can be dealt out to its files. -/
theorem HandsOver.exists_dealt {folder : String} {known : String → Prop}
    {files : List (FileName × FileContent)} {replies : List Reply}
    (h : HandsOver folder known files replies) :
    ∃ work, work.map Prod.fst = files ∧ work.flatMap Prod.snd = replies ∧ Dealt known work := by
  induction h with
  | nil known => exact ⟨[], rfl, rfl, by simp [Dealt]⟩
  | @cons known file yaml name mine files later read settles rest ih =>
    obtain ⟨work, rfl, rfl, hwork⟩ := ih
    have hdocument := readProfile_eq_ok_iff.mp read
    refine ⟨(file, mine) :: work, rfl, rfl, fun before file' mine' after hsplit => ?_⟩
    rcases List.cons_eq_append_iff.mp hsplit with ⟨rfl, hfirst⟩ | ⟨before, rfl, hrest⟩
    · obtain ⟨hsame, -⟩ := List.cons.inj hfirst
      obtain ⟨rfl, rfl⟩ := Prod.mk.inj hsame
      exact ⟨yaml, name, hdocument, by simpa using settles⟩
    · obtain ⟨yaml', name', hdocument', hsettles'⟩ := hwork before file' mine' after hrest
      refine ⟨yaml', name', hdocument', ?_⟩
      -- the first file carries only its own name
      simpa [hdocument.carried_iff, or_assoc] using hsettles'

/-! ## Names that are handed over -/

/-- The names of the profiles that are handed over. -/
def handed (replies : List Reply) : List String :=
  replies.filterMap fun r =>
    match r.inquiry with
    | .upload yaml => profileName? yaml.toList
    | _ => none

theorem handed_append (replies more : List Reply) :
    handed (replies ++ more) = handed replies ++ handed more :=
  List.filterMap_append

/-- A settled file hands over nothing, or its own name if that was not known. -/
theorem Settles.handed {content : FileContent} {yaml name : String} {known : Prop}
    {replies : List Reply} (hdocument : Document content yaml name)
    (h : Settles yaml name known replies) :
    handed replies = [] ∨ handed replies = [name] ∧ ¬ known := by
  obtain ⟨-, hname, -⟩ := hdocument
  cases h with
  | skipped h => exact .inl rfl
  | found h body p decoded => exact .inl rfl
  | handedOver h what receipt body p decoded =>
    refine .inr ⟨?_, h⟩
    simp [Profiles.handed, hname]

/-- A file that ends the work has handed over at most one name, which was not known. -/
theorem Halts.handed {path : String} {content : FileContent} {known : String → Prop}
    {replies : List Reply} {e : FolderError} (h : Halts path content known replies e) :
    handed replies = [] ∨ ∃ name, handed replies = [name] ∧ ¬ known name := by
  cases h with
  | unread h => exact .inl rfl
  | refused document h answer e failed other => exact .inl rfl
  | rejected document h what e =>
    refine .inr ⟨_, ?_, h⟩
    simp [Profiles.handed, document.2.1]
  | lost document h what receipt answer e failed =>
    refine .inr ⟨_, ?_, h⟩
    simp [Profiles.handed, document.2.1]

/-- **No name is handed over twice**, and only names of the files that were not known before. -/
theorem HandsOver.handed_nodup {folder : String} {known : String → Prop}
    {files : List (FileName × FileContent)} {replies : List Reply}
    (h : HandsOver folder known files replies) :
    (handed replies).Nodup ∧
      ∀ n ∈ handed replies, ¬ known n ∧ ∃ f ∈ files, Carries folder f n := by
  induction h with
  | nil known => exact ⟨List.nodup_nil, nofun⟩
  | @cons known file yaml name mine files later read settles rest ih =>
    obtain ⟨hnodup, hlater⟩ := ih
    have hrest : ∀ n ∈ handed later, ¬ known n ∧ ∃ f ∈ file :: files, Carries folder f n := by
      intro n hn
      obtain ⟨hnew, f, hf, hcarries⟩ := hlater n hn
      exact ⟨fun hknown => hnew (.inl hknown), f, List.mem_cons_of_mem _ hf, hcarries⟩
    rw [handed_append]
    rcases settles.handed (readProfile_eq_ok_iff.mp read) with hmine | ⟨hmine, hnew⟩
    · rw [hmine, List.nil_append]
      exact ⟨hnodup, hrest⟩
    · rw [hmine, List.singleton_append]
      refine ⟨List.nodup_cons.mpr ⟨fun hmem => (hlater name hmem).1 (.inr rfl), hnodup⟩, ?_⟩
      intro n hn
      rcases List.mem_cons.mp hn with rfl | hn
      · exact ⟨hnew, file, List.mem_cons_self .., yaml, read⟩
      · exact hrest n hn

/-! ## A second time -/

/-- A file whose profile is known is passed over without any request. -/
theorem uploadFile_of_knows {path : String} {content : FileContent} {yaml name : String}
    (hread : readProfile path content = .ok (yaml, name)) (hknown : ps.cache.Knows name) :
    ∃ es, uploadFile a path content ps = ⟨.ok false, ps, es⟩ ∧ inquiries es = [] := by
  obtain ⟨p, hcached⟩ := Option.isSome_iff_exists.mp hknown
  have hget : get a name ps = ⟨.ok p, ps, []⟩ := by
    rw [get, look_bind, hcached]
    rfl
  rw [uploadFile_of_read hread, bind_eq, Activity.bind]
  dsimp only [emit]
  rw [bind_of_eq hget]
  exact ⟨_, rfl, rfl⟩

/-- Nothing is asked about files whose names are known, and nothing changes. -/
theorem uploadFiles_of_knows {folder : String} {files : List (FileName × FileContent)}
    (h : ∀ f ∈ files, ∃ name, Carries folder f name ∧ ps.cache.Knows name) (count : Nat) :
    (uploadFiles a folder count files ps).value = .ok count ∧
      (uploadFiles a folder count files ps).state = ps ∧
        inquiries (uploadFiles a folder count files ps).trace = [] := by
  induction files with
  | nil => exact ⟨rfl, rfl, rfl⟩
  | cons file files ih =>
    obtain ⟨⟨name, ⟨yaml, hread⟩, hknown⟩, hfiles⟩ := List.forall_mem_cons.mp h
    obtain ⟨es, hfile, hquiet⟩ := uploadFile_of_knows hread hknown (a := a)
    rw [uploadFiles, bind_eq, Activity.bind, hfile]
    obtain ⟨hvalue, hstate, htrace⟩ := ih hfiles
    refine ⟨hvalue, hstate, ?_⟩
    rw [inquiries_append, hquiet, List.nil_append]
    exact htrace

/-- Without a clear the cache knows ever more names. -/
theorem covers_run {ops : List Operation} (h : .clear ∉ ops) (ps : Profiles α) :
    ps.cache.Covers (run a ops ps).cache := by
  induction ops generalizing ps with
  | nil => exact .refl _
  | cons op ops ih =>
    obtain ⟨hop, hops⟩ : .clear ≠ op ∧ .clear ∉ ops := by simpa using h
    have hfirst : ps.cache.Covers (perform a op ps).state.cache := by
      cases op with
      | remember p => exact ProfileCache.covers_remember _ p
      | get name => exact (keeps_get ps.cache a name ps (.refl _)).1
      | upload f => exact (keeps_uploadFolder ps.cache a f ps (.refl _)).1
      | clear => exact absurd rfl hop
    exact hfirst.trans (ih hops _)

/-! ## The whole account -/

/-- What is done with the files of a folder, in this order, and what comes of it: all of them are
dealt with, or one of them ends the work. -/
inductive Course (folder : String) (known : String → Prop) :
    List (FileName × FileContent) → List Reply → Except FolderError Nat → Prop
  /-- all files are dealt with, and what was handed over is counted -/
  | finished (work : List ((FileName × FileContent) × List Reply)) (dealt : Dealt known work) :
    Course folder known (work.map Prod.fst) (work.flatMap Prod.snd)
      (.ok (uploads (work.flatMap Prod.snd)))
  /-- the first file that cannot be dealt with is the last one about which something is asked -/
  | stopped (work : List ((FileName × FileContent) × List Reply)) (dealt : Dealt known work)
    (file : FileName × FileContent) (left : List (FileName × FileContent)) (mine : List Reply)
    (e : FolderError)
    (halts : Halts (filePath folder file.1) file.2
      (fun n => known n ∨ ∃ w ∈ work, Carried w.1.2 n) mine e) :
    Course folder known (work.map Prod.fst ++ file :: left) (work.flatMap Prod.snd ++ mine)
      (.error e)

/-- What comes of handing a folder over that can be read, with everything that is asked and
answered. -/
structure Handover (a : Authority α) (f : Folder) (entries : List (FileName × FolderEntry))
    (ps : Profiles α) (replies : List Reply)
    (o : Outcome Event (Profiles α) (Except FolderError Nat)) : Prop where
  /-- The files that are visited are those of YAML documents, by the octets of their names. -/
  visits : Visits entries (yamlFiles entries)
  /-- They are worked off in this order, up to the first failure. -/
  course : Course f.path ps.cache.Knows (yamlFiles entries) replies o.value
  /-- No name is handed over twice. -/
  once : (handed replies).Nodup
  /-- If there is no failure, the names of all these files are known afterwards, -/
  known : ∀ n, o.value = .ok n →
    ∀ file ∈ yamlFiles entries, ∃ name, Carried file.2 name ∧ o.state.cache.Knows name
  /-- and until the cache is cleared, nothing is asked when the folder is handed over again. -/
  again : ∀ n ops, o.value = .ok n → .clear ∉ ops →
    (uploadFolder a f (run a ops o.state)).value = .ok 0 ∧
      inquiries (uploadFolder a f (run a ops o.state)).trace = []

/-- An upload takes the course of the account, and no name is handed over twice. -/
theorem course_of_uploadFiles (a : Authority α) (folder : String)
    (files : List (FileName × FileContent)) (ps : Profiles α) :
    ∃ replies, Course folder ps.cache.Knows files replies (uploadFiles a folder 0 files ps).value ∧
      (handed replies).Nodup ∧
        Converses a ps.authority (uploadFiles a folder 0 files ps).trace replies
          (uploadFiles a folder 0 files ps).state.authority := by
  rcases hvalue : (uploadFiles a folder 0 files ps).value with e | n
  · obtain ⟨before, file, after, earlier, mine, rfl, hover, hhalts, hconverses⟩ :=
      stops_of_uploadFiles hvalue
    refine ⟨earlier ++ mine, ?_, ?_, hconverses⟩
    · obtain ⟨work, rfl, rfl, hdealt⟩ := hover.exists_dealt
      refine .stopped work hdealt file after mine e ?_
      simpa [carries_iff_carried] using hhalts
    · obtain ⟨hnodup, hcarried⟩ := hover.handed_nodup
      rw [handed_append]
      rcases hhalts.handed with hmine | ⟨name, hmine, hnew⟩
      · rw [hmine, List.append_nil]
        exact hnodup
      · -- no earlier file carries the name of the last one
        rw [hmine, ← List.concat_eq_append, List.nodup_concat]
        exact ⟨fun hmem => hnew (.inr (hcarried name hmem).2), hnodup⟩
  · obtain ⟨replies, hover, hconverses, hcount, -⟩ := handsOver_of_uploadFiles hvalue
    refine ⟨replies, ?_, hover.handed_nodup.1, hconverses⟩
    obtain ⟨work, rfl, rfl, hdealt⟩ := hover.exists_dealt
    rw [hcount, Nat.zero_add]
    exact .finished work hdealt

/-- A folder that can be read: its files are worked off, which is written to the log. -/
theorem uploadFolder_of_entries {f : Folder} {entries : List (FileName × FolderEntry)}
    (h : f.entries = .ok entries) (ps : Profiles α) :
    ∃ line, uploadFolder a f ps =
      ⟨(uploadFiles a f.path 0 (yamlFiles entries) ps).value,
        (uploadFiles a f.path 0 (yamlFiles entries) ps).state,
        .logged line :: (uploadFiles a f.path 0 (yamlFiles entries) ps).trace⟩ := by
  rw [uploadFolder, h]
  exact ⟨_, rfl⟩

/-- After an upload that went well the names of all files are known. -/
theorem exists_known_of_uploadFiles {folder : String} {files : List (FileName × FileContent)}
    {n : Nat} (h : (uploadFiles a folder 0 files ps).value = .ok n) :
    ∀ file ∈ files, ∃ name, Carries folder file name ∧
      (uploadFiles a folder 0 files ps).state.cache.Knows name := by
  obtain ⟨replies, hover, -, -, hknows⟩ := handsOver_of_uploadFiles h
  intro file hfile
  obtain ⟨before, after, hsplit⟩ := List.append_of_mem hfile
  rw [hsplit] at hover
  obtain ⟨yaml, name, -, -, -, hread, -⟩ := hover.split
  exact ⟨name, ⟨yaml, hread⟩, (hknows name).mpr (.inr ⟨file, hfile, yaml, hread⟩)⟩

/-- **A folder is handed over once**, with any authority and whatever is known before: its files are
worked off in order up to the first failure, no name is handed over twice, and when all has gone
well, handing the folder over again asks nothing as long as the cache is not cleared. From an empty
cache, only the names that earlier files carry are known. -/
theorem handover_uploadFolder (a : Authority α) (f : Folder) (ps : Profiles α) :
    let o := uploadFolder a f ps
    let replies := a.log ps.authority (inquiries o.trace)
    match f.entries with
    | .error reason => replies = [] ∧ o.value = .error (.directory f.path reason)
    | .ok entries => Handover a f entries ps replies o := by
  intro o replies
  rcases hentries : f.entries with reason | entries
  · have ho : o = ⟨.error (.directory f.path reason), ps, []⟩ := by
      change uploadFolder a f ps = _
      rw [uploadFolder, hentries]
      rfl
    exact ⟨congrArg (fun o => a.log ps.authority (inquiries o.trace)) ho, congrArg Outcome.value ho⟩
  · obtain ⟨line, ho⟩ := uploadFolder_of_entries hentries ps (a := a)
    obtain ⟨asked, hcourse, hnodup, hconverses⟩ :=
      course_of_uploadFiles a f.path (yamlFiles entries) ps
    have hreplies : replies = asked :=
      (congrArg (fun o => a.log ps.authority (inquiries o.trace)) ho).trans hconverses.log
    have hvalue : o.value = _ := congrArg Outcome.value ho
    have hstate : o.state = _ := congrArg Outcome.state ho
    have hknown (n) (hn : o.value = .ok n) := exists_known_of_uploadFiles (hvalue.symm.trans hn)
    rw [← hstate] at hknown
    rw [hreplies]
    constructor
    case visits => exact visits_yamlFiles entries
    case course =>
      rw [hvalue]
      exact hcourse
    case once => exact hnodup
    case known =>
      intro n hn file hfile
      obtain ⟨name, hcarries, hknows⟩ := hknown n hn file hfile
      exact ⟨name, carries_iff_carried.mp hcarries, hknows⟩
    case again =>
      intro n ops hn hops
      obtain ⟨line', ho'⟩ := uploadFolder_of_entries hentries (run a ops o.state) (a := a)
      have hstill : ∀ file ∈ yamlFiles entries, ∃ name, Carries f.path file name ∧
          (run a ops o.state).cache.Knows name := fun file hfile => by
        obtain ⟨name, hcarries, hknows⟩ := hknown n hn file hfile
        exact ⟨name, hcarries, covers_run hops o.state name hknows⟩
      obtain ⟨hcount, -, hquiet⟩ := uploadFiles_of_knows hstill 0 (a := a)
      rw [ho']
      exact ⟨hcount, hquiet⟩

end Profiles

end DeviceHost
