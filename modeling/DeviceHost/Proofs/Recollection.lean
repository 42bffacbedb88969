import DeviceHost.Proofs.Uploads
import Mathlib.Data.List.Nodup

/-!
# What the profile cache recalls

Profiles come into the cache in two ways: a profile that a device carries is remembered under its
own name, and one that was fetched is kept under the name that was asked for. What the cache has
under a name is told by its history: the profiles remembered, the answers of the authority, and the
clears.

* `Profiles.Operation`, `Profiles.run` — what is done with profiles, and the state it leads to;
* `Moment`, `Profiles.history` — everything that such a run brings, the authority's answers
  included;
* `Accounts` — an activity changes the cache by the answers to its requests alone, and it asks for a
  profile only as long as the cache has none of that name; put together along `bind`;
* `cached?_recalled`, `knows_recalled` — what a history leaves in the cache;
* `recollects_run` — the whole account of a cache after any operations.

The two ways need not agree, because nobody looks at the name of a profile that was fetched. A
profile of another name is `Misfiled`, and it is the only kind of entry that is not under its own
name (`misfiled_iff`).
-/

namespace DeviceHost

open Activity
open Authority (Reply)

/-! ## Histories -/

/-- Something that happens to the profile cache. -/
inductive Moment
  /-- a profile is to be remembered -/
  | remembered (p : Profile)
  /-- the authority answers a request -/
  | answered (r : Reply)
  /-- the cache is cleared -/
  | cleared

namespace Moment

/-- The profile is put under the name: a profile of that name, which is not empty, is remembered, or
the profile is the answer to a request for the name. -/
def Files (name : String) (p : Profile) : Moment → Prop
  | remembered q => q = p ∧ p.name = name ∧ name ≠ ""
  | answered r =>
    r.inquiry = .profile name ∧ ∃ body, r.answer = .ok body ∧ Profile.decode body = .ok p
  | cleared => False

/-- Nothing is put under the name, and the cache is not cleared. -/
def Spares (name : String) (m : Moment) : Prop :=
  m ≠ .cleared ∧ ∀ p, ¬ m.Files name p

variable {name n : String} {p q : Profile}

/-- A profile with a name spares all other names. -/
theorem spares_remembered_iff (h : q.name ≠ "") : (remembered q).Spares n ↔ n ≠ q.name := by
  refine ⟨fun hspares hn => hspares.2 q ⟨rfl, hn.symm, hn ▸ h⟩, fun hn => ⟨by simp, ?_⟩⟩
  rintro p ⟨rfl, hname, -⟩
  exact hn hname.symm

/-- An answer that gives a profile files it under the name that was asked for, and nothing else. -/
theorem files_answered_iff {r : Reply} {body : List UInt8} (hinquiry : r.inquiry = .profile name)
    (hanswer : r.answer = .ok body) (hdecode : Profile.decode body = .ok q) :
    (answered r).Files n p ↔ n = name ∧ q = p := by
  constructor
  · rintro ⟨hinquiry', body', hanswer', hdecode'⟩
    obtain rfl := Except.ok.inj (hanswer.symm.trans hanswer')
    exact ⟨(Inquiry.profile.inj (hinquiry.symm.trans hinquiry')).symm,
      Except.ok.inj (hdecode.symm.trans hdecode')⟩
  · rintro ⟨rfl, rfl⟩
    exact ⟨hinquiry, body, hanswer, hdecode⟩

end Moment

/-- The last time that something was put under the name, it was this profile, and the cache was not
cleared since. -/
def Latest (h : List Moment) (name : String) (p : Profile) : Prop :=
  ∃ before m after, h = before ++ m :: after ∧ m.Files name p ∧ ∀ x ∈ after, x.Spares name

/-- The latest filing under a name is that of the last moment, or an earlier one that it spares. -/
theorem latest_concat {h : List Moment} {m : Moment} {name : String} {p : Profile} :
    Latest (h ++ [m]) name p ↔ m.Files name p ∨ Latest h name p ∧ m.Spares name := by
  rw [Latest, exists_split_concat_iff]
  simp [Latest, or_imp, forall_and, ← and_assoc]

/-! ## What a history leaves in the cache -/

namespace ProfileCache

/-- What an answer teaches: the profile that it gives, under the name that was asked for. -/
def learn (c : ProfileCache) (r : Reply) : ProfileCache :=
  match r.inquiry, r.answer with
  | .profile name, .ok body =>
    match Profile.decode body with
    | .ok p => c.keep name p
    | .error _ => c
  | _, _ => c

/-- The cache after a moment. -/
def live (c : ProfileCache) : Moment → ProfileCache
  | .remembered p => c.remember p
  | .answered r => c.learn r
  | .cleared => .empty

/-- The cache after one moment after the other. -/
def recalled (c : ProfileCache) (h : List Moment) : ProfileCache := h.foldl live c

@[simp] theorem recalled_nil (c : ProfileCache) : c.recalled [] = c := rfl

/-- What two histories leave is what the second leaves of what the first left. -/
theorem recalled_append (c : ProfileCache) (h k : List Moment) :
    c.recalled (h ++ k) = (c.recalled h).recalled k :=
  List.foldl_append

theorem recalled_concat (c : ProfileCache) (h : List Moment) (m : Moment) :
    c.recalled (h ++ [m]) = (c.recalled h).live m :=
  recalled_append c h [m]

variable {c : ProfileCache} {name n : String} {p q : Profile}

/-- Only a kept profile's name is answered otherwise than before. -/
theorem cached?_keep_eq_some_iff :
    (c.keep name q).cached? n = some p ↔
      (n = name ∧ q = p) ∨ (c.cached? n = some p ∧ n ≠ name) := by
  rw [cached?_keep]
  by_cases h : name = n
  · simp [h]
  · simp [h, Ne.symm h]

/-- An answer that gives a profile. -/
theorem learn_of_given {r : Reply} {body : List UInt8} (hinquiry : r.inquiry = .profile name)
    (hanswer : r.answer = .ok body) (hdecode : Profile.decode body = .ok p) :
    c.learn r = c.keep name p := by
  rw [learn, hinquiry, hanswer]
  dsimp only
  rw [hdecode]

/-- An answer that gives no profile. -/
theorem learn_of_spares {r : Reply} (h : ∀ name, (Moment.answered r).Spares name) :
    c.learn r = c := by
  unfold learn
  split
  · rename_i name body hinquiry hanswer
    split
    · rename_i p hdecode
      exact absurd ⟨hinquiry, body, hanswer, hdecode⟩ ((h name).2 p)
    · rfl
  · rfl

/-- **One moment**: what it puts under a name is there afterwards, and what it spares stays. -/
theorem cached?_live_eq_some_iff {m : Moment} :
    (c.live m).cached? n = some p ↔ m.Files n p ∨ c.cached? n = some p ∧ m.Spares n := by
  cases m with
  | remembered q =>
    rw [live, remember]
    by_cases hempty : q.name = ""
    · -- a profile without a name is not remembered
      rw [if_pos hempty]
      have hfiles : ∀ p, ¬ (Moment.remembered q).Files n p := by
        rintro p ⟨rfl, rfl, hne⟩
        exact hne hempty
      simp [hfiles, Moment.Spares]
    · rw [if_neg hempty, cached?_keep_eq_some_iff]
      rw [Moment.spares_remembered_iff hempty]
      refine or_congr_left ⟨?_, ?_⟩
      · rintro ⟨rfl, rfl⟩
        exact ⟨rfl, rfl, hempty⟩
      · rintro ⟨rfl, rfl, -⟩
        exact ⟨rfl, rfl⟩
  | answered r =>
    rw [live]
    by_cases hgiven : ∃ name q, (Moment.answered r).Files name q
    · obtain ⟨name, q, hinquiry, body, hanswer, hdecode⟩ := hgiven
      have hfiles : ∀ n p, (Moment.answered r).Files n p ↔ n = name ∧ q = p := fun n p =>
        Moment.files_answered_iff hinquiry hanswer hdecode
      have hspares : (Moment.answered r).Spares n ↔ n ≠ name := by
        simp [Moment.Spares, hfiles]
      rw [learn_of_given hinquiry hanswer hdecode, cached?_keep_eq_some_iff, hfiles, hspares]
    · have hnot : ∀ name q, ¬ (Moment.answered r).Files name q := fun name q h =>
        hgiven ⟨name, q, h⟩
      rw [learn_of_spares fun name => ⟨by simp, hnot name⟩]
      simp [hnot, Moment.Spares]
  | cleared => simp [live, Moment.Files, Moment.Spares]

/-- **What a history leaves under a name**: what was put there last, if the cache was not cleared
since. -/
theorem cached?_recalled (h : List Moment) (n : String) (p : Profile) :
    (empty.recalled h).cached? n = some p ↔ Latest h n p := by
  induction h using List.reverseRecOn with
  | nil => simp [Latest]
  | append_singleton h m ih => rw [recalled_concat, cached?_live_eq_some_iff, ih, latest_concat]

/-- After a moment a name is known if it was filed then, or known before and not cleared. -/
theorem knows_live {m : Moment} :
    (c.live m).Knows n ↔ (∃ p, m.Files n p) ∨ c.Knows n ∧ m ≠ .cleared := by
  have hiff : ∀ c : ProfileCache, c.Knows n ↔ ∃ p, c.cached? n = some p := fun c =>
    Option.isSome_iff_exists
  simp only [hiff, cached?_live_eq_some_iff, Moment.Spares]
  by_cases hfiles : ∃ p, m.Files n p
  · obtain ⟨p, hp⟩ := hfiles
    exact ⟨fun _ => .inl ⟨p, hp⟩, fun _ => ⟨p, .inl hp⟩⟩
  · have hnot : ∀ p, ¬ m.Files n p := fun p h => hfiles ⟨p, h⟩
    simp [hnot]

/-- A name is known after a history if something was put there and the cache was not cleared
since. -/
theorem knows_recalled (h : List Moment) (n : String) :
    (empty.recalled h).Knows n ↔
      ∃ before m after, h = before ++ m :: after ∧ (∃ p, m.Files n p) ∧ .cleared ∉ after := by
  induction h using List.reverseRecOn with
  | nil => simp [Knows]
  | append_singleton h m ih =>
    rw [recalled_concat, knows_live, ih, exists_split_concat_iff]
    simp [eq_comm, ← and_assoc]

/-! ## Requests that are spared -/

/-- Along a history, a profile is asked for only as long as the cache has none of that name. -/
def Sparing : ProfileCache → List Moment → Prop
  | _, [] => True
  | c, m :: h =>
    (∀ r n, m = .answered r → r.inquiry = .profile n → ¬ c.Knows n) ∧ (c.live m).Sparing h

/-- A history is sparing exactly if both of its parts are, the second with what the first left. -/
theorem sparing_append {c : ProfileCache} {h k : List Moment} :
    c.Sparing (h ++ k) ↔ c.Sparing h ∧ (c.recalled h).Sparing k := by
  induction h generalizing c with
  | nil => simp [Sparing]
  | cons m h ih =>
    rw [List.cons_append, Sparing, Sparing, ih, and_assoc]
    rfl

/-- When a profile is asked for, the cache has none of that name. -/
theorem Sparing.not_knows {c : ProfileCache} {before after : List Moment} {r : Reply}
    (h : c.Sparing (before ++ .answered r :: after)) (hr : r.inquiry = .profile n) :
    ¬ (c.recalled before).Knows n :=
  (sparing_append.mp h).2.1 r n rfl hr

end ProfileCache

/-! ## Activities -/

namespace Profiles

open ProfileCache

variable {α β γ : Type} {a : Authority α} {ps : Profiles α}

/-- The requests to the authority in a trace, with its answers, as moments of the cache. -/
def conversation (a : Authority α) (s : α) (es : List Event) : List Moment :=
  (a.log s (inquiries es)).map .answered

/-- What is said in two traces is what the first says, then what the second says. -/
theorem conversation_append (s : α) (es fs : List Event) :
    conversation a s (es ++ fs) =
      conversation a s es ++ conversation a (a.after s (inquiries es)) fs := by
  rw [conversation, inquiries_append, Authority.log_append, List.map_append]
  rfl

/-- Work on the profiles changes the cache by the answers to its requests alone, and asks for no
profile of a name that is known. -/
structure Accounted (a : Authority α) (ps : Profiles α) (o : Outcome Event (Profiles α) β) :
    Prop where
  /-- the requests lead the authority from one state to the other -/
  authority : a.after ps.authority (inquiries o.trace) = o.state.authority
  /-- the answers lead from one cache to the other -/
  cache : ps.cache.recalled (conversation a ps.authority o.trace) = o.state.cache
  /-- nothing is asked for that is known -/
  sparing : ps.cache.Sparing (conversation a ps.authority o.trace)

/-- An activity is `Accounted` in every state. -/
def Accounts (a : Authority α) (m : Activity Event (Profiles α) β) : Prop :=
  ∀ ps, Accounted a ps (m ps)

namespace Accounts

/-- An activity without requests that leaves the state alone. -/
theorem of_unasked {m : Activity Event (Profiles α) β} (hm : Emits Event.IsUnasked m)
    (hstate : ∀ ps, (m ps).state = ps) : Accounts a m := by
  intro ps
  have hnone : conversation a ps.authority (m ps).trace = [] := by
    rw [conversation, inquiries_of_unasked (hm.trace ps)]
    rfl
  constructor
  · rw [inquiries_of_unasked (hm.trace ps), hstate]
    rfl
  · rw [hnone, hstate, recalled_nil]
  · rw [hnone]
    trivial

theorem pure (b : β) : Accounts a (Pure.pure b : Activity Event (Profiles α) β) :=
  of_unasked (Keeps.pure b) fun _ => rfl

theorem log (level : Level) (text : String) :
    Accounts a (Activity.emit (.line level text) : Activity Event (Profiles α) Unit) :=
  of_unasked (Keeps.emit trivial) fun _ => rfl

/-- Activities in a row are accounted for if each of them is. -/
theorem bind {m : Activity Event (Profiles α) β} {f : β → Activity Event (Profiles α) γ}
    (hm : Accounts a m) (hf : ∀ b, Accounts a (f b)) : Accounts a (m >>= f) := by
  intro ps
  obtain ⟨hauthority, hcache, hsparing⟩ := hm ps
  obtain ⟨hauthority', hcache', hsparing'⟩ := hf (m ps).value (m ps).state
  constructor
  · rw [state_bind, trace_bind, inquiries_append, Authority.after_append, hauthority, hauthority']
  · rw [state_bind, trace_bind, conversation_append, recalled_append, hauthority, hcache, hcache']
  · rw [trace_bind, conversation_append, hauthority, sparing_append, hcache]
    exact ⟨hsparing, hsparing'⟩

/-- A profile that is handed over leaves the cache alone. -/
theorem upload (yaml : String) : Accounts a ((a.upload yaml).on authorityPart) := by
  intro ps
  rw [on, Authority.upload_eq]
  refine ⟨rfl, rfl, fun r n hr hn => ?_, trivial⟩
  obtain rfl := Moment.answered.inj hr
  cases hn

/-- A look-up asks for what is not known, and keeps it if it is given. -/
theorem get (name : String) : Accounts a (get a name) := by
  intro ps
  have hlook := lookup_get a name ps
  generalize Profiles.get a name ps = o at hlook
  -- what is asked is asked about the name
  have hsparing : ∀ answer, ¬ ps.cache.Knows name →
      ps.cache.Sparing [.answered ⟨.profile name, answer⟩] := fun answer hnew =>
    ⟨fun r n hr hn => by
      obtain rfl := Moment.answered.inj hr
      obtain rfl := Inquiry.profile.inj hn
      exact hnew, trivial⟩
  -- an answer that does not give the profile teaches nothing
  have hfails : ∀ answer, (∀ body p, answer = .ok body → Profile.decode body ≠ .ok p) →
      ps.cache.learn ⟨.profile name, answer⟩ = ps.cache := by
    intro answer hanswer
    refine learn_of_spares fun n => ⟨nofun, ?_⟩
    rintro p ⟨-, body, hbody, hdecode⟩
    exact hanswer body p hbody hdecode
  cases hlook with
  | known p hcached => exact ⟨rfl, rfl, trivial⟩
  | refused e hnew answer =>
    refine ⟨rfl, hfails _ fun body p hbody => ?_, hsparing _ hnew⟩
    cases answer.symm.trans hbody
  | garbled body problem hnew answer undecoded =>
    refine ⟨rfl, hfails _ fun body' p hbody hdecode => ?_, hsparing _ hnew⟩
    obtain rfl := Except.ok.inj (answer.symm.trans hbody)
    cases undecoded.symm.trans hdecode
  | given body p line hnew answer decoded =>
    exact ⟨rfl, learn_of_given rfl answer decoded, hsparing _ hnew⟩

end Accounts

theorem accounts_uploadFile (path : String) (content : FileContent) :
    Accounts a (uploadFile a path content) := by
  unfold uploadFile
  rcases readProfile path content with e | ⟨yaml, name⟩
  · exact .pure _
  · refine .bind (.log _ _) fun _ => .bind (.get name) fun known => ?_
    split
    · exact .bind (.log _ _) fun _ => .pure _
    · refine .bind (.log _ _) fun _ => .bind (.upload yaml) fun uploaded => ?_
      rcases uploaded with e | _
      · exact .pure _
      · refine .bind (.get name) fun found => ?_
        rcases found with e | p
        · exact .pure _
        · exact .pure _
    · exact .pure _

theorem accounts_uploadFiles (folder : String) (count : Nat)
    (files : List (FileName × FileContent)) :
    Accounts a (uploadFiles a folder count files) := by
  induction files generalizing count with
  | nil => exact .pure _
  | cons f files ih =>
    refine .bind (accounts_uploadFile _ _) fun r => ?_
    rcases r with e | isNew
    · exact .pure _
    · exact ih _

/-- An upload is accounted for by its moments. -/
theorem accounts_uploadFolder (f : Folder) : Accounts a (uploadFolder a f) := by
  unfold uploadFolder
  rcases f.entries with reason | entries
  · exact .pure _
  · exact .bind (.log _ _) fun _ => accounts_uploadFiles _ _ _

/-! ## Runs -/

/-- Something that is done with profiles. -/
inductive Operation
  /-- a profile is to be remembered -/
  | remember (p : Profile)
  /-- a profile is looked up -/
  | get (name : String)
  /-- the profiles of a folder are handed over -/
  | upload (f : Folder)
  /-- the cache is cleared -/
  | clear

/-- The outcome of an operation, whatever value it hands over. -/
def perform (a : Authority α) : Operation → Activity Event (Profiles α) Unit
  | .remember p => update fun c => c.remember p
  | .get name => do
    let _ ← get a name
    return ()
  | .upload f => do
    let _ ← uploadFolder a f
    return ()
  | .clear => update fun _ => .empty

/-- The state after one operation after the other. -/
def run (a : Authority α) (ops : List Operation) (ps : Profiles α) : Profiles α :=
  ops.foldl (fun ps op => (perform a op ps).state) ps

/-- What an operation brings to the cache. -/
def moments (a : Authority α) (op : Operation) (ps : Profiles α) : List Moment :=
  match op with
  | .remember p => [.remembered p]
  | .get _ | .upload _ => conversation a ps.authority (perform a op ps).trace
  | .clear => [.cleared]

/-- Everything that one operation after the other brings to the cache, first thing first. -/
def history (a : Authority α) : List Operation → Profiles α → List Moment
  | [], _ => []
  | op :: ops, ps => moments a op ps ++ history a ops (perform a op ps).state

/-- An operation leaves what its moments lead to, and asks for nothing that is known. -/
theorem recalled_moments (op : Operation) (ps : Profiles α) :
    ps.cache.recalled (moments a op ps) = (perform a op ps).state.cache ∧
      ps.cache.Sparing (moments a op ps) := by
  have hquiet : ∀ m : Moment, (∀ r, m ≠ .answered r) → ps.cache.Sparing [m] := fun m hm =>
    ⟨fun r n hr => absurd hr (hm r), trivial⟩
  cases op with
  | remember p => exact ⟨rfl, hquiet _ nofun⟩
  | get name =>
    have hget : Accounts a (perform a (.get name)) := .bind (.get name) fun _ => .pure _
    exact ⟨(hget ps).cache, (hget ps).sparing⟩
  | upload f =>
    have hupload : Accounts a (perform a (.upload f)) :=
      .bind (accounts_uploadFolder f) fun _ => .pure _
    exact ⟨(hupload ps).cache, (hupload ps).sparing⟩
  | clear => exact ⟨rfl, hquiet _ nofun⟩

/-- The cache after a run is what its history leaves, and no request of it was superfluous. -/
theorem recalled_history (ops : List Operation) (ps : Profiles α) :
    ps.cache.recalled (history a ops ps) = (run a ops ps).cache ∧
      ps.cache.Sparing (history a ops ps) := by
  induction ops generalizing ps with
  | nil => exact ⟨rfl, trivial⟩
  | cons op ops ih =>
    obtain ⟨hcache, hsparing⟩ := recalled_moments (a := a) op ps
    obtain ⟨hcache', hsparing'⟩ := ih (perform a op ps).state
    rw [history, recalled_append, sparing_append, hcache]
    exact ⟨hcache', hsparing, hsparing'⟩

/-- A look-up that fails changes nothing. -/
theorem cache_get_of_error {name : String} {e : AuthorityError}
    (h : (get a name ps).value = .error e) : (get a name ps).state.cache = ps.cache := by
  have hlook := lookup_get a name ps
  generalize get a name ps = o at hlook h ⊢
  cases hlook with
  | known p hcached => cases h
  | refused e hnew answer => rfl
  | garbled body problem hnew answer undecoded => rfl
  | given body p line hnew answer decoded => cases h

/-- A look-up asks for the profile exactly if it is not known. -/
theorem inquiries_get (name : String) (ps : Profiles α) :
    inquiries (get a name ps).trace =
      if ps.cache.cached? name = none then [.profile name] else [] := by
  have hlook := lookup_get a name ps
  generalize get a name ps = o at hlook
  have hnone : ¬ ps.cache.Knows name → ps.cache.cached? name = none :=
    Option.not_isSome_iff_eq_none.mp
  cases hlook with
  | known p hcached =>
    rw [if_neg (by simp [hcached])]
    rfl
  | refused e hnew answer => rw [if_pos (hnone hnew)]; rfl
  | garbled body problem hnew answer undecoded => rw [if_pos (hnone hnew)]; rfl
  | given body p line hnew answer decoded => rw [if_pos (hnone hnew)]; rfl

end Profiles

/-! ## The list -/

namespace ProfileCache

/-- The list holds the cached profiles, each once for every name that it is under. -/
theorem list_perm (c : ProfileCache) : c.list.Perm (c.profiles.keys.filterMap c.cached?) := by
  have hvalues : c.profiles.values = c.profiles.keys.filterMap c.cached? :=
    c.profiles.values_eq_filterMap
  rw [← hvalues]
  exact List.mergeSort_perm _ _

/-- The list is in the order of the names. -/
theorem list_sorted (c : ProfileCache) : c.list.Pairwise fun p q => p.name ≤ q.name := by
  have h : c.list.Pairwise fun p q => decide (p.name ≤ q.name) = true := by
    refine List.pairwise_mergeSort ?_ ?_ _
    · intro p q r hpq hqr
      exact decide_eq_true (String.le_trans (of_decide_eq_true hpq) (of_decide_eq_true hqr))
    · intro p q
      rcases String.le_total p.name q.name with h | h <;> simp [h]
  exact h.imp of_decide_eq_true

/-- The list holds exactly the profiles that are cached under some name. -/
theorem mem_list {c : ProfileCache} {p : Profile} :
    p ∈ c.list ↔ ∃ name, c.cached? name = some p := by
  rw [list, List.mem_mergeSort, Table.mem_values]
  rfl

end ProfileCache

/-! ## The whole account -/

namespace Profiles

open ProfileCache

variable {α : Type}

/-- Everything that there is to say about a cache and its history. -/
structure Recollects (a : Authority α) (h : List Moment) (ps : Profiles α) : Prop where
  /-- What the cache has under a name was remembered under it, or fetched for it, last of all, and
  the cache was not cleared since. -/
  cached : ∀ n p, ps.cache.cached? n = some p ↔ Latest h n p
  /-- It has nothing under a name if it was cleared after everything that was put there. -/
  absent : ∀ n, ps.cache.cached? n = none ↔
    ∀ before m after p, h = before ++ m :: after → m.Files n p → .cleared ∈ after
  /-- A look-up asks the authority for the profile exactly if the cache has none of that name. -/
  asks : ∀ n, inquiries (get a n ps).trace =
    if ps.cache.cached? n = none then [.profile n] else []
  /-- A look-up that fails changes no entry. -/
  failed : ∀ n e, (get a n ps).value = .error e → (get a n ps).state.cache = ps.cache
  /-- Neither does any other operation, if no answer gives a profile. -/
  unmoved : ∀ op, (∀ m ∈ moments a op ps, ∀ n, m.Spares n) →
    (perform a op ps).state.cache = ps.cache
  /-- Between something that is put under a name and a later request for the name, the cache is
  cleared. -/
  sparing : ∀ before m between r after n p,
    h = before ++ m :: between ++ .answered r :: after → m.Files n p → r.inquiry = .profile n →
      .cleared ∈ between
  /-- The list has every entry once, -/
  listed : ∃ names : List String, names.Nodup ∧ (∀ n, n ∈ names ↔ (ps.cache.cached? n).isSome) ∧
    ps.cache.list.Perm (names.filterMap ps.cache.cached?)
  /-- ordered by the names of the profiles. -/
  sorted : ps.cache.list.Pairwise fun p q => p.name ≤ q.name

/-- Moments that spare every name leave the cache as it is. -/
theorem recalled_of_spares {c : ProfileCache} {h : List Moment} (hs : ∀ m ∈ h, ∀ n, m.Spares n) :
    c.recalled h = c := by
  induction h with
  | nil => rfl
  | cons m h ih =>
    obtain ⟨hm, hh⟩ := List.forall_mem_cons.mp hs
    have hlive : c.live m = c := by
      cases m with
      | remembered p =>
        refine if_pos ?_
        by_contra hempty
        exact (hm p.name).2 p ⟨rfl, rfl, hempty⟩
      | answered r => exact learn_of_spares hm
      | cleared => exact absurd rfl (hm "").1
    rw [recalled, List.foldl_cons, hlive]
    exact ih hh

/-- **What the profile cache recalls**, after any operations and with any authority: it has under
every name the profile that was remembered or fetched for it last, since the last clear; so nothing
is asked for that it has, and what fails leaves it as it is. -/
theorem recollects_run (a : Authority α) (authority : α) (ops : List Operation) :
    Recollects a (history a ops ⟨.empty, authority⟩) (run a ops ⟨.empty, authority⟩) := by
  obtain ⟨hcache, hsparing⟩ := recalled_history (a := a) ops ⟨.empty, authority⟩
  have hknows : ∀ n, (run a ops ⟨.empty, authority⟩).cache.cached? n = none ↔
      ¬ (run a ops ⟨.empty, authority⟩).cache.Knows n := fun n =>
    Option.not_isSome_iff_eq_none.symm
  constructor
  case cached =>
    intro n p
    rw [← hcache]
    exact cached?_recalled _ n p
  case absent =>
    intro n
    rw [hknows, ← hcache, knows_recalled]
    constructor
    · intro hno before m after p hsplit hfiles
      by_contra hclear
      exact hno ⟨before, m, after, hsplit, ⟨p, hfiles⟩, hclear⟩
    · rintro hall ⟨before, m, after, hsplit, ⟨p, hfiles⟩, hclear⟩
      exact hclear (hall before m after p hsplit hfiles)
  case asks => exact fun n => inquiries_get n _
  case failed => exact fun n e he => cache_get_of_error he
  case unmoved =>
    intro op hspares
    rw [← (recalled_moments op _).1]
    exact recalled_of_spares hspares
  case sparing =>
    intro before m between r after n p hsplit hfiles hr
    rw [hsplit] at hsparing
    -- when the request was made, nothing was known of the name
    have hnew := hsparing.not_knows hr
    rw [knows_recalled] at hnew
    by_contra hclear
    exact hnew ⟨before, m, between, rfl, ⟨p, hfiles⟩, hclear⟩
  case listed =>
    exact ⟨_, Table.keys_nodup _, fun n => Table.mem_keys, list_perm _⟩
  case sorted => exact list_sorted _

/-! ## Profiles under another name -/

/-- The last time that something was put under the name, it was a profile of another name, with
which the authority had answered a request for the name. -/
def Misfiled (h : List Moment) (name : String) (p : Profile) : Prop :=
  p.name ≠ name ∧ ∃ before r after, h = before ++ .answered r :: after ∧
    (Moment.answered r).Files name p ∧ ∀ x ∈ after, x.Spares name

/-- What is remembered is remembered under its own name. -/
theorem misfiled_iff_latest {h : List Moment} {name : String} {p : Profile} :
    Misfiled h name p ↔ Latest h name p ∧ p.name ≠ name := by
  constructor
  · rintro ⟨hname, before, r, after, hsplit, hfiles, hafter⟩
    exact ⟨⟨before, .answered r, after, hsplit, hfiles, hafter⟩, hname⟩
  · rintro ⟨⟨before, m, after, hsplit, hfiles, hafter⟩, hname⟩
    cases m with
    | remembered q =>
      obtain ⟨-, hown, -⟩ := hfiles
      exact absurd hown hname
    | answered r => exact ⟨hname, before, r, after, hsplit, hfiles, hafter⟩
    | cleared => exact hfiles.elim

end Profiles

namespace ProfileCache

/-- Every profile is under its own name. -/
def Filed (c : ProfileCache) : Prop := ∀ n p, c.cached? n = some p → p.name = n

variable {c : ProfileCache}

theorem list_nodup_iff :
    (c.list.map Profile.name).Nodup ↔ (c.profiles.values.map Profile.name).Nodup :=
  ((List.mergeSort_perm _ _).map _).nodup_iff

/-- If every profile is under its own name, no name is listed twice. -/
theorem Filed.list_nodup (h : c.Filed) : (c.list.map Profile.name).Nodup :=
  list_nodup_iff.mpr (Table.values_nodup h)

/-- Remembering a profile leaves every profile under its own name. -/
theorem Filed.remember (h : c.Filed) (p : Profile) : (c.remember p).Filed := by
  intro n q hq
  unfold ProfileCache.remember at hq
  split at hq
  · exact h n q hq
  · rcases cached?_keep_eq_some_iff.mp hq with ⟨rfl, rfl⟩ | ⟨hq, -⟩
    · rfl
    · exact h n q hq

/-- A profile that is remembered takes the place of the one of its name in the list. -/
theorem Filed.list_remember (h : c.Filed) {p : Profile} (hp : p.name ≠ "") :
    (c.remember p).list.Perm (p :: c.list.filter fun q => q.name ≠ p.name) := by
  have hnodup : c.list.Nodup := List.Nodup.of_map Profile.name h.list_nodup
  have hnodup' : (c.remember p).list.Nodup :=
    List.Nodup.of_map Profile.name (h.remember p).list_nodup
  have hnew : p ∉ c.list.filter fun q => q.name ≠ p.name := by simp
  refine (List.perm_ext_iff_of_nodup hnodup'
    (List.nodup_cons.mpr ⟨hnew, hnodup.filter _⟩)).mpr fun q => ?_
  rw [mem_list, List.mem_cons, List.mem_filter, mem_list, ProfileCache.remember, if_neg hp]
  simp only [cached?_keep_eq_some_iff, decide_eq_true_eq]
  constructor
  · rintro ⟨n, ⟨rfl, rfl⟩ | ⟨hq, hn⟩⟩
    · exact .inl rfl
    · refine .inr ⟨⟨n, hq⟩, ?_⟩
      rw [h n q hq]
      exact hn
  · rintro (rfl | ⟨⟨n, hq⟩, hn⟩)
    · exact ⟨q.name, .inl ⟨rfl, rfl⟩⟩
    · refine ⟨n, .inr ⟨hq, ?_⟩⟩
      rw [← h n q hq]
      exact hn

end ProfileCache

namespace Profiles

open ProfileCache

/-- **Which profiles are not under their own name**, after any operations and with any authority:
those of another name that the authority gave when it was asked for the name last. Without them no
two profiles of one name are in the list, and a profile that is remembered takes the place of the
one of its name. -/
theorem misfiled_iff {α : Type} (a : Authority α) (authority : α) (ops : List Operation) :
    let c := (run a ops ⟨.empty, authority⟩).cache
    let h := history a ops ⟨.empty, authority⟩
    (∀ n p, c.cached? n = some p ∧ p.name ≠ n ↔ Misfiled h n p) ∧
      ((∀ n p, ¬ Misfiled h n p) → (c.list.map Profile.name).Nodup ∧
        ∀ p, p.name ≠ "" →
          (c.remember p).list.Perm (p :: c.list.filter fun q => q.name ≠ p.name)) := by
  intro c h
  have hcache : ProfileCache.empty.recalled h = c := (recalled_history ops ⟨.empty, authority⟩).1
  have hmisfiled : ∀ n p, c.cached? n = some p ∧ p.name ≠ n ↔ Misfiled h n p := fun n p => by
    rw [misfiled_iff_latest, ← hcache, cached?_recalled]
  refine ⟨hmisfiled, fun hnone => ?_⟩
  have hfiled : c.Filed := fun n p hp => by
    by_contra hname
    exact hnone n p ((hmisfiled n p).mp ⟨hp, hname⟩)
  exact ⟨hfiled.list_nodup, fun p hp => hfiled.list_remember hp⟩

/-- An authority that answers for another profile: the cache has the valve under the name of the
meter, and when a valve is remembered, the list shows two of them. -/
theorem not_forall_filed :
    ¬ ∀ (α : Type) (a : Authority α) (authority : α) (ops : List Operation),
      let c := (run a ops ⟨.empty, authority⟩).cache
      (∀ n p, c.cached? n = some p → p.name = n) ∨ (c.list.map Profile.name).Nodup := by
  intro h
  let valve := Utf8.ofString "\x7b\"name\":\"valve\"\x7d"
  let c := (run .scripted [.get "meter", .remember (.ofName "valve")] ⟨.empty, [valve]⟩).cache
  have hkept : (c.cached? "meter").map Profile.name = some "valve" := by decide +kernel
  have hvalues : ¬ (c.profiles.values.map Profile.name).Nodup := by decide +kernel
  rcases h _ .scripted [valve] [.get "meter", .remember (.ofName "valve")] with hfiled | hnodup
  · obtain ⟨p, hp, hname⟩ := Option.map_eq_some_iff.mp hkept
    exact absurd ((hfiled "meter" p hp).symm.trans hname) (by decide)
  · exact hvalues (list_nodup_iff.mp hnodup)

end Profiles

end DeviceHost
