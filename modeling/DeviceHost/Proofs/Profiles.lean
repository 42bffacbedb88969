import DeviceHost.Profile.Folder
import DeviceHost.Proofs.Trace

/-!
# Profiles stay in the cache

Whatever is done with the profiles of a service short of clearing them, a name that has a profile
keeps having one, though perhaps another one: `Covers` is the order in which caches grow. And
whatever is done, neither a listener nor the driver is told.

* `covers_keep`, `covers_remember` — the cache by itself;
* `keeps_get`, `keeps_uploadFolder` — look-ups and whole folders, with any authority.
-/

namespace DeviceHost

namespace ProfileCache

/-- Every name that has a profile in the first cache has one in the second. -/
def Covers (a b : ProfileCache) : Prop :=
  ∀ n, (a.cached? n).isSome → (b.cached? n).isSome

theorem Covers.refl (c : ProfileCache) : c.Covers c :=
  fun _ h => h

theorem Covers.trans {a b c : ProfileCache} (hab : a.Covers b) (hbc : b.Covers c) : a.Covers c :=
  fun n h => hbc n (hab n h)

/-- A profile that is kept makes the cache forget none. -/
theorem covers_keep (c : ProfileCache) (name : String) (p : Profile) :
    c.Covers (c.keep name p) := by
  intro n h
  rw [cached?_keep]
  split
  · rfl
  · exact h

theorem covers_remember (c : ProfileCache) (p : Profile) : c.Covers (c.remember p) := by
  unfold remember
  split
  · exact Covers.refl c
  · exact covers_keep c p.name p

/-- A remembered profile is found by its name, unless it has none. -/
theorem isSome_cached?_remember (c : ProfileCache) {p : Profile} (hp : p.name ≠ "") :
    ((c.remember p).cached? p.name).isSome := by
  rw [remember, if_neg hp, cached?_keep, if_pos rfl]
  rfl

theorem covers_foldl_remember (ds : List Device) (c : ProfileCache) :
    c.Covers (ds.foldl (fun c d => c.remember d.profile) c) := by
  induction ds generalizing c with
  | nil => exact Covers.refl c
  | cons d ds ih => exact (covers_remember c d.profile).trans (ih _)

/-- The named profiles of all devices are remembered. -/
theorem isSome_cached?_foldl_remember {ds : List Device} {d : Device} (hd : d ∈ ds)
    (hp : d.profile.name ≠ "") (c : ProfileCache) :
    ((ds.foldl (fun c d => c.remember d.profile) c).cached? d.profile.name).isSome := by
  induction ds generalizing c with
  | nil => cases hd
  | cons e ds ih =>
    rcases List.mem_cons.mp hd with rfl | hd
    · exact covers_foldl_remember ds _ _ (isSome_cached?_remember c hp)
    · exact ih hd _

end ProfileCache

namespace Profiles

open Activity ProfileCache

variable {α : Type}

/-- No profile of a cache is forgotten, and neither a listener nor the driver is told. -/
abbrev Covering (c : ProfileCache) {β : Type} (m : Activity Event (Profiles α) β) : Prop :=
  Keeps (fun ps => c.Covers ps.cache) Event.IsSilent m

/-- A look-up makes the cache forget no profile, whatever the authority answers. -/
theorem keeps_get (c : ProfileCache) (a : Authority α) (name : String) :
    Covering c (get a name) := by
  refine Keeps.bind Keeps.state fun ps => ?_
  split
  · exact Keeps.pure _
  · refine Keeps.bind (Keeps.on_part (a.emits_askFor _ _) fun _ _ h => h) fun r => ?_
    split
    · exact Keeps.pure _
    · refine Keeps.bind (Keeps.emit trivial) fun _ => ?_
      refine Keeps.bind (Keeps.modify fun ps h => ?_) fun _ => Keeps.pure _
      exact h.trans (covers_keep _ _ _)

theorem keeps_uploadFile (c : ProfileCache) (a : Authority α) (path : String)
    (content : FileContent) : Covering c (uploadFile a path content) := by
  unfold uploadFile
  split
  · exact Keeps.pure _
  · refine Keeps.bind (Keeps.emit trivial) fun _ => ?_
    refine Keeps.bind (keeps_get c a _) fun known => ?_
    split
    · exact Keeps.bind (Keeps.emit trivial) fun _ => Keeps.pure _
    · -- the authority does not know the profile, so it is handed over and looked up again
      refine Keeps.bind (Keeps.emit trivial) fun _ => ?_
      refine Keeps.bind (Keeps.on_part (a.emits_upload _) fun _ _ h => h) fun uploaded => ?_
      split
      · exact Keeps.pure _
      · refine Keeps.bind (keeps_get c a _) fun found => ?_
        split <;> exact Keeps.pure _
    · exact Keeps.pure _

theorem keeps_uploadFiles (c : ProfileCache) (a : Authority α) (folder : String) (count : Nat)
    (files : List (FileName × FileContent)) : Covering c (uploadFiles a folder count files) := by
  induction files generalizing count with
  | nil => exact Keeps.pure _
  | cons f files ih =>
    refine Keeps.bind (keeps_uploadFile c a _ _) fun r => ?_
    split
    · exact Keeps.pure _
    · exact ih _

/-- An upload makes the cache forget no profile, even if it fails. -/
theorem keeps_uploadFolder (c : ProfileCache) (a : Authority α) (f : Folder) :
    Covering c (uploadFolder a f) := by
  unfold uploadFolder
  split
  · exact Keeps.pure _
  · exact Keeps.bind (Keeps.emit trivial) fun _ => keeps_uploadFiles c a _ _ _

end Profiles

end DeviceHost
