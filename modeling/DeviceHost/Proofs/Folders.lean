import DeviceHost.Profile.Folder
import DeviceHost.Proofs.Octets
import Mathlib.Data.List.TakeWhile

/-!
# What is found in a folder of profiles

Of everything in a folder only the files matter whose names say that they hold YAML documents, in
the order of the octets of their names; and of every such file only its text and the name in it, or
why there is none.

* `HasExtension`, `isYamlName_iff` — which names say so;
* `InFolder`, `mem_latest_iff` — what is in a folder under a name;
* `Visits`, `visits_yamlFiles` — the files that are visited;
* `Document`, `readProfile_eq_ok_iff` — a file that is read gives the text that its octets
  stand for;
* `Unread`, `readProfile_eq_error_iff` — a file that is not read gives the reason.
-/

namespace DeviceHost

/-! ## Names of files -/

/-- The part of a name after its last point, which has something before it. -/
def HasExtension (name : FileName) (ext : List UInt8) : Prop :=
  ∃ stem, stem ≠ [] ∧ name = stem ++ 0x2E :: ext ∧ 0x2E ∉ ext

/-- The extension of a name is what stands after its last point. -/
theorem extension?_eq_some_iff {name : FileName} {ext : List UInt8} :
    extension? name = some ext ↔ HasExtension name ext := by
  constructor
  · intro h
    simp only [extension?] at h
    split at h
    · cases h
    · cases h
    · rename_i b stem hstem hdrop
      obtain rfl := Option.some.inj h
      have hne : name.reverse.dropWhile (fun b => b != 0x2E) ≠ [] := by simp [hdrop]
      have hpoint : (b != 0x2E) = false := by
        simpa only [hdrop, List.head_cons] using List.head_dropWhile_not _ hne
      obtain rfl : b = 0x2E := by simpa using hpoint
      have hsplit := List.takeWhile_append_dropWhile (p := fun b => b != 0x2E) (l := name.reverse)
      rw [hdrop] at hsplit
      refine ⟨stem.reverse, by simpa using hstem, ?_, fun hmem => ?_⟩
      · simpa using congrArg List.reverse hsplit.symm
      · simpa using List.mem_takeWhile_imp (List.mem_reverse.mp hmem)
  · rintro ⟨stem, hstem, rfl, hext⟩
    have hbehind : ∀ b ∈ ext.reverse, (b != 0x2E) = true := fun b hb => by
      have hne : b ≠ 0x2E := fun he => hext (he ▸ List.mem_reverse.mp hb)
      simpa using hne
    have hreverse : (stem ++ 0x2E :: ext).reverse = ext.reverse ++ 0x2E :: stem.reverse := by simp
    have htake : (stem ++ 0x2E :: ext).reverse.takeWhile (fun b => b != 0x2E) = ext.reverse := by
      rw [hreverse, List.takeWhile_append_of_pos hbehind]
      simp
    have hdrop : (stem ++ 0x2E :: ext).reverse.dropWhile (fun b => b != 0x2E)
        = 0x2E :: stem.reverse := by
      rw [hreverse, List.dropWhile_append_of_pos hbehind]
      simp
    obtain ⟨d, r, hd⟩ := List.exists_cons_of_ne_nil (List.reverse_ne_nil_iff.mpr hstem)
    simp only [extension?, hdrop, hd, htake, List.reverse_reverse]

/-- The name of a file with a YAML document: its extension is `yaml`, in whatever letters. What
stands before it need not be a text. -/
def IsYaml (name : FileName) : Prop :=
  ∃ ext, HasExtension name (Utf8.encode ext) ∧ Text.lower ext = "yaml".toList

/-- A file is taken for a profile exactly if its name ends as that of a YAML file. -/
theorem isYamlName_iff {name : FileName} : isYamlName name ↔ IsYaml name := by
  simp only [isYamlName, beq_iff_eq, Option.map_eq_some_iff, Option.bind_eq_some_iff,
    extension?_eq_some_iff, Utf8.chars?_eq_some_iff]
  constructor
  · rintro ⟨ext, ⟨_, hname, rfl⟩, hlower⟩
    exact ⟨ext, hname, hlower⟩
  · rintro ⟨ext, hname, hlower⟩
    exact ⟨ext, ⟨_, hname, rfl⟩, hlower⟩

example : isYamlName (0xFF :: Utf8.ofString ".YAML") ∧ ¬ isYamlName (Utf8.ofString ".yaml") := by
  decide

/-! ## The files that are visited -/

/-- What is in a folder under a name: of several entries the last one. -/
def InFolder (entries : List (FileName × FolderEntry)) (name : FileName) (e : FolderEntry) : Prop :=
  ∃ before after, entries = before ++ (name, e) :: after ∧ ∀ x ∈ after, x.1 ≠ name

theorem inFolder_cons_iff {first : FileName × FolderEntry}
    {entries : List (FileName × FolderEntry)} {name : FileName} {e : FolderEntry} :
    InFolder (first :: entries) name e ↔
      (first = (name, e) ∧ ∀ x ∈ entries, x.1 ≠ name) ∨ InFolder entries name e := by
  constructor
  · rintro ⟨_ | ⟨_, before⟩, after, hsplit, hafter⟩
    · obtain ⟨rfl, rfl⟩ := List.cons.inj hsplit
      exact .inl ⟨rfl, hafter⟩
    · obtain ⟨rfl, rfl⟩ := List.cons.inj hsplit
      exact .inr ⟨before, after, rfl, hafter⟩
  · rintro (⟨rfl, hrest⟩ | ⟨before, after, rfl, hafter⟩)
    · exact ⟨[], entries, rfl, hrest⟩
    · exact ⟨first :: before, after, rfl, hafter⟩

/-- Of several entries under one name the latest one is in the folder. -/
theorem mem_latest_iff {entries : List (FileName × FolderEntry)} {name : FileName}
    {e : FolderEntry} : (name, e) ∈ latest entries ↔ InFolder entries name e := by
  induction entries with
  | nil => exact ⟨nofun, fun ⟨before, after, hsplit, _⟩ => by simp at hsplit⟩
  | cons first entries ih =>
    rw [inFolder_cons_iff, latest]
    by_cases hlater : entries.any fun e' => e'.1 == first.1
    · -- the first entry does not count, since a later one has its name
      rw [if_pos hlater, ih]
      obtain ⟨x, hx, hname⟩ := List.any_eq_true.mp hlater
      refine ⟨.inr, fun h => h.elim (fun ⟨hfirst, hrest⟩ => ?_) id⟩
      rw [hfirst, beq_iff_eq] at hname
      exact (hrest x hx hname).elim
    · rw [if_neg hlater, List.mem_cons, ih]
      refine or_congr_left ⟨fun h => ⟨h.symm, fun x hx hname => hlater ?_⟩, fun h => h.1.symm⟩
      exact List.any_eq_true.mpr ⟨x, hx, by rw [← h, beq_iff_eq, hname]⟩

/-- What counts in a folder has a name of its own. -/
theorem names_latest (entries : List (FileName × FolderEntry)) :
    (latest entries).Pairwise fun e e' => e.1 ≠ e'.1 := by
  induction entries with
  | nil => exact .nil
  | cons first entries ih =>
    rw [latest]
    split
    · exact ih
    · rename_i hlater
      refine .cons (fun e he hname => hlater ?_) ih
      obtain ⟨before, after, rfl, -⟩ := mem_latest_iff.mp he
      exact List.any_eq_true.mpr ⟨e, by simp, by rw [beq_iff_eq, hname]⟩

/-- Exactly the files of a folder whose extension is `yaml`, in whatever letters, by the octets of
their names. -/
structure Visits (entries : List (FileName × FolderEntry)) (files : List (FileName × FileContent)) :
    Prop where
  /-- which files these are -/
  mem : ∀ name content, (name, content) ∈ files ↔
    InFolder entries name (.file content) ∧ IsYaml name
  /-- their order -/
  order : files.Pairwise fun f g => f.1 < g.1

/-- A file is visited exactly if it is no folder and bears the name of a YAML file. -/
theorem yamlFile?_eq_some_iff {e : FileName × FolderEntry} {f : FileName × FileContent} :
    yamlFile? e = some f ↔ e = (f.1, .file f.2) ∧ isYamlName f.1 := by
  obtain ⟨name, e⟩ := e
  obtain ⟨name', content'⟩ := f
  cases e with
  | folder => simp [yamlFile?]
  | file content =>
    simp only [yamlFile?, Option.ite_none_right_eq_some, Option.some.injEq, Prod.mk.injEq,
      FolderEntry.file.injEq]
    constructor
    · rintro ⟨hyaml, rfl, rfl⟩
      exact ⟨⟨rfl, rfl⟩, hyaml⟩
    · rintro ⟨⟨rfl, rfl⟩, hyaml⟩
      exact ⟨hyaml, rfl, rfl⟩

/-- Placing a file adds that file and loses none. -/
theorem placeFile_perm (f : FileName × FileContent) (gs : List (FileName × FileContent)) :
    (placeFile f gs).Perm (f :: gs) := by
  induction gs with
  | nil => exact .refl _
  | cons g gs ih =>
    rw [placeFile]
    split
    · exact .refl _
    · exact (ih.cons g).trans (.swap f g gs)

/-- Sorting the files of a folder loses none. -/
theorem foldr_placeFile_perm (fs : List (FileName × FileContent)) :
    (fs.foldr placeFile []).Perm fs := by
  induction fs with
  | nil => exact .nil
  | cons f fs ih => exact (placeFile_perm f _).trans (ih.cons f)

/-- A file that is placed among sorted ones keeps them sorted by name. -/
theorem sorted_placeFile (f : FileName × FileContent) {gs : List (FileName × FileContent)}
    (h : gs.Pairwise fun a b => a.1 ≤ b.1) : (placeFile f gs).Pairwise fun a b => a.1 ≤ b.1 := by
  induction gs with
  | nil => exact List.pairwise_singleton _ f
  | cons g gs ih =>
    obtain ⟨hg, hgs⟩ := List.pairwise_cons.mp h
    rw [placeFile]
    split
    · rename_i hfg
      refine .cons (fun x hx => ?_) h
      rcases List.mem_cons.mp hx with rfl | hx
      · exact hfg
      · exact List.le_trans hfg (hg x hx)
    · rename_i hfg
      refine .cons (fun x hx => ?_) (ih hgs)
      rcases List.mem_cons.mp ((placeFile_perm f gs).mem_iff.mp hx) with rfl | hx
      · exact (List.le_total x.1 g.1).resolve_left hfg
      · exact hg x hx

/-- The files that are visited are sorted, and no name comes twice. -/
theorem sorted_yamlFiles (entries : List (FileName × FolderEntry)) :
    (yamlFiles entries).Pairwise fun f g => f.1 < g.1 := by
  have hle : (yamlFiles entries).Pairwise fun f g => f.1 ≤ g.1 :=
    List.foldrRecOn _ placeFile .nil fun _ hgs f _ => sorted_placeFile f hgs
  have hne : (yamlFiles entries).Pairwise fun f g => f.1 ≠ g.1 := by
    refine ((foldr_placeFile_perm _).pairwise_iff fun h => h.symm).mpr ?_
    refine (names_latest entries).filterMap _ fun e e' hne f hf f' hf' => ?_
    obtain ⟨rfl, -⟩ := yamlFile?_eq_some_iff.mp hf
    obtain ⟨rfl, -⟩ := yamlFile?_eq_some_iff.mp hf'
    exact hne
  refine hle.imp₂ (fun f g hfg hne => ?_) hne
  by_contra hlt
  exact hne (List.le_antisymm hfg (List.not_lt.mp hlt))

/-- **Exactly the YAML documents of a folder are visited**, whatever else is in it. -/
theorem visits_yamlFiles (entries : List (FileName × FolderEntry)) :
    Visits entries (yamlFiles entries) := by
  refine ⟨fun name content => ?_, sorted_yamlFiles entries⟩
  rw [← isYamlName_iff, ← mem_latest_iff, yamlFiles, (foldr_placeFile_perm _).mem_iff,
    List.mem_filterMap]
  constructor
  · rintro ⟨e, he, hfile⟩
    obtain ⟨rfl, hyaml⟩ := yamlFile?_eq_some_iff.mp hfile
    exact ⟨he, hyaml⟩
  · rintro ⟨he, hyaml⟩
    exact ⟨_, he, yamlFile?_eq_some_iff.mpr ⟨rfl, hyaml⟩⟩

/-! ## Files that are read -/

/-- A file that can be read, a YAML document with this text, in which the profile has this name. -/
def Document (content : FileContent) (yaml name : String) : Prop :=
  content = .ok (Utf8.ofString yaml) ∧ profileName? yaml.toList = some name ∧ name ≠ ""

/-- A file that is a YAML document in which the profile has this name. -/
def Carried (content : FileContent) (name : String) : Prop := ∃ yaml, Document content yaml name

/-- Why a file gives no name. -/
inductive Unread (path : String) : FileContent → FolderError → Prop
  /-- it cannot be read -/
  | barred (reason : String) : Unread path (.error reason) (.unreadable path reason)
  /-- its octets are those of no text -/
  | garbled (bytes : List UInt8) (h : ∀ yaml, Utf8.ofString yaml ≠ bytes) :
    Unread path (.ok bytes) (.unreadable path "stream did not contain valid UTF-8")
  /-- its text is not well-formed -/
  | unparsable (yaml : String) (parsed : profileName? yaml.toList = none) :
    Unread path (.ok (Utf8.ofString yaml)) (.unparsable path)
  /-- there is no name in it -/
  | nameless (yaml : String) (parsed : profileName? yaml.toList = some "") :
    Unread path (.ok (Utf8.ofString yaml)) (.missingName path)

variable {path : String} {content : FileContent}

theorem chars?_ofString (yaml : String) : Utf8.chars? (Utf8.ofString yaml) = some yaml.toList :=
  Utf8.chars?_eq_some_iff.mpr rfl

/-- Octets that are read as characters are those of a text. -/
theorem ofString_of_chars? {bytes : List UInt8} {cs : List Char}
    (h : Utf8.chars? bytes = some cs) : bytes = Utf8.ofString (String.ofList cs) := by
  rw [Utf8.ofString, String.toList_ofList]
  exact (Utf8.chars?_eq_some_iff.mp h).symm

/-- A file that is read gives its text unchanged, with the name in it. -/
theorem readProfile_eq_ok_iff {yaml name : String} :
    readProfile path content = .ok (yaml, name) ↔ Document content yaml name := by
  constructor
  · intro h
    unfold readProfile at h
    split at h
    · cases h
    · split at h
      · cases h
      · rename_i cs hcs
        obtain rfl := ofString_of_chars? hcs
        split at h
        · cases h
        · rename_i name' hname
          split at h
          · cases h
          · rename_i hne
            obtain ⟨rfl, rfl⟩ := Prod.mk.inj (Except.ok.inj h)
            exact ⟨rfl, by rwa [String.toList_ofList], hne⟩
  · rintro ⟨rfl, hname, hne⟩
    simp only [readProfile, chars?_ofString, hname, if_neg hne, String.ofList_toList]

/-- A file that is not read gives the reason. -/
theorem readProfile_eq_error_iff {e : FolderError} :
    readProfile path content = .error e ↔ Unread path content e := by
  constructor
  · intro h
    unfold readProfile at h
    split at h
    · obtain rfl := Except.error.inj h
      exact .barred _
    · split at h
      · rename_i bytes _ hcs
        obtain rfl := Except.error.inj h
        refine .garbled bytes fun yaml hyaml => ?_
        rw [← hyaml, chars?_ofString] at hcs
        cases hcs
      · rename_i cs hcs
        obtain rfl := ofString_of_chars? hcs
        split at h
        · rename_i hname
          obtain rfl := Except.error.inj h
          exact .unparsable _ (by rwa [String.toList_ofList])
        · rename_i name hname
          split at h
          · rename_i hempty
            obtain rfl := Except.error.inj h
            exact .nameless _ (by rwa [String.toList_ofList, ← hempty])
          · cases h
  · intro h
    cases h with
    | barred reason => rfl
    | garbled bytes h =>
      rcases hcs : Utf8.chars? bytes with _ | cs
      · simp only [readProfile, hcs]
      · exact absurd (ofString_of_chars? hcs).symm (h _)
    | unparsable yaml parsed => simp only [readProfile, chars?_ofString, parsed]
    | nameless yaml parsed => simp only [readProfile, chars?_ofString, parsed, if_true]

/-- A file carries one name. -/
theorem Document.carried_iff {yaml name n : String} (h : Document content yaml name) :
    Carried content n ↔ n = name := by
  constructor
  · rintro ⟨yaml', h'⟩
    have hread : readProfile "" content = .ok (yaml, name) := readProfile_eq_ok_iff.mpr h
    have hread' : readProfile "" content = .ok (yaml', n) := readProfile_eq_ok_iff.mpr h'
    exact (Prod.mk.inj (Except.ok.inj (hread'.symm.trans hread))).2
  · rintro rfl
    exact ⟨yaml, h⟩

end DeviceHost
