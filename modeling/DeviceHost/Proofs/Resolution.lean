import DeviceHost.Command
import DeviceHost.Proofs.Traversal

/-!
# What a command stands for

A command names its resources one by one. It resolves to them, in its order, if there is at least
one and the profile grants every one; otherwise the first name that is not granted decides why it
does not.

* `Resolves` — the resources that a command stands for;
* `Unresolvable` — why it stands for none;
* `resolve_eq_ok_iff`, `resolve_eq_error_iff` — `resolve` finds the ones and says the other;
* `IsFirst`, `Named`, `Offered`, `Fault` — the same in terms of the lists of the profile alone, of
  which the first entry of a name counts, and `resolve_findsEach`.
-/

namespace DeviceHost

namespace Command

/-! ### One name -/

/-- The profile has the resource under the name, and the resource allows the access. -/
def Grants (p : Profile) (a : Access) (name : String) (r : Resource) : Prop :=
  p.resource? name = some r ∧ a.allowed r = true

/-- Why a profile does not grant a name; `unknown` is said of a name that it does not have. -/
inductive Denies (p : Profile) (a : Access) (unknown : CommandError) (name : String) :
    CommandError → Prop
  /-- there is no such resource -/
  | unknown (absent : p.resource? name = none) : Denies p a unknown name unknown
  /-- the resource does not allow the access -/
  | denied {r : Resource} (found : p.resource? name = some r) (disallowed : a.allowed r = false) :
    Denies p a unknown name (a.denied name)

variable {p : Profile} {a : Access} {unknown e : CommandError} {name : String} {r : Resource}

/-- A name is picked exactly if the profile grants it. -/
theorem pick_eq_ok_iff : pick p a unknown name = .ok r ↔ Grants p a name r := by
  constructor
  · intro h
    unfold pick at h
    split at h
    · cases h
    · rename_i r' hfound
      split at h
      · rename_i hallowed
        obtain rfl := Except.ok.inj h
        exact ⟨hfound, hallowed⟩
      · cases h
  · rintro ⟨hfound, hallowed⟩
    rw [pick, hfound]
    exact if_pos hallowed

/-- A name is refused exactly with what the profile denies it for. -/
theorem pick_eq_error_iff : pick p a unknown name = .error e ↔ Denies p a unknown name e := by
  constructor
  · intro h
    unfold pick at h
    split at h
    · rename_i habsent
      obtain rfl := Except.error.inj h
      exact .unknown habsent
    · rename_i r hfound
      split at h
      · cases h
      · rename_i hdisallowed
        obtain rfl := Except.error.inj h
        exact .denied hfound (Bool.eq_false_iff.mpr hdisallowed)
  · intro h
    cases h with
    | unknown absent => rw [pick, absent]
    | denied found disallowed =>
      rw [pick, found]
      exact if_neg (Bool.eq_false_iff.mp disallowed)

/-- Names are picked one after the other, up to the first refused one. -/
theorem pickAll_eq_mapM (p : Profile) (a : Access) (unknown : CommandError) (names : List String) :
    pickAll p a unknown names = names.mapM (pick p a unknown) := by
  induction names with
  | nil => rfl
  | cons name names ih =>
    rcases hname : pick p a unknown name with e | r <;>
      simp only [pickAll, mapM_cons_eq, hname, ih]

/-- Names are picked exactly if each of them is granted, and in their order. -/
theorem pickAll_eq_ok_iff {names : List String} {rs : List Resource} :
    pickAll p a unknown names = .ok rs ↔ List.Forall₂ (Grants p a) names rs := by
  simp only [pickAll_eq_mapM, mapM_eq_ok_iff, pick_eq_ok_iff]

/-- Names are refused exactly for the first denied one. -/
theorem pickAll_eq_error_iff {names : List String} :
    pickAll p a unknown names = .error e ↔
      ∃ earlier name later, names = earlier ++ name :: later ∧
        (∀ n ∈ earlier, ∃ r, Grants p a n r) ∧ Denies p a unknown name e := by
  simp only [pickAll_eq_mapM, mapM_eq_error_iff, pick_eq_ok_iff, pick_eq_error_iff]

/-! ### The whole command -/

/-- A command of a device stands for resources. -/
structure Resolves (d : Device) (command : String) (a : Access) (rs : List Resource) : Prop where
  /-- they are granted under the names of the command, in its order -/
  granted : ∃ names, namesOf? d.profile a command = some names ∧
    List.Forall₂ (Grants d.profile a) names rs
  /-- there is at least one -/
  nonempty : rs ≠ []

/-- Why a command of a device stands for no resources. -/
inductive Unresolvable (d : Device) (command : String) (a : Access) : CommandError → Prop
  /-- there is neither a command nor a resource of that name -/
  | unknown (absent : namesOf? d.profile a command = none) :
    Unresolvable d command a (.commandNotFound d.name command)
  /-- a name is not granted, and it is the first one -/
  | denied {earlier later : List String} {name : String} {e : CommandError}
    (names : namesOf? d.profile a command = some (earlier ++ name :: later))
    (granted : ∀ n ∈ earlier, ∃ r, Grants d.profile a n r)
    (denies : Denies d.profile a (.commandNotFound d.name command) name e) :
    Unresolvable d command a e
  /-- the command names nothing -/
  | empty (names : namesOf? d.profile a command = some []) :
    Unresolvable d command a (a.denied command)

variable {d : Device} {command : String} {rs : List Resource}

/-- A command resolves exactly to what the profile says it stands for. -/
theorem resolve_eq_ok_iff : resolve d command a = .ok rs ↔ Resolves d command a rs := by
  constructor
  · intro h
    unfold resolve at h
    dsimp only at h
    split at h
    · cases h
    · rename_i names hnames
      split at h
      · cases h
      · cases h
      · rename_i rs' hnonempty hpicked
        obtain rfl := Except.ok.inj h
        exact ⟨⟨names, hnames, pickAll_eq_ok_iff.mp hpicked⟩, hnonempty⟩
  · rintro ⟨⟨names, hnames, hgranted⟩, hnonempty⟩
    unfold resolve
    rw [hnames]
    dsimp only
    rw [pickAll_eq_ok_iff.mpr hgranted]
    rcases rs with _ | ⟨r, rs⟩
    · exact absurd rfl hnonempty
    · rfl

/-- A command fails to resolve exactly for what makes it unresolvable. -/
theorem resolve_eq_error_iff : resolve d command a = .error e ↔ Unresolvable d command a e := by
  constructor
  · intro h
    unfold resolve at h
    dsimp only at h
    split at h
    · rename_i habsent
      obtain rfl := Except.error.inj h
      exact .unknown habsent
    · rename_i names hnames
      split at h
      · rename_i e' hfailed
        obtain rfl := Except.error.inj h
        obtain ⟨earlier, name, later, rfl, hgranted, hdenies⟩ := pickAll_eq_error_iff.mp hfailed
        exact .denied hnames hgranted hdenies
      · -- nothing was picked and nothing failed, so there were no names
        rename_i hpicked
        obtain rfl := Except.error.inj h
        have hnil : names = [] := List.forall₂_nil_right_iff.mp (pickAll_eq_ok_iff.mp hpicked)
        exact .empty (hnil ▸ hnames)
      · cases h
  · intro h
    unfold resolve
    cases h with
    | unknown absent => rw [absent]
    | denied names granted denies =>
      rw [names]
      dsimp only
      rw [pickAll_eq_error_iff.mpr ⟨_, _, _, rfl, granted, denies⟩]
    | empty names =>
      rw [names]
      rfl

-- the first name may not be written, the second one is that of no resource
example :
    let mode := (Resource.ofName "mode" .bool).withMode .readOnly
    let p := ((Profile.ofName "fan").withResource mode).withCommand ⟨"reset", [], ["mode", "gone"]⟩
    resolve ((Device.ofName "1" "fan" "s").withProfile p) "reset" .write =
      .error (.notWritable "mode") := by decide

/-- A command either stands for resources or there is a reason why not. -/
theorem unresolvable_or_resolves (d : Device) (command : String) (a : Access) :
    (∃ e, Unresolvable d command a e) ∨ ∃ rs, Resolves d command a rs := by
  rcases h : resolve d command a with e | rs
  · exact .inl ⟨e, resolve_eq_error_iff.mp h⟩
  · exact .inr ⟨rs, resolve_eq_ok_iff.mp h⟩

/-- A command that does not resolve is unknown or denied. -/
theorem Unresolvable.eq (h : Unresolvable d command a e) :
    e = .commandNotFound d.name command ∨ ∃ name, e = a.denied name := by
  cases h with
  | unknown absent => exact .inl rfl
  | denied names granted denies =>
    cases denies with
    | unknown absent => exact .inl rfl
    | denied found disallowed => exact .inr ⟨_, rfl⟩
  | empty names => exact .inr ⟨_, rfl⟩

/-! ### The lists of the profile -/

/-- The first item of a list that has a property. -/
def IsFirst {β : Type} (P : β → Prop) (l : List β) (x : β) : Prop :=
  P x ∧ ∃ before after, l = before ++ x :: after ∧ ∀ y ∈ before, ¬ P y

theorem find?_eq_some_iff_isFirst {β : Type} {l : List β} {q : β → Bool} {x : β} :
    l.find? q = some x ↔ IsFirst (q · = true) l x := by
  simp [List.find?_eq_some_iff_append, IsFirst]

/-- A resource is found exactly if it is the first of its name. -/
theorem resource?_eq_some_iff :
    p.resource? name = some r ↔ IsFirst (·.name = name) p.resources r := by
  simp [Profile.resource?, find?_eq_some_iff_isFirst]

theorem resource?_eq_none_iff : p.resource? name = none ↔ ∀ r ∈ p.resources, r.name ≠ name := by
  simp [Profile.resource?]

theorem command?_eq_some_iff {c : ProfileCommand} :
    p.command? name = some c ↔ IsFirst (·.name = name) p.commands c := by
  simp [Profile.command?, find?_eq_some_iff_isFirst]

theorem command?_eq_none_iff : p.command? name = none ↔ ∀ c ∈ p.commands, c.name ≠ name := by
  simp [Profile.command?]

/-- What an access asks of the mode of a resource. -/
def Access.Permitted : Access → AccessMode → Prop
  | read, m => m ≠ .writeOnly
  | write, m => m ≠ .readOnly

theorem Access.allowed_iff : a.allowed r = true ↔ a.Permitted r.mode := by
  rcases a with _ | _ <;> rcases hm : r.mode with _ | _ | _ <;>
    simp [allowed, Permitted, AccessMode.readable, AccessMode.writable, hm]

/-- The names that are asked for by a command: those of the first command of that name, or, if there
is none but a resource of that name, the name itself. -/
inductive Named (p : Profile) (a : Access) (command : String) : List String → Prop
  /-- the first command of that name -/
  | ofCommand {c : ProfileCommand} (first : IsFirst (·.name = command) p.commands c) :
    Named p a command (a.names c)
  /-- no command, but a resource -/
  | ofResource {r : Resource} (uncommanded : ∀ c ∈ p.commands, c.name ≠ command)
    (mem : r ∈ p.resources) (name_eq : r.name = command) : Named p a command [command]

/-- A command of the profile names its list, a resource itself. -/
theorem namesOf?_eq_some_iff {names : List String} :
    namesOf? p a command = some names ↔ Named p a command names := by
  constructor
  · intro h
    unfold namesOf? at h
    split at h
    · rename_i c hc
      obtain rfl := Option.some.inj h
      exact .ofCommand (command?_eq_some_iff.mp hc)
    · rename_i hnone
      split at h
      · rename_i hsome
        obtain ⟨r, hr⟩ := Option.isSome_iff_exists.mp hsome
        obtain rfl := Option.some.inj h
        obtain ⟨hname, before, after, hsplit, -⟩ := resource?_eq_some_iff.mp hr
        exact .ofResource (command?_eq_none_iff.mp hnone) (hsplit ▸ by simp) hname
      · cases h
  · intro h
    cases h with
    | ofCommand first => rw [namesOf?, command?_eq_some_iff.mpr first]
    | @ofResource r uncommanded mem name_eq =>
      rw [namesOf?, command?_eq_none_iff.mpr uncommanded]
      refine if_pos (Option.ne_none_iff_isSome.mp fun hnone => ?_)
      exact resource?_eq_none_iff.mp hnone r mem name_eq

/-- No names are found exactly if neither a command nor a resource is of that name. -/
theorem namesOf?_eq_none_iff :
    namesOf? p a command = none ↔
      (∀ c ∈ p.commands, c.name ≠ command) ∧ ∀ r ∈ p.resources, r.name ≠ command := by
  rw [← command?_eq_none_iff, ← resource?_eq_none_iff, namesOf?]
  rcases p.command? command with _ | c <;> simp

/-- The resource is the first one of the name, and its mode permits the access. -/
def Offered (p : Profile) (a : Access) (name : String) (r : Resource) : Prop :=
  IsFirst (·.name = name) p.resources r ∧ a.Permitted r.mode

/-- A resource is granted exactly if it is the first of its name and its mode permits the access. -/
theorem grants_iff_offered : Grants p a name r ↔ Offered p a name r := by
  rw [Grants, resource?_eq_some_iff, Access.allowed_iff, Offered]

/-- What is wrong with a command; of several things the first one in the order of its names. -/
inductive Fault (d : Device) (command : String) (a : Access) : CommandError → Prop
  /-- there is neither a command nor a resource of that name -/
  | unknown (uncommanded : ∀ c ∈ d.profile.commands, c.name ≠ command)
    (absent : ∀ r ∈ d.profile.resources, r.name ≠ command) :
    Fault d command a (.commandNotFound d.name command)
  /-- a name is that of no resource -/
  | missing {earlier later : List String} {name : String}
    (names : Named d.profile a command (earlier ++ name :: later))
    (offered : ∀ n ∈ earlier, ∃ r, Offered d.profile a n r)
    (absent : ∀ r ∈ d.profile.resources, r.name ≠ name) :
    Fault d command a (.commandNotFound d.name command)
  /-- the mode of the resource of a name forbids the access -/
  | forbidden {earlier later : List String} {name : String} {r : Resource}
    (names : Named d.profile a command (earlier ++ name :: later))
    (offered : ∀ n ∈ earlier, ∃ r, Offered d.profile a n r)
    (first : IsFirst (·.name = name) d.profile.resources r) (forbidden : ¬ a.Permitted r.mode) :
    Fault d command a (a.denied name)
  /-- there are no names -/
  | empty (names : Named d.profile a command []) : Fault d command a (a.denied command)

/-- A command is unresolvable exactly for the first fault in what it names. -/
theorem unresolvable_iff_fault : Unresolvable d command a e ↔ Fault d command a e := by
  constructor
  · intro h
    cases h with
    | unknown absent =>
      obtain ⟨huncommanded, habsent⟩ := namesOf?_eq_none_iff.mp absent
      exact .unknown huncommanded habsent
    | denied names granted denies =>
      simp only [grants_iff_offered] at granted
      cases denies with
      | unknown absent =>
        exact .missing (namesOf?_eq_some_iff.mp names) granted (resource?_eq_none_iff.mp absent)
      | denied found disallowed =>
        refine .forbidden (namesOf?_eq_some_iff.mp names) granted
          (resource?_eq_some_iff.mp found) ?_
        rw [← Access.allowed_iff]
        exact Bool.eq_false_iff.mp disallowed
    | empty names => exact .empty (namesOf?_eq_some_iff.mp names)
  · intro h
    cases h with
    | unknown uncommanded absent => exact .unknown (namesOf?_eq_none_iff.mpr ⟨uncommanded, absent⟩)
    | missing names offered absent =>
      simp only [← grants_iff_offered] at offered
      exact .denied (namesOf?_eq_some_iff.mpr names) offered
        (.unknown (resource?_eq_none_iff.mpr absent))
    | forbidden names offered first forbidden =>
      simp only [← grants_iff_offered] at offered
      rw [← Access.allowed_iff] at forbidden
      exact .denied (namesOf?_eq_some_iff.mpr names) offered
        (.denied (resource?_eq_some_iff.mpr first) (Bool.eq_false_iff.mpr forbidden))
    | empty names => exact .empty (namesOf?_eq_some_iff.mpr names)

/-- **What a command resolves to.** It resolves if it has names, at least one, and the first
resource of every name permits the access; then it resolves to these resources, in the order of the
names. Otherwise the first name that is not to be had decides why not. -/
theorem resolve_findsEach (d : Device) (command : String) (a : Access) :
    ((∃ rs, resolve d command a = .ok rs) ↔
        ∃ names, Named d.profile a command names ∧ names ≠ [] ∧
          ∀ n ∈ names, ∃ r, Offered d.profile a n r) ∧
      (∀ rs names, resolve d command a = .ok rs → Named d.profile a command names →
        List.Forall₂ (Offered d.profile a) names rs) ∧
      ∀ e, resolve d command a = .error e ↔ Fault d command a e := by
  have hoffered : Grants d.profile a = Offered d.profile a := by
    funext n r
    exact propext grants_iff_offered
  refine ⟨⟨?_, ?_⟩, fun rs names h hnames => ?_, fun e => ?_⟩
  · rintro ⟨rs, h⟩
    obtain ⟨⟨names, hnames, hgranted⟩, hnonempty⟩ := resolve_eq_ok_iff.mp h
    rw [hoffered] at hgranted
    refine ⟨names, namesOf?_eq_some_iff.mp hnames, ?_, fun n hn => ?_⟩
    · rintro rfl
      exact hnonempty (List.forall₂_nil_left_iff.mp hgranted)
    · obtain ⟨r, -, hr⟩ := exists_mem_of_forall₂ hgranted.flip hn
      exact ⟨r, hr⟩
  · rintro ⟨names, hnames, hnonempty, hall⟩
    obtain ⟨rs, hrs⟩ := exists_forall₂ hall
    refine ⟨rs, resolve_eq_ok_iff.mpr ⟨⟨names, namesOf?_eq_some_iff.mpr hnames, ?_⟩, ?_⟩⟩
    · rw [hoffered]
      exact hrs
    · rintro rfl
      exact hnonempty (List.forall₂_nil_right_iff.mp hrs)
  · obtain ⟨⟨names', hnames', hgranted⟩, -⟩ := resolve_eq_ok_iff.mp h
    -- a command has one list of names
    obtain rfl : names' = names :=
      Option.some.inj (hnames'.symm.trans (namesOf?_eq_some_iff.mpr hnames))
    rw [hoffered] at hgranted
    exact hgranted
  · rw [resolve_eq_error_iff, unresolvable_iff_fault]

end Command

end DeviceHost
