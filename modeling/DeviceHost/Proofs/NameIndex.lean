import DeviceHost.Proofs.Store

/-!
# Where names lead

A store keeps an index of names beside its devices, and nothing makes sure that two devices have
different names. So where a name leads depends on the whole history of the store: names are taken
over by later insertions, given up by renames and removals, and never handed back.

* `Action`, `after`, `history` — what is done to a store, the store it leads to, and the insertions
  and removals since it was last cleared, latest first;
* `holder?` — where a name leads, worked out from the history alone: the device of the latest
  insertion under the name, as long as nothing has happened to its identifier since;
* `Tracks`, `tracks_after` — the invariant that ties both tables of the store to the history: the
  index of names is exactly `holder?`;
* `find?_iff_holds` — the same, said of the latest insertion under a name (`Holds`) and not by
  recursion.

A name of a stored device leads to a stored device of that name, unless the name was last taken by
another device, which has since gone or changed its name: then it leads nowhere
(`find?_of_mem_list`).
-/

namespace DeviceHost

namespace Store

/-! ## Histories -/

/-- Something that is done to a store. -/
inductive Action
  /-- put a device in -/
  | put (d : Device)
  /-- take a device out -/
  | remove (id : String)
  /-- replace everything by the given devices -/
  | load (ds : List Device)
  /-- take everything out -/
  | clear

/-- The store after an action. -/
def Action.apply : Action → Store → Store
  | put d, s => (s.put d).2
  | remove id, s => (s.remove id).2
  | load ds, _ => ofList ds
  | clear, _ => empty

/-- The store that actions lead to, from the store without devices. -/
def after (acts : List Action) : Store :=
  acts.foldl (fun s a => a.apply s) empty

/-- A single insertion or removal. -/
inductive Entry
  /-- a device was put in -/
  | inserted (d : Device)
  /-- an identifier was taken out, if it was there -/
  | removed (id : String)

/-- The identifier that an entry is about. -/
def Entry.id : Entry → String
  | inserted d => d.id
  | removed i => i

/-- Whether an entry is an insertion under a name. -/
def Entry.Carries (n : String) : Entry → Prop
  | inserted d => d.name = n
  | removed _ => False

/-- What an action adds to the entries since the store was last cleared, latest first. -/
def Action.record : List Entry → Action → List Entry
  | h, put d => .inserted d :: h
  | h, remove id => .removed id :: h
  | _, load ds => (ds.map Entry.inserted).reverse
  | _, clear => []

/-- The entries since the store was last cleared, latest first. -/
def history (acts : List Action) : List Entry :=
  acts.foldl Action.record []

/-- The record of an identifier, from the history alone: that of the latest entry about it. -/
def latest? (i : String) : List Entry → Option Device
  | [] => none
  | .inserted d :: h => if d.id = i then some d else latest? i h
  | .removed j :: h => if j = i then none else latest? i h

/-- Where a name leads, from the history alone: to the device of the latest insertion under it,
unless there is a later entry about the identifier of that device. -/
def holder? (n : String) : List Entry → Option Device
  | [] => none
  | .inserted d :: h => if d.name = n then some d else (holder? n h).filter fun e => e.id != d.id
  | .removed i :: h => (holder? n h).filter fun e => e.id != i

/-! ### The holder of a name is stored under that name -/

/-- The holder of a name bears that name, and is the latest record of its identifier. -/
theorem holder?_spec {n : String} {h : List Entry} {d : Device} (hd : holder? n h = some d) :
    d.name = n ∧ latest? d.id h = some d := by
  induction h with
  | nil => cases hd
  | cons c h ih =>
    cases c with
    | inserted e =>
      rw [holder?] at hd
      split at hd
      · obtain rfl := Option.some.inj hd
        exact ⟨by assumption, by simp [latest?]⟩
      · obtain ⟨hd, hne⟩ := Option.filter_eq_some_iff.mp hd
        obtain ⟨hname, hlatest⟩ := ih hd
        have hne : ¬ e.id = d.id := fun he => by simp [he] at hne
        exact ⟨hname, by rw [latest?, if_neg hne]; exact hlatest⟩
    | removed i =>
      rw [holder?] at hd
      obtain ⟨hd, hne⟩ := Option.filter_eq_some_iff.mp hd
      obtain ⟨hname, hlatest⟩ := ih hd
      have hne : ¬ i = d.id := fun he => by simp [he] at hne
      exact ⟨hname, by rw [latest?, if_neg hne]; exact hlatest⟩

/-! ## The store and its history

`Tracks h s`: both tables of `s` can be read off the history `h`. Every insertion and every removal
keeps this. The delicate part is the release of a name, which leaves the index alone when the name
leads elsewhere by now. -/

/-- The devices and the names of a store are those of a history. -/
structure Tracks (h : List Entry) (s : Store) : Prop where
  /-- every identifier has its latest record -/
  record : ∀ i, s.get? i = latest? i h
  /-- every name leads to its holder -/
  name : ∀ n, s.names.get? n = (holder? n h).map Device.id

theorem tracks_empty : Tracks [] empty := ⟨fun _ => rfl, fun _ => rfl⟩

/-- A released name leads on only to another identifier, and all other names lead where they led. -/
theorem get?_release (s : Store) (id name n : String) :
    (s.release id name).get? n =
      if name = n then (s.names.get? n).filter fun i => i != id else s.names.get? n := by
  unfold release
  by_cases hn : name = n
  · subst hn
    rcases hi : s.names.get? name with _ | i
    · simp [hi]
    · by_cases he : i = id <;> simp [hi, he, Option.filter_some]
  · split <;> simp [hn]

namespace Tracks

variable {h : List Entry} {s : Store}

/-- An identifier that is not there holds no name. -/
theorem names_of_none (ht : Tracks h s) {i : String} (hi : s.get? i = none) (n : String) :
    s.names.get? n = ((holder? n h).filter fun e => e.id != i).map Device.id := by
  rw [ht.name n]
  rcases hh : holder? n h with _ | e
  · rfl
  · have hne : e.id ≠ i := by
      rintro rfl
      rw [ht.record, (holder?_spec hh).2] at hi
      cases hi
    simp [Option.filter_some, hne]

/-- When a device releases its name, the names that it held lead nowhere and the others stay. -/
theorem names_of_some (ht : Tracks h s) {i : String} {d : Device} (hi : s.get? i = some d)
    (n : String) :
    (s.release i d.name).get? n =
      ((holder? n h).filter fun e => e.id != i).map Device.id := by
  rw [get?_release, ht.name n]
  rcases hh : holder? n h with _ | e
  · simp
  · obtain ⟨hname, hlatest⟩ := holder?_spec hh
    by_cases he : e.id = i
    · -- the holder is the device itself, so its name is the one that is released
      have hed : e = d := by
        rw [ht.record, ← he, hlatest] at hi
        exact Option.some.inj hi
      subst hed
      simp [Option.filter_some, hname, he]
    · by_cases hn : d.name = n <;> simp [Option.filter_some, hn, he]

/-- Before a new name is entered, other names lead to their holders unless these are replaced. -/
theorem namesBefore (ht : Tracks h s) {d : Device} {n : String} (hn : d.name ≠ n) :
    (s.namesBefore d).get? n = ((holder? n h).filter fun e => e.id != d.id).map Device.id := by
  unfold Store.namesBefore
  rcases hp : s.get? d.id with _ | p
  · exact ht.names_of_none hp n
  · have hsome := ht.names_of_some hp n
    by_cases hpn : p.name = d.name
    · rw [get?_release, if_neg (by rwa [hpn])] at hsome
      simpa [hpn] using hsome
    · simpa [hpn] using hsome

/-- An insertion is tracked as the latest entry of the history. -/
theorem insert (ht : Tracks h s) (d : Device) : Tracks (.inserted d :: h) (s.insert d) where
  record i := by rw [get?_insert, latest?, ht.record]
  name n := by
    rw [Store.insert, Table.get?_insert, holder?]
    split
    · rfl
    · exact ht.namesBefore (by assumption)

/-- A removal is tracked as the latest entry of the history. -/
theorem remove (ht : Tracks h s) (i : String) : Tracks (.removed i :: h) (s.remove i).2 where
  record j := by rw [get?_remove, latest?, ht.record]
  name n := by
    rw [Store.remove, holder?]
    rcases hi : s.get? i with _ | d
    · exact ht.names_of_none hi n
    · exact ht.names_of_some hi n

/-- Insertions one after the other are tracked by their entries, the last one in front. -/
theorem foldl_insert (ht : Tracks h s) (ds : List Device) :
    Tracks ((ds.map Entry.inserted).reverse ++ h) (ds.foldl Store.insert s) := by
  induction ds generalizing h s with
  | nil => exact ht
  | cons d ds ih =>
    have := ih (ht.insert d)
    rwa [List.map_cons, List.reverse_cons, List.append_assoc]

/-- One action keeps the store and its history together. -/
theorem apply (ht : Tracks h s) (a : Action) : Tracks (Action.record h a) (a.apply s) := by
  cases a with
  | put d => exact ht.insert d
  | remove id => exact ht.remove id
  | load ds =>
    have := tracks_empty.foldl_insert ds
    rwa [List.append_nil] at this
  | clear => exact tracks_empty

/-- A store that has done actions is tracked by the history that they record. -/
theorem foldl_apply (ht : Tracks h s) (acts : List Action) :
    Tracks (acts.foldl Action.record h) (acts.foldl (fun s a => a.apply s) s) := by
  induction acts generalizing h s with
  | nil => exact ht
  | cons a acts ih => exact ih (ht.apply a)

/-- A name leads to its holder, with the record that is stored. -/
theorem find? (ht : Tracks h s) (n : String) : s.find? n = holder? n h := by
  rw [Store.find?, ht.name n]
  rcases hh : holder? n h with _ | d
  · rfl
  · exact (ht.record d.id).trans (holder?_spec hh).2

end Tracks

/-- Every store that actions lead to is that of their history. -/
theorem tracks_after (acts : List Action) : Tracks (history acts) (after acts) :=
  tracks_empty.foldl_apply acts

/-! ## The latest insertion under a name

The recursion of `holder?` and `latest?` looks at the entries one by one. Split at the latest
insertion under a name, a history says at once who holds the name. -/

/-- The latest record of an identifier was inserted at some time. -/
theorem mem_of_latest? {i : String} {h : List Entry} {d : Device} (hd : latest? i h = some d) :
    .inserted d ∈ h ∧ d.id = i := by
  induction h with
  | nil => cases hd
  | cons c h ih =>
    cases c with
    | inserted e =>
      rw [latest?] at hd
      split at hd
      · obtain rfl := Option.some.inj hd
        exact ⟨List.mem_cons_self .., by assumption⟩
      · exact ⟨List.mem_cons_of_mem _ (ih hd).1, (ih hd).2⟩
    | removed j =>
      rw [latest?] at hd
      split at hd
      · cases hd
      · exact ⟨List.mem_cons_of_mem _ (ih hd).1, (ih hd).2⟩

/-- If the later part of a history tells of an identifier, the earlier one does not matter for
it. -/
theorem latest?_append {i : String} {later : List Entry} (hi : ∃ c ∈ later, c.id = i)
    (earlier : List Entry) : latest? i (later ++ earlier) = latest? i later := by
  induction later with
  | nil =>
    obtain ⟨c, hc, -⟩ := hi
    cases hc
  | cons c later ih =>
    obtain ⟨b, hb, hbi⟩ := hi
    have htail : ¬ c.id = i → ∃ b ∈ later, b.id = i := by
      intro hne
      rcases List.mem_cons.mp hb with rfl | hb
      · exact absurd hbi hne
      · exact ⟨b, hb, hbi⟩
    cases c with
    | inserted d =>
      simp only [List.cons_append, latest?]
      split
      · rfl
      · exact ih (htail (by assumption))
    | removed j =>
      simp only [List.cons_append, latest?]
      split
      · rfl
      · exact ih (htail (by assumption))

/-- If `e` was the latest device put in under a name, the name leads to it as long as nothing has
happened to its identifier since. -/
theorem holder?_append {later : List Entry} {e : Device} (hl : ∀ c ∈ later, ¬ c.Carries e.name)
    (earlier : List Entry) :
    holder? e.name (later ++ .inserted e :: earlier) =
      if ∃ c ∈ later, c.id = e.id then none else some e := by
  induction later with
  | nil => simp [holder?]
  | cons c later ih =>
    have ih := ih fun b hb => hl b (List.mem_cons_of_mem _ hb)
    have hc := hl c (List.mem_cons_self ..)
    -- the latest entry only filters what the others leave
    have hfilter : holder? e.name (c :: later ++ .inserted e :: earlier) =
        (holder? e.name (later ++ .inserted e :: earlier)).filter fun d => d.id != c.id := by
      cases c with
      | inserted d => exact if_neg hc
      | removed i => rfl
    rw [hfilter, ih]
    by_cases hb : ∃ b ∈ later, b.id = e.id
    · simp [hb]
    · rw [if_neg hb, Option.filter_some]
      by_cases hce : c.id = e.id
      · simp [hce]
      · simp [hb, hce, Ne.symm hce]

/-- A history with an insertion under a name has a latest one. -/
theorem exists_latest_carrier {n : String} {h : List Entry} (hc : ∃ c ∈ h, c.Carries n) :
    ∃ later e earlier, h = later ++ .inserted e :: earlier ∧ e.name = n ∧
      ∀ c ∈ later, ¬ c.Carries n := by
  induction h with
  | nil =>
    obtain ⟨c, hc, -⟩ := hc
    cases hc
  | cons a h ih =>
    by_cases ha : a.Carries n
    · cases a with
      | inserted e => exact ⟨[], e, h, rfl, ha, fun c hc => absurd hc List.not_mem_nil⟩
      | removed i => exact ha.elim
    · obtain ⟨c, hc, hcn⟩ := hc
      have hch : c ∈ h := by
        rcases List.mem_cons.mp hc with rfl | hc
        · exact absurd hcn ha
        · exact hc
      obtain ⟨later, e, earlier, rfl, hen, hl⟩ := ih ⟨c, hch, hcn⟩
      refine ⟨a :: later, e, earlier, rfl, hen, fun b hb => ?_⟩
      rcases List.mem_cons.mp hb with rfl | hb
      · exact ha
      · exact hl b hb

/-! ## The meaning of the index -/

/-- `d` was the latest device put in under a name, and nothing has been put in or taken out under
its identifier since. -/
def Holds (n : String) (d : Device) (h : List Entry) : Prop :=
  ∃ later earlier, h = later ++ .inserted d :: earlier ∧ d.name = n ∧
    (∀ c ∈ later, ¬ c.Carries n) ∧ ∀ c ∈ later, c.id ≠ d.id

/-- The search through a history finds exactly the device that holds the name. -/
theorem holder?_eq_some_iff {n : String} {h : List Entry} {d : Device} :
    holder? n h = some d ↔ Holds n d h := by
  constructor
  · intro hd
    obtain ⟨hname, hlatest⟩ := holder?_spec hd
    obtain ⟨later, e, earlier, rfl, rfl, hl⟩ :=
      exists_latest_carrier ⟨_, (mem_of_latest? hlatest).1, hname⟩
    rw [holder?_append hl] at hd
    split at hd
    · cases hd
    · rename_i hkept
      obtain rfl := Option.some.inj hd
      exact ⟨later, earlier, rfl, rfl, hl, fun c hc hid => hkept ⟨c, hc, hid⟩⟩
  · rintro ⟨later, earlier, rfl, rfl, hl, hkept⟩
    rw [holder?_append hl, if_neg]
    rintro ⟨c, hc, hid⟩
    exact hkept c hc hid

/-- **What the index of names means**: a name leads to the device of the latest insertion under it,
if there is one and its identifier was left alone since, and otherwise nowhere. What it leads to has
that name, and is the record that is stored. -/
theorem find?_iff_holds (acts : List Action) (n : String) :
    (∀ d, (after acts).find? n = some d ↔ Holds n d (history acts)) ∧
      ((¬ ∃ d, Holds n d (history acts)) → (after acts).find? n = none) ∧
      ∀ d, (after acts).find? n = some d → d.name = n ∧ (after acts).get? d.id = some d := by
  have ht := tracks_after acts
  have hholds : ∀ d, (after acts).find? n = some d ↔ Holds n d (history acts) := by
    intro d
    rw [ht.find?, holder?_eq_some_iff]
  refine ⟨hholds, fun hno => ?_, fun d hd => ?_⟩
  · refine Option.eq_none_iff_forall_ne_some.mpr fun d hd => ?_
    exact hno ⟨d, (hholds d).mp hd⟩
  · rw [ht.find?] at hd
    obtain ⟨hname, hlatest⟩ := holder?_spec hd
    exact ⟨hname, (ht.record d.id).trans hlatest⟩

/-- A name that was given up in a load of several records of one identifier is free again. -/
example :
    let acts : List Action := [.load [.ofName "1" "fan" "s", .ofName "1" "pump" "s"]]
    (after acts).find? "fan" = none ∧
      (after acts).find? "pump" = some (.ofName "1" "pump" "s") := by
  decide

/-! ## Names of stored devices -/

/-- The name of `d` was last taken by another device, which has since been taken out or put in
again under another name. -/
def Overtaken (d : Device) (h : List Entry) : Prop :=
  ∃ later e earlier, h = later ++ .inserted e :: earlier ∧ e.name = d.name ∧ e.id ≠ d.id ∧
    (∀ c ∈ later, ¬ c.Carries d.name) ∧ ∃ c ∈ later, c.id = e.id

/-- The name of a device that is there leads nowhere exactly if the device is overtaken. -/
theorem holder?_name_eq_none_iff {h : List Entry} {i : String} {d : Device}
    (hd : latest? i h = some d) : holder? d.name h = none ↔ Overtaken d h := by
  obtain ⟨hmem, hid⟩ := mem_of_latest? hd
  obtain ⟨later, e, earlier, rfl, hname, hl⟩ := exists_latest_carrier ⟨_, hmem, rfl⟩
  constructor
  · intro hnone
    rw [← hname, holder?_append (by rwa [hname])] at hnone
    have hgone : ∃ c ∈ later, c.id = e.id := by
      split at hnone
      · assumption
      · cases hnone
    refine ⟨later, e, earlier, rfl, hname, fun he => ?_, hl, hgone⟩
    -- the latest record of the identifier would be among the entries that do not carry the name
    rw [latest?_append (by rwa [he, hid] at hgone)] at hd
    exact hl _ (mem_of_latest? hd).1 rfl
  · rintro ⟨later', e', earlier', hsplit, hname', -, hl', hgone⟩
    rw [hsplit, ← hname', holder?_append (by rwa [hname']), if_pos hgone]

/-- **Where the name of a stored device leads**: to a stored device of that name, unless the device
was overtaken, and then nowhere. -/
theorem find?_name_of_mem_list {acts : List Action} {d : Device} (hd : d ∈ (after acts).list) :
    ((∃ e ∈ (after acts).list, (after acts).find? d.name = some e ∧ e.name = d.name) ↔
        ¬ Overtaken d (history acts)) ∧
      ((after acts).find? d.name = none ↔ Overtaken d (history acts)) := by
  have ht := tracks_after acts
  obtain ⟨i, hi⟩ := mem_list.mp hd
  rw [ht.record] at hi
  have hnone := holder?_name_eq_none_iff hi
  rw [ht.find?]
  refine ⟨?_, hnone⟩
  rw [← hnone]
  constructor
  · rintro ⟨e, -, he, -⟩ hn
    rw [hn] at he
    cases he
  · intro hne
    obtain ⟨e, he⟩ := Option.ne_none_iff_exists'.mp hne
    obtain ⟨hname, hlatest⟩ := holder?_spec he
    exact ⟨e, mem_list.mpr ⟨e.id, (ht.record e.id).trans hlatest⟩, he, hname⟩

/-- Device `1` is renamed to the name of device `2`, which takes the name back and then goes: the
name is lost, and device `1` is only found by its identifier. -/
theorem find?_name_of_overtaken :
    let pump := Device.ofName "1" "pump" "s"
    let acts : List Action :=
      [.load [.ofName "1" "fan" "s", .ofName "2" "pump" "s"], .put pump,
        .put (.ofName "2" "pump" "s"), .remove "2"]
    pump ∈ (after acts).list ∧
      (((∃ e ∈ (after acts).list, (after acts).find? pump.name = some e ∧ e.name = pump.name) ↔
          ¬ Overtaken pump (history acts)) ∧
        ((after acts).find? pump.name = none ↔ Overtaken pump (history acts))) := by
  intro pump acts
  have hmem : pump ∈ (after acts).list := mem_list.mpr ⟨"1", by decide⟩
  exact ⟨hmem, find?_name_of_mem_list hmem⟩

/-- Names are not always found again: two devices share a name, and the one that took it last
goes. -/
theorem not_forall_find?_name :
    ¬ ∀ (acts : List Action) (d : Device), d ∈ (after acts).list →
      ∃ e ∈ (after acts).list, (after acts).find? d.name = some e ∧ e.name = d.name := by
  intro h
  let acts : List Action :=
    [.put (.ofName "1" "pump" "s"), .put (.ofName "2" "pump" "s"), .remove "2"]
  have hmem : Device.ofName "1" "pump" "s" ∈ (after acts).list := mem_list.mpr ⟨"1", by decide⟩
  obtain ⟨e, -, hfind, -⟩ := h acts _ hmem
  have hnone : (after acts).find? "pump" = none := by decide
  rw [show (Device.ofName "1" "pump" "s").name = "pump" from rfl, hnone] at hfind
  cases hfind

end Store

end DeviceHost
