import DeviceHost.Proofs.DocumentOrder

/-!
# The order of the members of a record

The fields of a record are told apart by their names. So its members may stand in any order, and
members with other names may stand between them; but no field may be given twice, not even under its
two names.

* `Schema.Rearranged` — a document of the same record: the members of its object in another order,
  other members added, and the values of the fields rearranged in turn;
* `Schema.Repetitive` — a document in which a field is given twice, in the object of the record or
  in the value of one of its fields;
* `Indifferent`, `Refuses` — what a reader makes of them. There is one lemma for each kind of
  reader, so that a statement about a record follows from those about the values of its fields;
* `Device.decode_indifferent` — what becomes of the documents of devices, in which records are
  nested three deep.
-/

namespace DeviceHost

open Json

variable {α β : Type}

/-! ### Readers -/

/-- A reader makes no difference between what it can read and a rearrangement of it. -/
def Indifferent (read : Node → Except Problem β) (R : Node → Node → Prop) : Prop :=
  ∀ n n' b, R n n' → read n = .ok b → read n' = .ok b

/-- A reader makes nothing of a kind of value. -/
def Refuses (read : Node → Except Problem β) (P : Node → Prop) : Prop :=
  ∀ n b, P n → read n ≠ .ok b

theorem Indifferent.eq (read : Node → Except Problem β) : Indifferent read Eq := by
  rintro n _ b rfl h
  exact h

theorem Refuses.none (read : Node → Except Problem β) : Refuses read fun _ => False :=
  fun _ _ h => h.elim

/-- An array whose items are rearranged, each in its place. -/
inductive ItemsRearranged (R : Node → Node → Prop) : Node → Node → Prop
  | array {items items' : List Node} (rearranged : List.Forall₂ R items items') :
    ItemsRearranged R (.array items) (.array items')
  | same (n : Node) : ItemsRearranged R n n

/-- An array with an item of a kind. -/
inductive SomeItem (P : Node → Prop) : Node → Prop
  | array {items : List Node} {n : Node} (mem : n ∈ items) (holds : P n) :
    SomeItem P (.array items)

theorem readItems_cons {item : Node → Except Problem β} {n : Node} {ns : List Node} {bs : List β}
    (h : readItems item (n :: ns) = .ok bs) :
    ∃ b bs', item n = .ok b ∧ readItems item ns = .ok bs' ∧ bs = b :: bs' := by
  rw [readItems] at h
  rcases hn : item n with e | b
  · rw [hn] at h
    cases h
  · rcases hns : readItems item ns with e | bs'
    · rw [hn, hns] at h
      cases h
    · rw [hn, hns] at h
      exact ⟨b, bs', rfl, rfl, (Except.ok.inj h).symm⟩

/-- A list is read alike if its items are rearranged and each of them is read alike. -/
theorem Indifferent.list {item : Node → Except Problem β} {R : Node → Node → Prop}
    (hitem : Indifferent item R) : Indifferent (readList item) (ItemsRearranged R) := by
  intro n n' bs hn hread
  cases hn with
  | same => exact hread
  | array rearranged =>
    change readItems item _ = _ at hread
    change readItems item _ = _
    induction rearranged generalizing bs with
    | nil => exact hread
    | cons hR _ ih =>
      obtain ⟨b, bs', hfirst, hrest, rfl⟩ := readItems_cons hread
      simp only [readItems, hitem _ _ _ hR hfirst, ih _ hrest]
      rfl

/-- A list is refused if one of its items is. -/
theorem Refuses.list {item : Node → Except Problem β} {P : Node → Prop}
    (hitem : Refuses item P) : Refuses (readList item) (SomeItem P) := by
  rintro _ bs ⟨hmem, hP⟩ hread
  rename_i items n
  change readItems item _ = _ at hread
  induction items generalizing bs with
  | nil => cases hmem
  | cons i items ih =>
    obtain ⟨b, bs', hfirst, hrest, rfl⟩ := readItems_cons hread
    rcases List.mem_cons.mp hmem with rfl | hmem
    · exact hitem _ _ hP hfirst
    · exact ih _ hmem hrest

/-! ### Records -/

namespace Schema

variable {s : Schema α}

/-- A name by which a field is given. -/
def Means (s : Schema α) (f : s.Field) (k : String) : Prop :=
  s.name f = k ∨ s.otherName? f = some k

/-- A member that gives no field. -/
def IsForeign (s : Schema α) (m : Option String × Node) : Prop :=
  ∃ k, m.1 = some k ∧ ∀ f, ¬ s.Means f k

/-- A member that gives the same as another one: under the same name, the value of a field is
rearranged in the way of this field, and any other value is the same. -/
structure Counterpart (s : Schema α) (R : s.Field → Node → Node → Prop)
    (m m' : Option String × Node) : Prop where
  /-- the names are the same -/
  name_eq : m'.1 = m.1
  /-- the value of a field is rearranged -/
  value : ∀ k f, m.1 = some k → s.Means f k → R f m.2 m'.2
  /-- any other value is the same -/
  value_eq : s.IsForeign m → m'.2 = m.2

/-- Items in the places of fields, each rearranged in the way of its field. -/
inductive InPlace (s : Schema α) (R : s.Field → Node → Node → Prop) :
    List s.Field → List Node → List Node → Prop
  | nil (fs : List s.Field) : InPlace s R fs [] []
  | cons {f : s.Field} {fs : List s.Field} {n n' : Node} {ns ns' : List Node}
    (first : R f n n') (rest : InPlace s R fs ns ns') : InPlace s R (f :: fs) (n :: ns) (n' :: ns')

/-- A document of the same record. -/
inductive Rearranged (s : Schema α) (R : s.Field → Node → Node → Prop) : Node → Node → Prop
  /-- its members are those of the other one and foreign ones, in any order -/
  | object {ms kept added ms' : List (Option String × Node)}
    (counterparts : List.Forall₂ (s.Counterpart R) ms kept) (foreign : ∀ m ∈ added, s.IsForeign m)
    (perm : ms'.Perm (kept ++ added)) : Rearranged s R (.object ms) (.object ms')
  /-- it gives the fields by their places -/
  | array {items items' : List Node} (inPlace : s.InPlace R s.fields items items') :
    Rearranged s R (.array items) (.array items')
  | same (n : Node) : Rearranged s R n n

/-- A document in which a field is given twice. -/
inductive Repetitive (s : Schema α) (P : s.Field → Node → Prop) : Node → Prop
  /-- two members give one field -/
  | twice {ms : List (Option String × Node)} {m m' : Option String × Node} {f : s.Field}
    {k k' : String} (both : [m, m'].Sublist ms) (name_eq : m.1 = some k) (name_eq' : m'.1 = some k')
    (means : s.Means f k) (means' : s.Means f k') : Repetitive s P (.object ms)
  /-- it is so in the value of a field -/
  | member {ms : List (Option String × Node)} {m : Option String × Node} {f : s.Field} {k : String}
    (mem : m ∈ ms) (name_eq : m.1 = some k) (means : s.Means f k) (holds : P f m.2) :
    Repetitive s P (.object ms)
  /-- it is so in the value in the place of a field -/
  | item {items : List Node} {f : s.Field} {n : Node} (mem : (f, n) ∈ s.fields.zip items)
    (holds : P f n) : Repetitive s P (.array items)

/-- A name that gives a field gives only this one. -/
structure Unambiguous (s : Schema α) : Prop extends s.Distinct where
  /-- the second names of the fields stand for them, too -/
  field?_otherName : ∀ f k, s.otherName? f = some k → s.field? k = some f

/-- Distinct names are unambiguous where no field has another name. -/
theorem Distinct.unambiguous (hs : s.Distinct) (h : ∀ f, s.otherName? f = none) :
    s.Unambiguous := by
  refine ⟨hs, fun f k hk => ?_⟩
  rw [h f] at hk
  cases hk

/-- A field is found under each of its names. -/
theorem Unambiguous.field?_eq (hs : s.Unambiguous) {f : s.Field} {k : String}
    (h : s.Means f k) : s.field? k = some f := by
  rcases h with rfl | h
  · exact hs.field?_name f
  · exact hs.field?_otherName f k h

/-- A key leads only to a field that it means. -/
theorem means_of_field? {f : s.Field} {k : String} (h : s.field? k = some f) : s.Means f k := by
  have hfound := List.find?_some h
  simpa [Means] using hfound

/-- A key is foreign exactly if it means no field. -/
theorem field?_eq_none_iff {k : String} : s.field? k = none ↔ ∀ f, ¬ s.Means f k := by
  rw [field?, List.find?_eq_none]
  refine ⟨fun h f => ?_, fun h f _ => ?_⟩
  · simpa [Means] using h f (s.mem_fields f)
  · simpa [Means] using h f

/-- A member that gives a field is rearranged by rearranging its value. -/
theorem Unambiguous.counterpart (hs : s.Unambiguous) {R : s.Field → Node → Node → Prop}
    {f : s.Field} {k : String} (hf : s.Means f k) {n n' : Node} (h : R f n n') :
    s.Counterpart R (some k, n) (some k, n') := by
  refine ⟨rfl, fun k' g hk hg => ?_, fun hforeign => ?_⟩
  · obtain rfl : k = k' := Option.some.inj hk
    obtain rfl : f = g := Option.some.inj ((hs.field?_eq hf).symm.trans (hs.field?_eq hg))
    exact h
  · obtain ⟨k', hk, hforeign⟩ := hforeign
    obtain rfl : k = k' := Option.some.inj hk
    exact absurd hf (hforeign f)

/-- One of the other orders is the reverse one. -/
theorem Rearranged.reversed {R : s.Field → Node → Node → Prop} {ms : List (Option String × Node)}
    (kept added : List (Option String × Node))
    (counterparts : List.Forall₂ (s.Counterpart R) ms kept)
    (foreign : ∀ m ∈ added, s.IsForeign m) :
    s.Rearranged R (.object ms) (.object (kept ++ added).reverse) :=
  .object counterparts foreign (List.reverse_perm _)

/-! ### Members -/

/-- Two fields may be filled in either order. -/
theorem Draft.set_comm (d : s.Draft) {f g : s.Field} (h : f ≠ g) (c : s.Content f)
    (c' : s.Content g) : (d.set f c).set g c' = (d.set g c').set f c := by
  funext x
  by_cases hg : g = x
  · subst hg
    rw [Draft.set_self, Draft.set_of_ne _ h, Draft.set_self]
  · by_cases hf : f = x
    · subst hf
      rw [Draft.set_of_ne _ hg, Draft.set_self, Draft.set_self]
    · rw [Draft.set_of_ne _ hg, Draft.set_of_ne _ hf, Draft.set_of_ne _ hf, Draft.set_of_ne _ hg]

/-- What a member that is taken does: it gives no field, or one that was not given before. -/
theorem takeMember_iff {d d' : s.Draft} {m : Option String × Node} :
    s.takeMember d m = .ok d' ↔ ∃ k, m.1 = some k ∧
      ((s.field? k = none ∧ d' = d) ∨
        ∃ f c, s.field? k = some f ∧ d f = none ∧ s.readField f m.2 = .ok c ∧ d' = d.set f c) := by
  obtain ⟨k, n⟩ := m
  constructor
  · intro h
    rcases k with _ | k
    · cases h
    exact ⟨k, rfl, takeMember_eq_ok h⟩
  · rintro ⟨k, rfl, ⟨hf, rfl⟩ | ⟨f, c, hf, hfree, hread, rfl⟩⟩
    · simp only [takeMember, hf]
    · simp only [takeMember, hf, hfree, hread]
      rfl

theorem takeMembers_cons_iff {d d' : s.Draft} {m : Option String × Node}
    {ms : List (Option String × Node)} :
    s.takeMembers d (m :: ms) = .ok d' ↔
      ∃ d₁, s.takeMember d m = .ok d₁ ∧ s.takeMembers d₁ ms = .ok d' := by
  refine ⟨takeMembers_cons, ?_⟩
  rintro ⟨d₁, hm, hms⟩
  rw [takeMembers, hm]
  exact hms

/-- Two members may change places. -/
theorem takeMember_comm {d d₁ d₂ : s.Draft} {m m' : Option String × Node}
    (h : s.takeMember d m = .ok d₁) (h' : s.takeMember d₁ m' = .ok d₂) :
    ∃ d₁', s.takeMember d m' = .ok d₁' ∧ s.takeMember d₁' m = .ok d₂ := by
  simp only [takeMember_iff] at h h' ⊢
  obtain ⟨k, hk, ⟨hf, rfl⟩ | ⟨f, c, hf, hfree, hread, rfl⟩⟩ := h
  · exact ⟨d₂, h', k, hk, .inl ⟨hf, rfl⟩⟩
  obtain ⟨k', hk', ⟨hg, rfl⟩ | ⟨g, c', hg, hfree', hread', rfl⟩⟩ := h'
  · exact ⟨d, ⟨k', hk', .inl ⟨hg, rfl⟩⟩, k, hk, .inr ⟨f, c, hf, hfree, hread, rfl⟩⟩
  · -- the second field was free behind the first one, so they are not the same
    have hne : f ≠ g := by
      rintro rfl
      rw [Draft.set_self] at hfree'
      cases hfree'
    rw [Draft.set_of_ne _ hne] at hfree'
    refine ⟨d.set g c', ⟨k', hk', .inr ⟨g, c', hg, hfree', hread', rfl⟩⟩, k, hk,
      .inr ⟨f, c, hf, ?_, hread, Draft.set_comm d hne c c'⟩⟩
    rw [Draft.set_of_ne _ hne.symm, hfree]

/-- Members may stand in any order. -/
theorem takeMembers_perm {ms ms' : List (Option String × Node)} (h : ms.Perm ms')
    {d d' : s.Draft} (hms : s.takeMembers d ms = .ok d') : s.takeMembers d ms' = .ok d' := by
  induction h generalizing d with
  | nil => exact hms
  | cons m _ ih =>
    obtain ⟨d₁, hm, hrest⟩ := takeMembers_cons_iff.mp hms
    exact takeMembers_cons_iff.mpr ⟨d₁, hm, ih hrest⟩
  | swap m m' ms =>
    obtain ⟨d₁, hm', hrest⟩ := takeMembers_cons_iff.mp hms
    obtain ⟨d₂, hm, hrest⟩ := takeMembers_cons_iff.mp hrest
    obtain ⟨d₁', hm, hm'⟩ := takeMember_comm hm' hm
    exact takeMembers_cons_iff.mpr ⟨d₁', hm, takeMembers_cons_iff.mpr ⟨d₂, hm', hrest⟩⟩
  | trans _ _ ih ih' => exact ih' (ih hms)

/-- Foreign members are passed over. -/
theorem takeMembers_foreign {added : List (Option String × Node)}
    (h : ∀ m ∈ added, s.IsForeign m) (d : s.Draft) : s.takeMembers d added = .ok d := by
  induction added with
  | nil => rfl
  | cons m added ih =>
    obtain ⟨⟨k, hk, hforeign⟩, hadded⟩ := List.forall_mem_cons.mp h
    have hm : s.takeMember d m = .ok d :=
      takeMember_iff.mpr ⟨k, hk, .inl ⟨field?_eq_none_iff.mpr hforeign, rfl⟩⟩
    exact takeMembers_cons_iff.mpr ⟨d, hm, ih hadded⟩

section Rearranged

variable {R : s.Field → Node → Node → Prop} (hR : ∀ f, Indifferent (s.readField f) (R f))

include hR

/-- A member fills its field alike in another spelling of its key and its value. -/
theorem takeMember_counterpart {m m' : Option String × Node} (h : s.Counterpart R m m')
    {d d' : s.Draft} (hm : s.takeMember d m = .ok d') : s.takeMember d m' = .ok d' := by
  rw [takeMember_iff] at hm ⊢
  obtain ⟨k, hk, htaken⟩ := hm
  refine ⟨k, h.name_eq.trans hk, ?_⟩
  rcases htaken with hskipped | ⟨f, c, hf, hfree, hread, rfl⟩
  · exact .inl hskipped
  · exact .inr ⟨f, c, hf, hfree, hR f _ _ _ (h.value k f hk (means_of_field? hf)) hread, rfl⟩

/-- The members of a rearranged object fill in the same fields. -/
theorem takeMembers_rearranged {ms kept added ms' : List (Option String × Node)}
    (hkept : List.Forall₂ (s.Counterpart R) ms kept) (hadded : ∀ m ∈ added, s.IsForeign m)
    (hperm : ms'.Perm (kept ++ added)) {d d' : s.Draft} (hms : s.takeMembers d ms = .ok d') :
    s.takeMembers d ms' = .ok d' := by
  refine takeMembers_perm hperm.symm ?_
  clear hperm
  induction hkept generalizing d with
  | nil =>
    obtain rfl := Except.ok.inj hms
    exact takeMembers_foreign hadded d
  | cons hm _ ih =>
    obtain ⟨d₁, hfirst, hrest⟩ := takeMembers_cons_iff.mp hms
    exact takeMembers_cons_iff.mpr ⟨d₁, takeMember_counterpart hR hm hfirst, ih hrest⟩

/-- Items that are rearranged in their places fill the fields alike. -/
theorem takeItems_inPlace {fs : List s.Field} {items items' : List Node}
    (h : s.InPlace R fs items items') {d d' : s.Draft} {n : Nat}
    (hitems : s.takeItems d n fs items = .ok d') : s.takeItems d n fs items' = .ok d' := by
  induction h generalizing d n with
  | nil => exact hitems
  | cons hfirst _ ih =>
    obtain ⟨c, hread, hrest⟩ := takeItems_cons_iff.mp hitems
    exact takeItems_cons_iff.mpr ⟨c, hR _ _ _ _ hfirst hread, ih hrest⟩

/-- A rearranged document gives the same record. -/
theorem indifferent_read : Indifferent s.read (s.Rearranged R) := by
  intro n n' a hn hread
  cases hn with
  | same => exact hread
  | object counterparts foreign perm =>
    obtain ⟨d, htaken, hfinish⟩ := read_object_iff.mp hread
    exact read_object_iff.mpr
      ⟨d, takeMembers_rearranged hR counterparts foreign perm htaken, hfinish⟩
  | array inPlace =>
    obtain ⟨d, htaken, hfinish⟩ := read_array_iff.mp hread
    exact read_array_iff.mpr ⟨d, takeItems_inPlace hR inPlace htaken, hfinish⟩

end Rearranged

/-! ### Repeated fields -/

/-- A member that gives a field was read, and the field was not given before. -/
theorem read_of_takeMembers {ms : List (Option String × Node)} {d d' : s.Draft}
    (hms : s.takeMembers d ms = .ok d') {m : Option String × Node} (hm : m ∈ ms) {k : String}
    {f : s.Field} (hk : m.1 = some k) (hf : s.field? k = some f) :
    d f = none ∧ ∃ c, s.readField f m.2 = .ok c := by
  induction ms generalizing d with
  | nil => cases hm
  | cons m₀ ms ih =>
    obtain ⟨d₁, hfirst, hrest⟩ := takeMembers_cons hms
    rcases List.mem_cons.mp hm with rfl | hm
    · rcases takeMember_eq_ok hfirst with ⟨hnone, -⟩ | ⟨g, c, hg, hfree, hread, -⟩
      · rw [hk] at hnone
        cases hnone.symm.trans hf
      · rw [hk] at hg
        obtain rfl : f = g := Option.some.inj (hf.symm.trans hg)
        exact ⟨hfree, c, hread⟩
    · obtain ⟨hfree₁, hread⟩ := ih hrest hm
      refine ⟨?_, hread⟩
      -- what was filled in before stays filled in
      rcases takeMember_eq_ok hfirst with ⟨-, rfl⟩ | ⟨g, c, -, -, -, rfl⟩
      · exact hfree₁
      · rwa [Draft.set_of_ne] at hfree₁
        rintro rfl
        rw [Draft.set_self] at hfree₁
        cases hfree₁

/-- No two members that are taken give one field. -/
theorem not_twice_of_takeMembers {ms : List (Option String × Node)} {d d' : s.Draft}
    (hms : s.takeMembers d ms = .ok d') {m m' : Option String × Node} {k k' : String} {f : s.Field}
    (hk : m.1 = some k) (hk' : m'.1 = some k') (hf : s.field? k = some f)
    (hf' : s.field? k' = some f) : ¬ [m, m'].Sublist ms := by
  intro hboth
  induction ms generalizing d with
  | nil => cases hboth
  | cons m₀ ms ih =>
    obtain ⟨d₁, hfirst, hrest⟩ := takeMembers_cons hms
    cases hboth with
    | cons _ hlater => exact ih hrest hlater
    | cons_cons _ hsecond =>
      obtain ⟨hfree, -⟩ := read_of_takeMembers hrest (List.singleton_sublist.mp hsecond) hk' hf'
      rcases takeMember_eq_ok hfirst with ⟨hnone, -⟩ | ⟨g, c, hg, -, -, rfl⟩
      · rw [hk] at hnone
        cases hnone.symm.trans hf
      · rw [hk] at hg
        obtain rfl : f = g := Option.some.inj (hf.symm.trans hg)
        rw [Draft.set_self] at hfree
        cases hfree

/-- If all items are taken, each of them was read. -/
theorem read_of_takeItems {fs : List s.Field} {items : List Node} {n : Nat} {d d' : s.Draft}
    (hitems : s.takeItems d n fs items = .ok d') {f : s.Field} {v : Node}
    (hv : (f, v) ∈ fs.zip items) : ∃ c, s.readField f v = .ok c := by
  induction fs generalizing items n d with
  | nil => cases hv
  | cons g fs ih =>
    cases items with
    | nil => cases hv
    | cons w items =>
      obtain ⟨c, hread, hrest⟩ := takeItems_cons_iff.mp hitems
      rcases List.mem_cons.mp hv with hfirst | hlater
      · obtain ⟨rfl, rfl⟩ := Prod.mk.inj hfirst
        exact ⟨c, hread⟩
      · exact ih hrest hlater

/-- A document in which a field is given twice gives no record. -/
theorem refuses_read (hs : s.Unambiguous) {P : s.Field → Node → Prop}
    (hP : ∀ f, Refuses (s.readField f) (P f)) : Refuses s.read (s.Repetitive P) := by
  intro n a hn hread
  cases hn with
  | twice both name_eq name_eq' means means' =>
    obtain ⟨d, htaken, -⟩ := read_object_iff.mp hread
    exact not_twice_of_takeMembers htaken name_eq name_eq' (hs.field?_eq means)
      (hs.field?_eq means') both
  | member mem name_eq means holds =>
    obtain ⟨d, htaken, -⟩ := read_object_iff.mp hread
    obtain ⟨-, c, hc⟩ := read_of_takeMembers htaken mem name_eq (hs.field?_eq means)
    exact hP _ _ c holds hc
  | item mem holds =>
    obtain ⟨d, htaken, -⟩ := read_array_iff.mp hread
    obtain ⟨c, hc⟩ := read_of_takeItems htaken mem
    exact hP _ _ c holds hc

end Schema

/-! ### Devices -/

/-- A document of the same record, of a kind whose fields hold no other records: a resource, a
command, an automatic reading or an owner. -/
abbrev Schema.RearrangedFlat (s : Schema α) : Node → Node → Prop := s.Rearranged fun _ => Eq

/-- A record of such a kind in which a field is given twice. -/
abbrev Schema.RepetitiveFlat (s : Schema α) : Node → Prop := s.Repetitive fun _ _ => False

/-- A record is read alike when its members are rearranged. -/
theorem Schema.indifferent_flat (s : Schema α) : Indifferent s.read s.RearrangedFlat :=
  s.indifferent_read fun f => .eq (s.readField f)

/-- A record is refused when one of its fields is given twice. -/
theorem Schema.refuses_flat {s : Schema α} (hs : s.Unambiguous) :
    Refuses s.read s.RepetitiveFlat :=
  refuses_read hs fun f => .none (s.readField f)

/-- How the value of a field of a profile is rearranged. -/
def Profile.FieldRearranged : ProfileField → Node → Node → Prop
  | .name => Eq
  | .resources => ItemsRearranged Resource.schema.RearrangedFlat
  | .commands => ItemsRearranged ProfileCommand.schema.RearrangedFlat

/-- A document of the same profile. -/
abbrev Profile.Rearranged : Node → Node → Prop := Profile.schema.Rearranged FieldRearranged

/-- Where a record in a field of a profile gives a field twice. -/
def Profile.FieldRepetitive : ProfileField → Node → Prop
  | .name => fun _ => False
  | .resources => SomeItem Resource.schema.RepetitiveFlat
  | .commands => SomeItem ProfileCommand.schema.RepetitiveFlat

/-- A profile in which a field is given twice. -/
abbrev Profile.Repetitive : Node → Prop := Profile.schema.Repetitive FieldRepetitive

/-- How the value of a field of a device is rearranged. The members of the protocols stay as they
are, since their order counts. -/
def Device.FieldRearranged : DeviceField → Node → Node → Prop
  | .service => ownerSchema.RearrangedFlat
  | .profile => Profile.Rearranged
  | .autoEvents => ItemsRearranged AutoEvent.schema.RearrangedFlat
  | _ => Eq

/-- A document of the same device. -/
abbrev Device.Rearranged : Node → Node → Prop := Device.schema.Rearranged FieldRearranged

/-- Where a record in a field of a device gives a field twice. -/
def Device.FieldRepetitive : DeviceField → Node → Prop
  | .service => ownerSchema.RepetitiveFlat
  | .profile => Profile.Repetitive
  | .autoEvents => SomeItem AutoEvent.schema.RepetitiveFlat
  | _ => fun _ => False

/-- A device in which a field is given twice. -/
abbrev Device.Repetitive : Node → Prop := Device.schema.Repetitive FieldRepetitive

theorem Resource.schema_unambiguous : schema.Unambiguous :=
  schema_distinct.unambiguous fun _ => rfl

theorem ProfileCommand.schema_unambiguous : schema.Unambiguous :=
  schema_distinct.unambiguous fun _ => rfl

theorem Profile.schema_unambiguous : schema.Unambiguous :=
  schema_distinct.unambiguous fun _ => rfl

theorem AutoEvent.schema_unambiguous : schema.Unambiguous :=
  schema_distinct.unambiguous fun _ => rfl

theorem ownerSchema_unambiguous : ownerSchema.Unambiguous :=
  ownerSchema_distinct.unambiguous fun _ => rfl

/-- The automatic readings have two names. -/
theorem Device.schema_unambiguous : schema.Unambiguous := by
  refine ⟨schema_distinct, fun f k hk => ?_⟩
  cases f with
  | autoEvents =>
    obtain rfl := Option.some.inj hk
    rfl
  | _ => cases hk

theorem Profile.indifferent_read : Indifferent schema.read Rearranged := by
  refine schema.indifferent_read fun f => ?_
  cases f with
  | name => exact .eq _
  | resources => exact .list Resource.schema.indifferent_flat
  | commands => exact .list ProfileCommand.schema.indifferent_flat

theorem Profile.refuses_read : Refuses schema.read Repetitive := by
  refine Schema.refuses_read schema_unambiguous fun f => ?_
  cases f with
  | name => exact .none _
  | resources => exact .list (Schema.refuses_flat Resource.schema_unambiguous)
  | commands => exact .list (Schema.refuses_flat ProfileCommand.schema_unambiguous)

/-- A device is read alike when it is rearranged at any level. -/
theorem Device.indifferent_read : Indifferent schema.read Rearranged := by
  refine schema.indifferent_read fun f => ?_
  cases f with
  | service => exact ownerSchema.indifferent_flat
  | profile => exact Profile.indifferent_read
  | autoEvents => exact .list AutoEvent.schema.indifferent_flat
  | _ => exact .eq _

/-- A device is refused when a field is given twice at any level. -/
theorem Device.refuses_read : Refuses schema.read Repetitive := by
  refine Schema.refuses_read schema_unambiguous fun f => ?_
  cases f with
  | service => exact Schema.refuses_flat ownerSchema_unambiguous
  | profile => exact Profile.refuses_read
  | autoEvents => exact .list (Schema.refuses_flat AutoEvent.schema_unambiguous)
  | _ => exact .none _

/-- **The order of its members says nothing about a device**, nor do members that are no fields. If
a document is read as a device, so is every document in which the members of the device and of the
records in it stand in another order, among any members that are no fields. A document in which one
of these records gives a field twice is not read. -/
theorem Device.decode_indifferent :
    (∀ body body' n n' d, Node.read? (Utf8.decode body) = some n →
      Node.read? (Utf8.decode body') = some n' → Device.Rearranged n n' →
        Device.decode body = .ok d → Device.decode body' = .ok d) ∧
      ∀ body n, Node.read? (Utf8.decode body) = some n → Device.Repetitive n →
        ∃ e, Device.decode body = .error e := by
  refine ⟨fun body body' n n' d hn hn' hrearranged hd => ?_, fun body n hn hrepetitive => ?_⟩
  · obtain ⟨m, hm, hread⟩ := Schema.decode_eq_ok hd
    obtain rfl : n = m := Option.some.inj (hn.symm.trans hm)
    have hread' := Device.indifferent_read n n' d hrearranged hread
    simp only [Device.decode, Schema.decode, hn', hread']
  · rcases hd : Device.decode body with e | d
    · exact ⟨e, rfl⟩
    · obtain ⟨m, hm, hread⟩ := Schema.decode_eq_ok hd
      obtain rfl : n = m := Option.some.inj (hn.symm.trans hm)
      exact absurd hread (Device.refuses_read n d hrepetitive)

/-- A pump whose profile has a resource. -/
def Device.pumpDocument : Json :=
  .object [("id", .string "1"), ("name", .string "pump"),
    ("profile", .object [("name", .string "m"), ("deviceResources", .array [.object [
      ("name", .string "p"), ("valueType", .string "Bool")]])])]

/-- The members of the pump, of its profile and of the resource in reverse order, with members among
them that are no fields, although one of them has the name of a field of another record. -/
def Device.pumpReversed : Json :=
  .object [("valueType", .array [.null]),
    ("profile", .object [("deviceResources", .array [.object [("id", .object [("name", .null)]),
      ("valueType", .string "Bool"), ("name", .string "p")]]), ("name", .string "m")]),
    ("name", .string "pump"), ("id", .string "1")]

/-- A pump whose automatic readings are given under both names. -/
def Device.pumpRepeated : Json :=
  .object [("id", .string "1"), ("autoEvents", .array []), ("name", .string "pump"),
    ("autoevents", .array [])]

theorem Device.pump_rearranged : Device.Rearranged pumpDocument.node pumpReversed.node := by
  have hresource : Resource.schema.RearrangedFlat
      (.object [(some "name", .string (some "p")), (some "valueType", .string (some "Bool"))])
      (.object [(some "id", .object [(some "name", .null)]),
        (some "valueType", .string (some "Bool")), (some "name", .string (some "p"))]) := by
    refine .reversed [(some "name", _), (some "valueType", _)] [(some "id", _)]
      (.cons ?_ (.cons ?_ .nil)) (List.forall_mem_singleton.mpr ?_)
    · exact Resource.schema_unambiguous.counterpart (f := .name) (.inl rfl) rfl
    · exact Resource.schema_unambiguous.counterpart (f := .valueType) (.inl rfl) rfl
    · exact ⟨_, rfl, Schema.field?_eq_none_iff.mp rfl⟩
  have hprofile : Profile.Rearranged
      (.object [(some "name", .string (some "m")), (some "deviceResources", .array [.object
        [(some "name", .string (some "p")), (some "valueType", .string (some "Bool"))]])])
      (.object [(some "deviceResources", .array [.object [(some "id", .object [(some "name", .null)]),
        (some "valueType", .string (some "Bool")), (some "name", .string (some "p"))]]),
        (some "name", .string (some "m"))]) := by
    refine .reversed [(some "name", _), (some "deviceResources", _)] []
      (.cons ?_ (.cons ?_ .nil)) nofun
    · exact Profile.schema_unambiguous.counterpart (f := .name) (.inl rfl) rfl
    · exact Profile.schema_unambiguous.counterpart (f := .resources) (.inl rfl)
        (ItemsRearranged.array (.cons hresource .nil))
  -- the other device has one more member, which no field means
  refine .reversed [(some "id", _), (some "name", _), (some "profile", _)] [(some "valueType", _)]
    (.cons ?_ (.cons ?_ (.cons ?_ .nil))) (List.forall_mem_singleton.mpr ?_)
  · exact schema_unambiguous.counterpart (f := .id) (.inl rfl) rfl
  · exact schema_unambiguous.counterpart (f := .name) (.inl rfl) rfl
  · exact schema_unambiguous.counterpart (f := .profile) (.inl rfl) hprofile
  · exact ⟨_, rfl, Schema.field?_eq_none_iff.mp rfl⟩

theorem Device.pump_repetitive : Device.Repetitive pumpRepeated.node :=
  .twice (.cons _ (.cons_cons _ (.cons _ (.cons_cons _ .slnil)))) rfl rfl
    (.inl rfl : schema.Means .autoEvents "autoEvents") (.inr rfl)

/-- A pump with its members reversed is the same pump; with one repeated it is refused. -/
theorem Device.decode_indifferent_of_pump :
    let first := Utf8.ofString pumpDocument.text
    let second := Utf8.ofString pumpReversed.text
    let third := Utf8.ofString pumpRepeated.text
    (Device.Rearranged pumpDocument.node pumpReversed.node ∧
      ∃ d, Device.decode first = .ok d ∧ Device.decode second = .ok d) ∧
      Device.Repetitive pumpRepeated.node ∧ ∃ e, Device.decode third = .error e := by
  intro first second third
  have hfirst := Json.read?_ofString_text (j := pumpDocument) (by simp [pumpDocument])
  have hsecond := Json.read?_ofString_text (j := pumpReversed) (by simp [pumpReversed])
  have hthird := Json.read?_ofString_text (j := pumpRepeated) (by simp [pumpRepeated])
  have hsome : (Device.decode first).toOption.isSome := by decide +kernel
  obtain ⟨d, hd⟩ := Option.isSome_iff_exists.mp hsome
  have hd := eq_ok_of_toOption hd
  exact ⟨⟨pump_rearranged, d, hd,
      decode_indifferent.1 _ _ _ _ d hfirst hsecond pump_rearranged hd⟩,
    pump_repetitive, decode_indifferent.2 _ _ hthird pump_repetitive⟩

end DeviceHost
