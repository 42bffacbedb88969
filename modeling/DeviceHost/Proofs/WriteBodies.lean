import DeviceHost.Proofs.Callback
import DeviceHost.Proofs.JsonGrammar

/-!
# Bodies that write values

A caller writes values with an object that has a member for each resource. Its members may repeat
names, and then only the last one of a name counts: what an earlier one holds is not even looked at,
though it has to be a value. The values that count have to be texts, numbers or truth values.

* `IsScalar` — the values that may be written, and their texts;
* `Assigns` — the table that the members of an object make;
* `Refuses` — what is wrong with any other body, of several unfit members the first one by name;
* `writeValues_spec` — bodies are accepted and refused exactly so.
-/

namespace DeviceHost

/-- A table whose values were converted one by one, with their keys kept. -/
theorem Table.ofList_of_forall₂ {β γ : Type} {R : β → γ → Prop} {t : Table β}
    {es : List (String × γ)}
    (h : List.Forall₂ (fun a b => a.1 = b.1 ∧ R a.2 b.2) t.toList es) :
    (∀ k, k ∈ (ofList es).keys ↔ k ∈ t.keys) ∧
      ∀ k v, t.get? k = some v → ∃ w, R v w ∧ (ofList es).get? k = some w := by
  have hkeys : es.map Prod.fst = t.keys := by
    rw [keys, eq_comm, ← List.forall₂_eq_eq_eq, List.forall₂_map_left_iff,
      List.forall₂_map_right_iff]
    exact h.imp fun _ _ => And.left
  have hsorted : Sorted es := by
    have ht : (t.keys).Pairwise (· < ·) := List.pairwise_map.mpr t.sorted
    rw [← hkeys, List.pairwise_map] at ht
    exact ht
  have hlist : ofList es = ⟨es, hsorted⟩ := ofList_of_perm (.refl _)
  rw [hlist]
  refine ⟨fun k => by rw [← hkeys]; rfl, fun k v hv => ?_⟩
  obtain ⟨⟨k', w⟩, hmem, hk, hw⟩ := exists_mem_of_forall₂ h.flip (mem_entries.mpr hv)
  obtain rfl : k = k' := hk
  exact ⟨w, hw, mem_entries.mp hmem⟩

namespace Http

/-! ### Values and members -/

/-- The values that may be written, and their texts. -/
inductive IsScalar : Json → String → Prop
  | text (s : String) : IsScalar (.string s) s
  | yes : IsScalar (.bool true) "true"
  | no : IsScalar (.bool false) "false"
  /-- an integer, in decimal digits -/
  | integer (i : Int) : IsScalar (.number (.integer i)) (Numeral.intText i)
  /-- any other number, as documents are written -/
  | real (x : Json.Real) : IsScalar (.number (.real x)) (String.ofList (Json.layout.text x))

/-- A member has a text exactly if it is a scalar with that text. -/
theorem scalarText?_eq_some_iff {v : Json} {s : String} :
    scalarText? v = some s ↔ IsScalar v s := by
  constructor
  · intro h
    cases v with
    | null => cases h
    | bool b =>
      obtain rfl := Option.some.inj h
      cases b with
      | true => exact .yes
      | false => exact .no
    | number n =>
      obtain rfl := Option.some.inj h
      cases n with
      | integer i => exact .integer i
      | real x => exact .real x
    | string s =>
      obtain rfl := Option.some.inj h
      exact .text s
    | array items => cases h
    | object members => cases h
  · rintro (_ | _ | _ | _ | _) <;> rfl

theorem scalarText?_eq_none_iff {v : Json} : scalarText? v = none ↔ ∀ s, ¬ IsScalar v s := by
  simp only [Option.eq_none_iff_forall_ne_some, ne_eq, scalarText?_eq_some_iff]

theorem IsScalar.unique {v : Json} {s s' : String} (h : IsScalar v s) (h' : IsScalar v s') :
    s = s' :=
  Option.some.inj
    ((scalarText?_eq_some_iff.mpr h).symm.trans (scalarText?_eq_some_iff.mpr h'))

variable {members : List (String × Json)} {name : String} {v : Json}

/-- Of the members of a name the last one is in the table of an object. -/
theorem get?_ofList_members :
    (Table.ofList members).get? name = some v ↔ (Json.object members).LastMember name v := by
  rw [Table.get?_ofList_eq_some_iff]
  simp [Json.LastMember]

/-- The table that the members of an object make. -/
structure Assigns (members : List (String × Json)) (t : Table String) : Prop where
  /-- its keys are the names of the members -/
  keys : ∀ name, name ∈ t.keys ↔ name ∈ members.map Prod.fst
  /-- under each name it has what the last member of the name holds, which may be written -/
  values : ∀ name v, (Json.object members).LastMember name v →
    ∃ s, IsScalar v s ∧ t.get? name = some s

/-- The members of a body assign one table only. -/
theorem Assigns.unique {t u : Table String} (ht : Assigns members t) (hu : Assigns members u) :
    t = u := by
  refine Table.ext_get? fun name => ?_
  by_cases hname : name ∈ members.map Prod.fst
  · obtain ⟨v, hv⟩ := Option.isSome_iff_exists.mp
      (Table.mem_keys.mp (Table.mem_keys_ofList.mpr hname))
    obtain ⟨s, hs, hget⟩ := ht.values name v (get?_ofList_members.mp hv)
    obtain ⟨s', hs', hget'⟩ := hu.values name v (get?_ofList_members.mp hv)
    rw [hget, hget', hs.unique hs']
  · have hnone {t : Table String} (ht : Assigns members t) : t.get? name = none := by
      rw [← Option.not_isSome_iff_eq_none, ← Table.mem_keys, ht.keys]
      exact hname
    rw [hnone ht, hnone hu]

/-! ### Bodies -/

/-- What is wrong with a body that writes no values: of several troubles the first one. -/
inductive Refuses (body : String) : Refusal → Prop
  /-- the body is no document -/
  | garbled (h : ∀ j : Json, ¬ j.SpelledBy body) : Refuses body ⟨.badRequest, "Invalid JSON"⟩
  /-- the document is no object -/
  | misshapen {j : Json} (hj : j.SpelledBy body) (h : ∀ members, j ≠ .object members) :
    Refuses body ⟨.badRequest, "Body must be a JSON object"⟩
  /-- the last member of a name holds what may not be written, and this is the first such name -/
  | unfit {members : List (String × Json)} {name : String} {v : Json}
    (hj : (Json.object members).SpelledBy body) (hv : (Json.object members).LastMember name v)
    (h : ∀ s, ¬ IsScalar v s)
    (hfirst : ∀ name' v', (Json.object members).LastMember name' v' → name' < name →
      ∃ s, IsScalar v' s) :
    Refuses body ⟨.badRequest,
      s!"Value for '{name}' must be a string, number or boolean, got {v.tidy.text}"⟩

/-- Every refused body is answered as a bad request. -/
theorem Refuses.status {body : String} {r : Refusal} (h : Refuses body r) : r.status = 400 := by
  cases h <;> rfl

/-- The text of a member, if it may be written. -/
def scalarMember (m : String × Json) : Except Refusal (String × String) :=
  match scalarText? m.2 with
  | some s => .ok (m.1, s)
  | none =>
    .error ⟨.badRequest,
      s!"Value for '{m.1}' must be a string, number or boolean, got {m.2.tidy.text}"⟩

theorem scalarMembers_eq_mapM (ms : List (String × Json)) :
    scalarMembers ms = ms.mapM scalarMember := by
  induction ms with
  | nil => rfl
  | cons m ms ih =>
    obtain ⟨name, v⟩ := m
    rw [mapM_cons_eq, scalarMembers, scalarMember, ih]
    cases scalarText? v <;> rfl

/-- A member is taken under its name exactly if it is a scalar. -/
theorem scalarMember_eq_ok_iff {m : String × Json} {e : String × String} :
    scalarMember m = .ok e ↔ m.1 = e.1 ∧ IsScalar m.2 e.2 := by
  rw [← scalarText?_eq_some_iff, scalarMember]
  rcases scalarText? m.2 with _ | s
  · simp
  · simp [Prod.ext_iff]

/-- A member is refused exactly if it is no scalar, with its name and its text. -/
theorem scalarMember_eq_error_iff {m : String × Json} {r : Refusal} :
    scalarMember m = .error r ↔
      (∀ s, ¬ IsScalar m.2 s) ∧ r = ⟨.badRequest,
        s!"Value for '{m.1}' must be a string, number or boolean, got {m.2.tidy.text}"⟩ := by
  rw [← scalarText?_eq_none_iff, scalarMember]
  rcases scalarText? m.2 with _ | s
  · simp [eq_comm]
  · simp

/-- Of the members of one name the last one counts. -/
theorem mem_toList_ofList_members :
    (name, v) ∈ (Table.ofList members).toList ↔ (Json.object members).LastMember name v :=
  Table.mem_entries.trans get?_ofList_members

variable {body : String}

/-- The members of a body are taken in the order of their names. -/
theorem writeValues_of_object (h : (Json.object members).SpelledBy body) :
    writeValues body = ((Table.ofList members).toList.mapM scalarMember).map .ofList := by
  rw [writeValues, Json.ofText?_eq_some_iff.mpr h, ← scalarMembers_eq_mapM]

/-- The table of an object whose members may all be written. -/
theorem exists_assigns (h : (Json.object members).SpelledBy body)
    (hall : ∀ name v, (Json.object members).LastMember name v → ∃ s, IsScalar v s) :
    ∃ t, writeValues body = .ok t ∧ Assigns members t := by
  have hentries : ∀ m ∈ (Table.ofList members).toList, ∃ e, scalarMember m = .ok e := by
    rintro ⟨name, v⟩ hm
    obtain ⟨s, hs⟩ := hall name v (mem_toList_ofList_members.mp hm)
    exact ⟨(name, s), scalarMember_eq_ok_iff.mpr ⟨rfl, hs⟩⟩
  obtain ⟨es, hes⟩ := exists_forall₂ hentries
  have hsame : List.Forall₂ (fun m e => m.1 = e.1 ∧ IsScalar m.2 e.2)
      (Table.ofList members).toList es := hes.imp fun _ _ => scalarMember_eq_ok_iff.mp
  obtain ⟨hkeys, hvalues⟩ := Table.ofList_of_forall₂ hsame
  refine ⟨.ofList es, ?_, fun name => ?_, fun name v hv => ?_⟩
  · rw [writeValues_of_object h, mapM_eq_ok_iff.mpr hes]
    rfl
  · rw [hkeys, Table.mem_keys_ofList]
  · exact hvalues name v (get?_ofList_members.mpr hv)

/-- An object with a member that counts and may not be written. -/
theorem error_of_unfit (h : (Json.object members).SpelledBy body)
    (hv : (Json.object members).LastMember name v) (hunfit : ∀ s, ¬ IsScalar v s)
    (hfirst : ∀ name' v', (Json.object members).LastMember name' v' → name' < name →
      ∃ s, IsScalar v' s) :
    writeValues body = .error ⟨.badRequest,
      s!"Value for '{name}' must be a string, number or boolean, got {v.tidy.text}"⟩ := by
  obtain ⟨earlier, later, hsplit⟩ := List.append_of_mem (mem_toList_ofList_members.mpr hv)
  have hearlier : ∀ m ∈ earlier, ∃ e, scalarMember m = .ok e := by
    rintro ⟨name', v'⟩ hm
    obtain ⟨hget, hlt⟩ := (Table.mem_earlier_iff hsplit).mp hm
    obtain ⟨s, hs⟩ := hfirst name' v' (get?_ofList_members.mp hget) hlt
    exact ⟨(name', s), scalarMember_eq_ok_iff.mpr ⟨rfl, hs⟩⟩
  have herror : (Table.ofList members).toList.mapM scalarMember = .error _ :=
    mapM_eq_error_iff.mpr ⟨earlier, (name, v), later, hsplit, hearlier,
      scalarMember_eq_error_iff.mpr ⟨hunfit, rfl⟩⟩
  rw [writeValues_of_object h, herror]
  rfl

/-- A body that spells no document is refused as such. -/
theorem writeValues_of_garbled (h : ∀ j : Json, ¬ j.SpelledBy body) :
    writeValues body = .error ⟨.badRequest, "Invalid JSON"⟩ := by
  rw [writeValues, Json.ofText?_eq_none_iff.mpr h]

/-- A body that spells something other than an object is refused as such. -/
theorem writeValues_of_misshapen {j : Json} (hj : j.SpelledBy body)
    (h : ∀ members, j ≠ .object members) :
    writeValues body = .error ⟨.badRequest, "Body must be a JSON object"⟩ := by
  rw [writeValues, Json.ofText?_eq_some_iff.mpr hj]
  cases j with
  | object members => exact absurd rfl (h members)
  | _ => rfl

/-- The members of an object may all be written, or there is a first one by name that may not. -/
theorem scalars_or_refused (h : (Json.object members).SpelledBy body) :
    (∀ name v, (Json.object members).LastMember name v → ∃ s, IsScalar v s) ∨
      ∃ r, Refuses body r ∧ writeValues body = .error r := by
  have hjudged : ∀ m, (∃ s, IsScalar m.2 s) ∨ ∃ r, scalarMember m = .error r := by
    intro m
    rcases hm : scalarMember m with r | e
    · exact .inr ⟨r, rfl⟩
    · exact .inl ⟨e.2, (scalarMember_eq_ok_iff.mp hm).2⟩
  rcases forall_or_first hjudged (Table.ofList members).toList with
    hall | ⟨earlier, ⟨name, v⟩, later, r, hsplit, hearlier, hr⟩
  · exact .inl fun name v hv => hall (name, v) (mem_toList_ofList_members.mpr hv)
  · obtain ⟨hunfit, rfl⟩ := scalarMember_eq_error_iff.mp hr
    have hv : (Json.object members).LastMember name v := by
      rw [← mem_toList_ofList_members, hsplit]
      simp
    have hfirst : ∀ name' v', (Json.object members).LastMember name' v' → name' < name →
        ∃ s, IsScalar v' s := fun name' v' hv' hlt =>
      hearlier (name', v')
        ((Table.mem_earlier_iff hsplit).mpr ⟨get?_ofList_members.mpr hv', hlt⟩)
    exact .inr ⟨_, .unfit h hv hunfit hfirst, error_of_unfit h hv hunfit hfirst⟩

/-- A body is accepted or refused, and for a reason. -/
theorem assigned_or_refused (body : String) :
    (∃ members t, (Json.object members).SpelledBy body ∧ Assigns members t ∧
        writeValues body = .ok t) ∨
      ∃ r, Refuses body r ∧ writeValues body = .error r := by
  by_cases hj : ∃ j : Json, j.SpelledBy body
  · obtain ⟨j, hj⟩ := hj
    by_cases hobject : ∃ members, j = .object members
    · obtain ⟨members, rfl⟩ := hobject
      rcases scalars_or_refused hj with hall | hrefused
      · obtain ⟨t, hok, ht⟩ := exists_assigns hj hall
        exact .inl ⟨members, t, hj, ht, hok⟩
      · exact .inr hrefused
    · have hother : ∀ members, j ≠ .object members := fun members h => hobject ⟨members, h⟩
      exact .inr ⟨_, .misshapen hj hother, writeValues_of_misshapen hj hother⟩
  · have hnone : ∀ j : Json, ¬ j.SpelledBy body := fun j h => hj ⟨j, h⟩
    exact .inr ⟨_, .garbled hnone, writeValues_of_garbled hnone⟩

/-- A body is accepted exactly if it spells an object whose last members assign the table. -/
theorem writeValues_eq_ok_iff {t : Table String} :
    writeValues body = .ok t ↔
      ∃ members, (Json.object members).SpelledBy body ∧ Assigns members t := by
  constructor
  · intro h
    rcases assigned_or_refused body with ⟨members, t', hj, ht', hok⟩ | ⟨r, -, hr⟩
    · obtain rfl := Except.ok.inj (hok.symm.trans h)
      exact ⟨members, hj, ht'⟩
    · cases hr.symm.trans h
  · rintro ⟨members, hj, ht⟩
    have hall : ∀ name v, (Json.object members).LastMember name v → ∃ s, IsScalar v s :=
      fun name v hv => (ht.values name v hv).imp fun _ => And.left
    obtain ⟨t', hok, ht'⟩ := exists_assigns hj hall
    rw [hok, ht'.unique ht]

/-- A body is refused exactly with what the specification refuses it for. -/
theorem writeValues_eq_error_iff {r : Refusal} :
    writeValues body = .error r ↔ Refuses body r := by
  constructor
  · intro h
    rcases assigned_or_refused body with ⟨members, t, -, -, hok⟩ | ⟨r', hrefuses, hr'⟩
    · cases hok.symm.trans h
    · obtain rfl := Except.error.inj (hr'.symm.trans h)
      exact hrefuses
  · rintro (h | ⟨hj, h⟩ | ⟨hj, hv, h, hfirst⟩)
    · exact writeValues_of_garbled h
    · exact writeValues_of_misshapen hj h
    · exact error_of_unfit hj hv h hfirst

/-- **Bodies are accepted exactly.** A body gives values if it spells an object in which the last
member of every name holds a text, a number or a truth value; then the names are the keys, each with
the text of what its last member holds. For any other body it is said what is wrong with it, and the
status is 400. -/
theorem writeValues_spec (body : String) :
    ((∃ t, writeValues body = .ok t) ↔
      ∃ members, (Json.object members).SpelledBy body ∧
        ∀ name v, (Json.object members).LastMember name v → ∃ s, IsScalar v s) ∧
    (∀ t, writeValues body = .ok t ↔
      ∃ members, (Json.object members).SpelledBy body ∧ Assigns members t) ∧
    (∀ r, writeValues body = .error r ↔ Refuses body r) ∧
    ∀ r, writeValues body = .error r → r.status = 400 := by
  refine ⟨⟨?_, ?_⟩, fun t => writeValues_eq_ok_iff, fun r => writeValues_eq_error_iff,
    fun r hr => (writeValues_eq_error_iff.mp hr).status⟩
  · rintro ⟨t, hok⟩
    obtain ⟨members, hj, ht⟩ := writeValues_eq_ok_iff.mp hok
    exact ⟨members, hj, fun name v hv => (ht.values name v hv).imp fun _ => And.left⟩
  · rintro ⟨members, hj, hall⟩
    obtain ⟨t, hok, -⟩ := exists_assigns hj hall
    exact ⟨t, hok⟩

-- what an earlier member of a name holds does not count
example : writeValues "\x7b\"a\": null, \"b\": [1], \"b\": true, \"a\": -0\x7d" =
    .ok (.ofList [("a", "-0.0"), ("b", "true")]) := by decide +kernel

end Http

end DeviceHost
