import Mathlib.Data.List.Forall2

/-!
# Going through a list until a step fails

The resources of a command are looked up one by one, and so are their values read: a traversal that
stops at the first step that fails. `List.mapM` in `Except` is such a traversal.

* `mapM_eq_ok_iff` — it succeeds if every step does, with the results in order;
* `mapM_eq_error_iff` — it fails as its first failing step does;
* `forall_or_first` — every element is good, or there is a first one that is not;
* `Stops` — the outcome of any such traversal, whatever it does on its way;
* `exists_forall₂`, `exists_mem_of_forall₂` — the results by themselves, and where each comes from.
-/

namespace DeviceHost

section Traversal

variable {α β ε : Type} {f g : α → Except ε β} {xs : List α}

theorem mapM_cons_eq (f : α → Except ε β) (x : α) (xs : List α) :
    (x :: xs).mapM f =
      match f x with
      | .error e => .error e
      | .ok y => (xs.mapM f).map (y :: ·) := by
  rw [List.mapM_cons]
  rcases f x with e | y
  · rfl
  · rcases xs.mapM f with e | ys <;> rfl

/-- A list is mapped exactly if each element is, to the results in order. -/
theorem mapM_eq_ok_iff {ys : List β} :
    xs.mapM f = .ok ys ↔ List.Forall₂ (fun x y => f x = .ok y) xs ys := by
  induction xs generalizing ys with
  | nil =>
    rw [List.mapM_nil, List.forall₂_nil_left_iff]
    exact ⟨fun h => (Except.ok.inj h).symm, fun h => congrArg Except.ok h.symm⟩
  | cons x xs ih =>
    rw [mapM_cons_eq, List.forall₂_cons_left_iff]
    rcases hx : f x with e | y
    · simp
    · rcases hxs : xs.mapM f with e | zs
      · simp [Except.map, ← ih, hxs]
      · simp [Except.map, ← ih, hxs, eq_comm]

/-- If there is a result for each step, there is a list of results. -/
theorem exists_forall₂ {R : α → β → Prop} (h : ∀ x ∈ xs, ∃ y, R x y) :
    ∃ ys, List.Forall₂ R xs ys := by
  induction xs with
  | nil => exact ⟨[], .nil⟩
  | cons x xs ih =>
    obtain ⟨⟨y, hy⟩, hxs⟩ := List.forall_mem_cons.mp h
    obtain ⟨ys, hys⟩ := ih hxs
    exact ⟨y :: ys, .cons hy hys⟩

/-- If what is not good is bad for a reason, then so is the first element that is not good. -/
theorem forall_or_first {P : α → Prop} {Q : α → ε → Prop} (h : ∀ x, P x ∨ ∃ e, Q x e)
    (xs : List α) :
    (∀ x ∈ xs, P x) ∨
      ∃ earlier x later e, xs = earlier ++ x :: later ∧ (∀ a ∈ earlier, P a) ∧ Q x e := by
  induction xs with
  | nil => exact .inl nofun
  | cons x xs ih =>
    rcases h x with hx | ⟨e, hx⟩
    · rcases ih with hall | ⟨earlier, y, later, e, rfl, hearlier, hy⟩
      · exact .inl (List.forall_mem_cons.mpr ⟨hx, hall⟩)
      · exact .inr ⟨x :: earlier, y, later, e, rfl, List.forall_mem_cons.mpr ⟨hx, hearlier⟩, hy⟩
    · exact .inr ⟨[], x, xs, e, rfl, nofun, hx⟩

/-- The outcome of going through a list until an element is not good: it is good if they all are,
and otherwise the first one that is not says why. -/
structure Stops (P : α → Prop) (Q : α → ε → Prop) (xs : List α) (o : Except ε β) : Prop where
  /-- all of them are good -/
  of_forall : (∀ x ∈ xs, P x) → ∃ y, o = .ok y
  /-- one of them is not, and it is the first one -/
  of_first : ∀ earlier x later e, xs = earlier ++ x :: later → (∀ a ∈ earlier, P a) → Q x e →
    o = .error e

section Stops

variable {P : α → Prop} {Q : α → ε → Prop} {o : Except ε β}

/-- What stops at the first bad element goes well exactly if all of them are good. -/
theorem Stops.ok_iff (h : Stops P Q xs o) (hpq : ∀ x, P x ∨ ∃ e, Q x e) :
    (∃ y, o = .ok y) ↔ ∀ x ∈ xs, P x := by
  refine ⟨fun ⟨y, hy⟩ => ?_, h.of_forall⟩
  rcases forall_or_first hpq xs with hall | ⟨earlier, x, later, e, hsplit, hearlier, hx⟩
  · exact hall
  · cases hy.symm.trans (h.of_first earlier x later e hsplit hearlier hx)

/-- What stops at the first bad element fails exactly with the error of that one. -/
theorem Stops.error_iff (h : Stops P Q xs o) (hpq : ∀ x, P x ∨ ∃ e, Q x e) {e : ε} :
    o = .error e ↔
      ∃ earlier x later, xs = earlier ++ x :: later ∧ (∀ a ∈ earlier, P a) ∧ Q x e := by
  constructor
  · intro he
    rcases forall_or_first hpq xs with hall | ⟨earlier, x, later, e', hsplit, hearlier, hx⟩
    · obtain ⟨y, hy⟩ := h.of_forall hall
      cases he.symm.trans hy
    · obtain rfl := Except.error.inj
        (he.symm.trans (h.of_first earlier x later e' hsplit hearlier hx))
      exact ⟨earlier, x, later, hsplit, hearlier, hx⟩
  · rintro ⟨earlier, x, later, hsplit, hearlier, hx⟩
    exact h.of_first earlier x later e hsplit hearlier hx

end Stops

/-- A mapping stops at the first element that fails. -/
theorem stops_mapM (f : α → Except ε β) (xs : List α) :
    Stops (fun x => ∃ y, f x = .ok y) (fun x e => f x = .error e) xs (xs.mapM f) where
  of_forall h := by
    obtain ⟨ys, hys⟩ := exists_forall₂ h
    exact ⟨ys, mapM_eq_ok_iff.mpr hys⟩
  of_first earlier x later e hsplit hearlier hx := by
    subst hsplit
    induction earlier with
    | nil => rw [List.nil_append, mapM_cons_eq, hx]
    | cons a earlier ih =>
      obtain ⟨⟨b, hb⟩, hmore⟩ := List.forall_mem_cons.mp hearlier
      rw [List.cons_append, mapM_cons_eq, hb, ih hmore]
      rfl

/-- A mapping fails exactly with the error of the first element that does. -/
theorem mapM_eq_error_iff {e : ε} :
    xs.mapM f = .error e ↔
      ∃ earlier x later, xs = earlier ++ x :: later ∧ (∀ a ∈ earlier, ∃ b, f a = .ok b) ∧
        f x = .error e := by
  refine (stops_mapM f xs).error_iff fun x => ?_
  rcases f x with e | y
  · exact .inr ⟨e, rfl⟩
  · exact .inl ⟨y, rfl⟩

/-- Only the steps for what is in the list count. -/
theorem mapM_congr_mem (h : ∀ x ∈ xs, f x = g x) : xs.mapM f = xs.mapM g := by
  induction xs with
  | nil => rfl
  | cons x xs ih =>
    rw [mapM_cons_eq, mapM_cons_eq, h x (List.mem_cons_self ..),
      ih fun a ha => h a (List.mem_cons_of_mem _ ha)]

/-- Every result is that of a step. -/
theorem exists_mem_of_forall₂ {R : α → β → Prop} {ys : List β} (h : List.Forall₂ R xs ys) {y : β}
    (hy : y ∈ ys) : ∃ x ∈ xs, R x y := by
  induction h with
  | nil => cases hy
  | @cons x y' xs ys hxy _ ih =>
    rcases List.mem_cons.mp hy with rfl | hy
    · exact ⟨x, List.mem_cons_self .., hxy⟩
    · obtain ⟨x', hx', hR⟩ := ih hy
      exact ⟨x', List.mem_cons_of_mem _ hx', hR⟩

end Traversal

end DeviceHost
