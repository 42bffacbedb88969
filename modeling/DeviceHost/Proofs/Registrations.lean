import DeviceHost.Proofs.Table
import DeviceHost.Proofs.Trace
import Mathlib.Data.List.Induction

/-!
# Who is told

Listeners are offered to a registry, the registry is closed, and now and then there is something to
tell, in any order and any number of times. Which offers succeed, and whom each call goes to, can be
read off the uses that came before, without a look at the registry.

* `Use`, `use`, `run` — what is done with a registry, and what comes of it;
* `Receives` — the listener that was taken last, according to the uses so far;
* `listener?_after` — the registry holds exactly that listener, by induction on the uses;
* `receives_of_closed` — nobody else will, once the registry has been closed;
* `delivers_run` — the answer to every single use of a registry.
-/

namespace DeviceHost

namespace Registry

/-! ## Uses -/

/-- Something that is done with a registry. -/
inductive Use
  /-- a listener is offered -/
  | register (l : Listener)
  /-- the registry is closed -/
  | close
  /-- there is something to tell -/
  | tell (c : ListenerCall)

/-- What comes of a use: whether it is granted, the registry after it, and the events. -/
def use : Use → Activity Event Registry (Except RegistryError Unit)
  | .register l, r =>
    match r.register l with
    | .ok r' => ⟨.ok (), r', []⟩
    | .error e => ⟨.error e, r, [.logged refusal]⟩
  | .close, r => ⟨.ok (), r.close, []⟩
  | .tell c, r => ⟨.ok (), r, r.tell c⟩

/-- The registry after one use after the other. -/
def after (h : List Use) (r : Registry) : Registry := h.foldl (fun r u => (use u r).state) r

/-- What comes of one use after the other. -/
def run : List Use → Registry → List (Outcome Event Registry (Except RegistryError Unit))
  | [], _ => []
  | u :: h, r => use u r :: run h (use u r).state

theorem length_run (h : List Use) (r : Registry) : (run h r).length = h.length := by
  induction h generalizing r with
  | nil => rfl
  | cons u h ih => rw [run, List.length_cons, ih, List.length_cons]

theorem after_append (h k : List Use) (r : Registry) : after (h ++ k) r = after k (after h r) :=
  List.foldl_append

/-- What comes of a use depends on the registry that the uses before it have left. -/
theorem getElem?_run (before : List Use) (u : Use) (later : List Use) (r : Registry) :
    (run (before ++ u :: later) r)[before.length]? = some (use u (after before r)) := by
  induction before generalizing r with
  | nil => rfl
  | cons v before ih => exact ih (use v r).state

/-! ## The listener that was taken last -/

/-- A registry that is open before the uses takes the listener in their course. -/
def Takes (h : List Use) (l : Listener) : Prop :=
  ∃ before u later, h = before ++ u :: later ∧ u = .register l ∧ .close ∉ before

/-- The listener was taken, and no other one was taken after it. -/
def Receives (h : List Use) (l : Listener) : Prop :=
  ∃ before u later, h = before ++ u :: later ∧ u = .register l ∧ .close ∉ before ∧
    ∀ k, ¬ Takes later k

/-- The listener taken last is that of the last use, if nothing was closed, or an earlier one. -/
theorem takes_concat {h : List Use} {u : Use} {l : Listener} :
    Takes (h ++ [u]) l ↔ (u = .register l ∧ .close ∉ h) ∨ Takes h l := by
  rw [Takes, exists_split_concat_iff]
  exact Iff.rfl

/-- The last use is the offer of the listener, or it is not an offer that is taken. -/
theorem receives_concat {h : List Use} {u : Use} {l : Listener} :
    Receives (h ++ [u]) l ↔
      (u = .register l ∧ .close ∉ h) ∨
        (Receives h l ∧ ∀ k, u = .register k → .close ∈ h) := by
  rw [Receives, exists_split_concat_iff]
  refine or_congr ?_ ?_
  · have hnone (k : Listener) : ¬ Takes [] k := by
      rintro ⟨before, v, later, hsplit, -⟩
      simp at hsplit
    simp [hnone]
  · constructor
    · rintro ⟨before, v, later, rfl, rfl, hopen, hlast⟩
      simp only [takes_concat, not_or, not_and, Classical.not_not] at hlast
      refine ⟨⟨before, _, later, rfl, rfl, hopen, fun k => (hlast k).2⟩, fun k hk => ?_⟩
      exact List.mem_append_right _ (List.mem_cons_of_mem _ ((hlast k).1 hk))
    · rintro ⟨⟨before, v, later, rfl, rfl, hopen, hlast⟩, hclosed⟩
      refine ⟨before, _, later, rfl, rfl, hopen, fun k hk => ?_⟩
      rcases takes_concat.mp hk with ⟨hoffer, hstill⟩ | hk
      · -- the registry has been closed before the last use, and not before the listener was taken
        rcases List.mem_append.mp (hclosed k hoffer) with hmem | hmem
        · exact hopen hmem
        · exact hstill (by simpa using hmem)
      · exact hlast k hk

/-! ## The registry holds it -/

/-- A closed registry refuses every listener and logs that. -/
theorem use_register_of_closed {r : Registry} (h : r.closed = true) (l : Listener) :
    use (.register l) r = ⟨.error .alreadyStarted, r, [.logged refusal]⟩ := by
  rw [use, register, if_pos h]

/-- An open registry takes every listener, in the place of the one before. -/
theorem use_register_of_open {r : Registry} (h : ¬ r.closed = true) (l : Listener) :
    use (.register l) r = ⟨.ok (), { r with listener? := some l }, []⟩ := by
  rw [use, register, if_neg h]

theorem after_concat (h : List Use) (u : Use) (r : Registry) :
    after (h ++ [u]) r = (use u (after h r)).state :=
  after_append h [u] r

/-- The registry is closed exactly if some use has closed it. -/
theorem closed_after (h : List Use) : (after h empty).closed = true ↔ .close ∈ h := by
  induction h using List.reverseRecOn with
  | nil => simp [after, empty]
  | append_singleton h u ih =>
    rw [after_concat]
    cases u with
    | register l =>
      -- a registration leaves it as it is, refused or not
      have hkept : (use (.register l) (after h empty)).state.closed = (after h empty).closed := by
        by_cases hclosed : (after h empty).closed = true
        · rw [use_register_of_closed hclosed]
        · rw [use_register_of_open hclosed]
      rw [hkept, ih]
      simp
    | close => simp [use, close]
    | tell c =>
      rw [use, ih]
      simp

/-- **The registry holds the listener that was taken last**, and none if none was taken. -/
theorem listener?_after (h : List Use) (l : Listener) :
    (after h empty).listener? = some l ↔ Receives h l := by
  induction h using List.reverseRecOn with
  | nil =>
    refine ⟨nofun, ?_⟩
    rintro ⟨before, v, later, hsplit, -⟩
    simp at hsplit
  | append_singleton h u ih =>
    rw [after_concat, receives_concat, ← ih]
    cases u with
    | register k =>
      by_cases hclosed : .close ∈ h
      · rw [use_register_of_closed ((closed_after h).mpr hclosed)]
        simp [hclosed]
      · rw [use_register_of_open (mt (closed_after h).mp hclosed)]
        simp [hclosed]
    | close => simp [use, close]
    | tell c => simp [use]

/-- Once the registry has been closed, what is done with it later does not matter. -/
theorem receives_of_closed {h : List Use} (hclosed : .close ∈ h) (k : List Use) (l : Listener) :
    Receives (h ++ k) l ↔ Receives h l := by
  induction k using List.reverseRecOn with
  | nil => rw [List.append_nil]
  | append_singleton k u ih =>
    have hstill : .close ∈ h ++ k := List.mem_append_left k hclosed
    rw [← List.append_assoc, receives_concat, ih]
    simp [hstill]

/-! ## Every answer -/

/-- The events by which a call goes to the listener that was taken last: the call, which is the only
one, and what the listener writes to the log. If no listener was taken, nothing happens. -/
def Delivered (h : List Use) (c : ListenerCall) (es : List Event) : Prop :=
  (∀ l, Receives h l → es = .told l.name c :: (l.lines c).map .logged) ∧
    ((∀ l, ¬ Receives h l) → es = [])

/-- Every call goes to the listener that was taken last, and to nobody without one. -/
theorem delivered_tell (h : List Use) (c : ListenerCall) :
    Delivered h c ((after h empty).tell c) := by
  constructor
  · intro l hl
    rw [tell, (listener?_after h l).mpr hl]
  · intro hnone
    have hnobody : (after h empty).listener? = none :=
      Option.eq_none_iff_forall_ne_some.mpr fun l hl => hnone l ((listener?_after h l).mp hl)
    rw [tell, hnobody]

/-- The answers to the uses of a registry. -/
structure Delivers (h : List Use)
    (os : List (Outcome Event Registry (Except RegistryError Unit))) : Prop where
  /-- every use has an answer -/
  length : os.length = h.length
  /-- a listener that is offered is taken if the registry has not been closed before, and is refused
  otherwise; no listener is told of it -/
  register : ∀ before l later, h = before ++ .register l :: later →
    ∃ o, os[before.length]? = some o ∧
      (.close ∉ before → o.value = .ok () ∧ o.trace = []) ∧
      (.close ∈ before → o.value = .error .alreadyStarted ∧ o.trace = [.logged refusal])
  /-- nobody is told when the registry is closed -/
  close : ∀ before later, h = before ++ .close :: later →
    ∃ o, os[before.length]? = some o ∧ o.value = .ok () ∧ o.trace = []
  /-- a call goes to the listener that was taken last before it -/
  tell : ∀ before c later, h = before ++ .tell c :: later →
    ∃ o, os[before.length]? = some o ∧ o.value = .ok () ∧ Delivered before c o.trace
  /-- once the registry has been closed, a call goes to the listener that was taken last before the
  closing, whatever was done since -/
  settled : ∀ before since c later, h = before ++ .close :: (since ++ .tell c :: later) →
    ∃ o, os[(before ++ .close :: since).length]? = some o ∧ Delivered before c o.trace

/-- **Who is told**, over every history of a registry that begins without a listener. -/
theorem delivers_run (h : List Use) : Delivers h (run h empty) where
  length := length_run h empty
  register := by
    rintro before l later rfl
    refine ⟨_, getElem?_run before _ later empty, fun hopen => ?_, fun hclosed => ?_⟩
    · rw [use_register_of_open (mt (closed_after before).mp hopen)]
      exact ⟨rfl, rfl⟩
    · rw [use_register_of_closed ((closed_after before).mpr hclosed)]
      exact ⟨rfl, rfl⟩
  close := by
    rintro before later rfl
    exact ⟨_, getElem?_run before _ later empty, rfl, rfl⟩
  tell := by
    rintro before c later rfl
    exact ⟨_, getElem?_run before _ later empty, rfl, delivered_tell before c⟩
  settled := by
    rintro before since c later rfl
    have hsame (l : Listener) : Receives (before ++ .close :: since) l ↔ Receives before l := by
      rw [List.append_cons, receives_of_closed (by simp), receives_concat]
      simp
    have hdelivered := delivered_tell (before ++ .close :: since) c
    simp only [Delivered, hsame] at hdelivered
    rw [← List.cons_append, ← List.append_assoc]
    exact ⟨_, getElem?_run (before ++ .close :: since) _ later empty, hdelivered⟩

end Registry

end DeviceHost
