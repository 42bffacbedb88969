import DeviceHost.Activity

/-!
# Reasoning about activities

An activity is a long chain of small steps, and most of what is to be said about one holds of every
step: it keeps an invariant of the state, or it leaves only events of a certain kind.

* `value_bind`, `state_bind`, `trace_bind` — an activity that is made of two, read through each of
  its results; `bind_of_eq` and `look_bind` go past a first one that leaves no events;
* `Keeps` — an invariant of the state survives, and every event on the way is of a kind;
* `Emits` — the same without an invariant.

`Keeps` is put together along `bind`, so that a proof about an activity has the shape of the
activity.
-/

namespace DeviceHost

namespace Activity

variable {ε ε' σ τ β γ : Type}

/-! ### Two activities in a row -/

theorem value_bind (m : Activity ε σ β) (f : β → Activity ε σ γ) (s : σ) :
    ((m >>= f) s).value = (f (m s).value (m s).state).value := rfl

theorem state_bind (m : Activity ε σ β) (f : β → Activity ε σ γ) (s : σ) :
    ((m >>= f) s).state = (f (m s).value (m s).state).state := rfl

/-- The events of two activities in a row are those of the first, then those of the second. -/
theorem trace_bind (m : Activity ε σ β) (f : β → Activity ε σ γ) (s : σ) :
    ((m >>= f) s).trace = (m s).trace ++ (f (m s).value (m s).state).trace := rfl

/-- A first activity without events hands its value and state on to the second. -/
theorem bind_of_eq {m : Activity ε σ β} {s s' : σ} {b : β} (h : m s = ⟨b, s', []⟩)
    (f : β → Activity ε σ γ) : (m >>= f) s = f b s' := by
  rw [bind_eq, Activity.bind, h]
  rfl

/-- An activity that begins with a look at the state. -/
theorem look_bind (f : σ → Activity ε σ γ) (s : σ) :
    ((Activity.state : Activity ε σ σ) >>= f) s = f s s := rfl

/-! ### Invariants and kinds of events -/

/-- Whenever the invariant holds before the activity, it holds after it, and every event on the way
is of a kind. -/
def Keeps (I : σ → Prop) (P : ε → Prop) (m : Activity ε σ β) : Prop :=
  ∀ s, I s → I (m s).state ∧ ∀ e ∈ (m s).trace, P e

/-- Every event on the way is of a kind, whatever the state. -/
abbrev Emits (P : ε → Prop) (m : Activity ε σ β) : Prop := Keeps (fun _ => True) P m

theorem Emits.any (m : Activity ε σ β) : Emits (fun _ => True) m :=
  fun _ _ => ⟨trivial, fun _ _ => trivial⟩

theorem Emits.trace {P : ε → Prop} {m : Activity ε σ β} (h : Emits P m) (s : σ) :
    ∀ e ∈ (m s).trace, P e :=
  (h s trivial).2

namespace Keeps

variable {I : σ → Prop} {J : τ → Prop} {P Q : ε → Prop}

/-- Events of a narrower kind are of a wider one. -/
theorem mono {m : Activity ε σ β} (hm : Keeps I P m) (hPQ : ∀ e, P e → Q e) : Keeps I Q m := by
  intro s h
  obtain ⟨hstate, htrace⟩ := hm s h
  exact ⟨hstate, fun e he => hPQ e (htrace e he)⟩

theorem pure (b : β) : Keeps I P (pure b : Activity ε σ β) :=
  fun _ h => ⟨h, fun _ he => absurd he List.not_mem_nil⟩

/-- An invariant is kept by two activities in a row if each of them keeps it. -/
theorem bind {m : Activity ε σ β} {f : β → Activity ε σ γ} (hm : Keeps I P m)
    (hf : ∀ b, Keeps I P (f b)) : Keeps I P (m >>= f) := by
  intro s h
  obtain ⟨hstate, htrace⟩ := hm s h
  obtain ⟨hstate', htrace'⟩ := hf (m s).value (m s).state hstate
  refine ⟨hstate', fun e he => ?_⟩
  rw [trace_bind] at he
  rcases List.mem_append.mp he with he | he
  · exact htrace e he
  · exact htrace' e he

theorem state : Keeps I P (Activity.state : Activity ε σ σ) :=
  fun _ h => ⟨h, fun _ he => absurd he List.not_mem_nil⟩

theorem emit {e : ε} (he : P e) : Keeps I P (Activity.emit e : Activity ε σ Unit) := by
  intro s h
  refine ⟨h, fun a ha => ?_⟩
  obtain rfl := List.mem_singleton.mp ha
  exact he

theorem emitAll {es : List ε} (hes : ∀ e ∈ es, P e) :
    Keeps I P (Activity.emitAll es : Activity ε σ Unit) :=
  fun _ h => ⟨h, hes⟩

/-- A change of the state emits nothing, so it has only to keep the invariant. -/
theorem modify {f : σ → σ} (hf : ∀ s, I s → I (f s)) :
    Keeps I P (Activity.modify f : Activity ε σ Unit) :=
  fun s h => ⟨hf s h, fun _ he => absurd he List.not_mem_nil⟩

/-- Work on a part keeps what its new value cannot break. -/
theorem on {p : Part σ τ} {m : Activity ε τ β} (hm : Keeps J P m)
    (hget : ∀ s, I s → J (p.get s)) (hput : ∀ s t, I s → J t → I (p.put t s)) :
    Keeps I P (m.on p) := by
  intro s h
  obtain ⟨hstate, htrace⟩ := hm (p.get s) (hget s h)
  exact ⟨hput s _ h hstate, htrace⟩

/-- Work on a part keeps what does not look at the part. -/
theorem on_part {p : Part σ τ} {m : Activity ε τ β} (hm : Emits P m)
    (hput : ∀ s t, I s → I (p.put t s)) : Keeps I P (m.on p) :=
  hm.on (fun _ _ => trivial) fun s t h _ => hput s t h

end Keeps

/-- Relabelled events are of every kind that the labels have. -/
theorem Emits.relabel {P : ε → Prop} {f : ε' → ε} (hf : ∀ e, P (f e)) (m : Activity ε' σ β) :
    Emits P (m.relabel f) := by
  refine fun s _ => ⟨trivial, fun e he => ?_⟩
  obtain ⟨a, -, rfl⟩ := List.mem_map.mp he
  exact hf a

end Activity

end DeviceHost
