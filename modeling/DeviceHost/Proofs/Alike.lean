import DeviceHost.Proofs.Activity

/-!
# Two activities side by side

What an activity does may depend on a part of the state only. That is a statement about two runs of
it: from states that agree in this part, both lead to the same value and leave the same events, and
their states agree afterwards. `Alike` says so for two activities and for any relation between their
states, which may even be of different types.

Like `Keeps`, it is put together along `bind`.
-/

namespace DeviceHost

variable {ε ε' σ σ' τ τ' β γ : Type}

/-- Two outcomes with the same value and the same events, and with related states. -/
structure Outcome.Alike (R : σ → σ' → Prop) (o : Outcome ε σ β) (o' : Outcome ε σ' β) : Prop where
  /-- the values are the same -/
  value : o.value = o'.value
  /-- so are the events -/
  trace : o.trace = o'.trace
  /-- the states are related -/
  state : R o.state o'.state

namespace Activity

/-- From related states, two activities come to the same. -/
def Alike (R : σ → σ' → Prop) (m : Activity ε σ β) (m' : Activity ε σ' β) : Prop :=
  ∀ s s', R s s' → (m s).Alike R (m' s')

namespace Alike

variable {R : σ → σ' → Prop} {S : τ → τ' → Prop}

/-- An activity comes to the same as itself from the same state. -/
theorem refl (m : Activity ε σ β) : Alike Eq m m := by
  rintro s _ ⟨⟩
  exact ⟨rfl, rfl, rfl⟩

theorem pure (b : β) :
    Alike R (pure b : Activity ε σ β) (Pure.pure b : Activity ε σ' β) :=
  fun _ _ h => ⟨rfl, rfl, h⟩

/-- Activities in a row are alike if their parts are, for every value that the first may give. -/
theorem bind {m : Activity ε σ β} {m' : Activity ε σ' β} {f : β → Activity ε σ γ}
    {f' : β → Activity ε σ' γ} (hm : Alike R m m') (hf : ∀ b, Alike R (f b) (f' b)) :
    Alike R (m >>= f) (m' >>= f') := by
  intro s s' h
  obtain ⟨hvalue, htrace, hstate⟩ := hm s s' h
  have hnext := hf (m s).value (m s).state (m' s').state hstate
  rw [hvalue] at hnext
  refine ⟨?_, ?_, ?_⟩
  · rw [value_bind, value_bind, hvalue]
    exact hnext.value
  · rw [trace_bind, trace_bind, htrace, hvalue, hnext.trace]
  · rw [state_bind, state_bind, hvalue]
    exact hnext.state

/-- Two activities that begin with a look at their states. -/
theorem look {f : σ → Activity ε σ γ} {f' : σ' → Activity ε σ' γ}
    (hf : ∀ s s', R s s' → Alike R (f s) (f' s')) :
    Alike R ((Activity.state : Activity ε σ σ) >>= f) ((Activity.state : Activity ε σ' σ') >>= f')
    := by
  intro s s' h
  rw [look_bind, look_bind]
  exact hf s s' h s s' h

theorem emit (e : ε) :
    Alike R (Activity.emit e : Activity ε σ Unit) (Activity.emit e : Activity ε σ' Unit) :=
  fun _ _ h => ⟨rfl, rfl, h⟩

theorem emitAll (es : List ε) :
    Alike R (Activity.emitAll es : Activity ε σ Unit) (Activity.emitAll es : Activity ε σ' Unit) :=
  fun _ _ h => ⟨rfl, rfl, h⟩

/-- Changes of two states are alike if they keep the relation between the states. -/
theorem modify {f : σ → σ} {f' : σ' → σ'} (hf : ∀ s s', R s s' → R (f s) (f' s')) :
    Alike R (Activity.modify f : Activity ε σ Unit) (Activity.modify f' : Activity ε σ' Unit) :=
  fun s s' h => ⟨rfl, rfl, hf s s' h⟩

/-- Work on parts that are related when the whole states are. -/
theorem on {p : Part σ τ} {p' : Part σ' τ'} {m : Activity ε τ β} {m' : Activity ε τ' β}
    (hm : Alike S m m') (hget : ∀ s s', R s s' → S (p.get s) (p'.get s'))
    (hput : ∀ s s' t t', R s s' → S t t' → R (p.put t s) (p'.put t' s')) :
    Alike R (m.on p) (m'.on p') := by
  intro s s' h
  obtain ⟨hvalue, htrace, hstate⟩ := hm _ _ (hget s s' h)
  exact ⟨hvalue, htrace, hput s s' _ _ h hstate⟩

theorem relabel (f : ε' → ε) {m : Activity ε' σ β} {m' : Activity ε' σ' β} (hm : Alike R m m') :
    Alike R (m.relabel f) (m'.relabel f) := by
  intro s s' h
  obtain ⟨hvalue, htrace, hstate⟩ := hm s s' h
  exact ⟨hvalue, congrArg (List.map f) htrace, hstate⟩

end Alike

end Activity

end DeviceHost
