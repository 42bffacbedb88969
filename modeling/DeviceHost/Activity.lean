/-!
# Activities

The service works on a state and leaves a trace: what it asks of the metadata authority, what it
tells the driver and the listener, and the lines of its log, in the order in which they happen. An
`Activity ε σ β` is such a piece of work: from a state of type `σ` it makes an outcome, which is a
value, the state afterwards and the events of the trace.

* `pure_eq`, `bind_eq` — what sequencing does to the state and the trace;
* `on` — work on a part of the state;
* `relabel` — see the events of a part as events of the whole.
-/

namespace DeviceHost

/-- What a piece of work came to. -/
structure Outcome (ε σ β : Type) where
  /-- the value it made -/
  value : β
  /-- the state it left -/
  state : σ
  /-- the events on the way, first one first -/
  trace : List ε

/-- A piece of work on a state, which leaves a trace of events. -/
def Activity (ε σ β : Type) : Type := σ → Outcome ε σ β

/-- A part of a state. -/
structure Part (σ τ : Type) where
  /-- the part, taken out of the state -/
  get : σ → τ
  /-- the state with another part in its place -/
  put : τ → σ → σ

namespace Activity

variable {ε ε' σ τ β γ : Type}

/-- Change nothing and hand over a value. -/
protected def pure (b : β) : Activity ε σ β := fun s => ⟨b, s, []⟩

/-- Do one thing, and then another one that depends on its value. -/
protected def bind (m : Activity ε σ β) (f : β → Activity ε σ γ) : Activity ε σ γ := fun s =>
  let first := m s
  let second := f first.value first.state
  ⟨second.value, second.state, first.trace ++ second.trace⟩

instance : Monad (Activity ε σ) where
  pure := Activity.pure
  bind := Activity.bind

@[simp] theorem pure_eq (b : β) : (pure b : Activity ε σ β) = fun s => ⟨b, s, []⟩ := rfl

@[simp] theorem bind_eq (m : Activity ε σ β) (f : β → Activity ε σ γ) :
    m >>= f = Activity.bind m f := rfl

theorem id_map_eq (m : Activity ε σ β) : id <$> m = m := by
  funext s
  change (⟨(m s).value, (m s).state, (m s).trace ++ []⟩ : Outcome ε σ _) = m s
  rw [List.append_nil]

/-- Three activities in a row may be grouped either way: value, state and trace are the same. -/
theorem bind_assoc_eq {δ : Type} (m : Activity ε σ β) (f : β → Activity ε σ γ)
    (g : γ → Activity ε σ δ) : (m >>= f) >>= g = m >>= fun x => f x >>= g := by
  funext s
  simp [Activity.bind, List.append_assoc]

instance : LawfulMonad (Activity ε σ) :=
  LawfulMonad.mk' (Activity ε σ) id_map_eq (fun _ _ => rfl) bind_assoc_eq

/-- The state as it stands. -/
def state : Activity ε σ σ := fun s => ⟨s, s, []⟩

/-- Change the state. -/
def modify (f : σ → σ) : Activity ε σ Unit := fun s => ⟨(), f s, []⟩

/-- Leave an event in the trace. -/
def emit (e : ε) : Activity ε σ Unit := fun s => ⟨(), s, [e]⟩

/-- Leave events in the trace. -/
def emitAll (es : List ε) : Activity ε σ Unit := fun s => ⟨(), s, es⟩

/-- Work on a part of the state. -/
def on (p : Part σ τ) (m : Activity ε τ β) : Activity ε σ β := fun s =>
  let o := m (p.get s)
  ⟨o.value, p.put o.state s, o.trace⟩

/-- See events as events of another kind. -/
def relabel (f : ε → ε') (m : Activity ε σ β) : Activity ε' σ β := fun s =>
  let o := m s
  ⟨o.value, o.state, o.trace.map f⟩

end Activity

end DeviceHost
