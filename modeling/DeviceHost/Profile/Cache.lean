import DeviceHost.Authority

/-!
# The profile cache

Profiles that the service has met are kept by name: those carried by its devices, and those fetched
from the authority because somebody asked for them. A profile that is kept is not fetched again.

* `cached?`, `remember`, `keep`, `list` — the cache by itself;
* `Profiles.get` — a profile from the cache or else from the authority.
-/

namespace DeviceHost

/-- The profiles kept, under the names by which they are asked for. -/
structure ProfileCache where
  /-- the profiles by name -/
  profiles : Table Profile
  deriving DecidableEq

namespace ProfileCache

/-- The cache without profiles. -/
def empty : ProfileCache := ⟨.empty⟩

instance : Inhabited ProfileCache := ⟨empty⟩

/-- The profile kept under a name. -/
def cached? (c : ProfileCache) (name : String) : Option Profile := c.profiles.get? name

/-- Keep a profile under a name; an earlier one is replaced. -/
def keep (c : ProfileCache) (name : String) (p : Profile) : ProfileCache :=
  ⟨c.profiles.insert name p⟩

/-- Keep a profile under its own name, unless that is empty. -/
def remember (c : ProfileCache) (p : Profile) : ProfileCache :=
  if p.name = "" then c else c.keep p.name p

/-- All profiles, by their own names. -/
def list (c : ProfileCache) : List Profile :=
  c.profiles.values.mergeSort fun a b => a.name ≤ b.name

/-- The number of profiles. -/
def size (c : ProfileCache) : Nat := c.profiles.size

/-- Whether there are no profiles. -/
def isEmpty (c : ProfileCache) : Bool := c.profiles.isEmpty

@[simp] theorem cached?_empty (name : String) : empty.cached? name = none := rfl

@[simp] theorem cached?_keep (c : ProfileCache) (name n : String) (p : Profile) :
    (c.keep name p).cached? n = if name = n then some p else c.cached? n :=
  Table.get?_insert ..

end ProfileCache

/-- The profile cache beside the authority that it is filled from. -/
structure Profiles (α : Type) where
  /-- the profiles kept -/
  cache : ProfileCache
  /-- the state of the authority -/
  authority : α

namespace Profiles

variable {α : Type}

/-- The authority's part. -/
def authorityPart : Part (Profiles α) α :=
  ⟨Profiles.authority, fun a s => { s with authority := a }⟩

/-- Change the cache. -/
def update (f : ProfileCache → ProfileCache) : Activity Event (Profiles α) Unit :=
  Activity.modify fun s => { s with cache := f s.cache }

/-- The profile of a name, fetched from the authority if it is not in the cache. -/
def get (a : Authority α) (name : String) :
    Activity Event (Profiles α) (Except AuthorityError Profile) := do
  let s ← Activity.state
  match s.cache.cached? name with
  | some p => return .ok p
  | none =>
    match ← (a.fetchProfile name).on authorityPart with
    | .error e => return .error e
    | .ok p =>
      Activity.emit (.line .debug s!"Cached device profile {name}")
      update fun c => c.keep name p
      return .ok p

end Profiles

end DeviceHost
