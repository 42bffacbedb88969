import DeviceHost.Table
import DeviceHost.Yaml.Event

/-!
# The tree of a YAML document

A scalar with an anchor may stand in other places too, by its alias; so may a collection, but of
that only the fact is kept, since nothing here looks into it. An alias has to follow its anchor.
-/

namespace DeviceHost.Yaml

/-- A node of a document. -/
inductive Node
  /-- a scalar, and whether it is plain -/
  | scalar (text : String) (plain : Bool)
  | sequence (items : List Node)
  | mapping (entries : List (Node × Node))
  /-- a collection that stands elsewhere -/
  | reference

/-- A collection that is still open, with its parts so far, last one first. -/
inductive Frame
  | sequence (items : List Node)
  /-- a mapping; the key whose value is to come -/
  | mapping (entries : List (Node × Node)) (key : Option Node)

/-- A tree under way. -/
structure Growth where
  /-- the open collections, innermost first -/
  stack : List Frame
  /-- the node of the whole document, once it is complete -/
  root : Option Node
  /-- what each anchor stands for -/
  anchors : Table Node
  /-- whether an alias had no anchor -/
  broken : Bool

namespace Growth

/-- Add a finished node. -/
def add (g : Growth) (n : Node) : Growth :=
  match g.stack with
  | [] => { g with root := some n }
  | .sequence items :: r => { g with stack := .sequence (n :: items) :: r }
  | .mapping entries none :: r => { g with stack := .mapping entries (some n) :: r }
  | .mapping entries (some k) :: r => { g with stack := .mapping ((k, n) :: entries) none :: r }

/-- Remember what an anchor stands for. -/
def anchored (g : Growth) (anchor : Option String) (n : Node) : Growth :=
  match anchor with
  | none => g
  | some a => { g with anchors := g.anchors.insert a n }

/-- Take a step of the walk through a document. -/
def step (g : Growth) : Event → Growth
  | .scalar a text plain => (g.anchored a (.scalar text plain)).add (.scalar text plain)
  | .alias name =>
    match g.anchors.get? name with
    | some n => g.add n
    | none => { g with broken := true }
  | .sequenceStart a => { g.anchored a .reference with stack := .sequence [] :: g.stack }
  | .mappingStart a => { g.anchored a .reference with stack := .mapping [] none :: g.stack }
  | .sequenceEnd | .mappingEnd =>
    match g.stack with
    | .sequence items :: r => { g with stack := r }.add (.sequence items.reverse)
    | .mapping entries _ :: r => { g with stack := r }.add (.mapping entries.reverse)
    | [] => g

end Growth

/-- The tree of a document. -/
def Node.ofEvents? (es : List Event) : Option Node :=
  let g := es.foldl Growth.step ⟨[], none, .empty, false⟩
  if g.broken then none else g.root

/-- The tree of the only document of a text: no tree if the text has no document, and nothing at all
if the text is not well-formed. -/
def Node.read? (cs : List Char) : Option (Option Node) :=
  match (Token.scan? cs).bind readDocument with
  | none => none
  | some none => some none
  | some (some es) => (Node.ofEvents? es).map some

/-- Whether a node is an empty plain scalar, which stands for nothing at all. -/
def Node.isVoid : Node → Bool
  | .scalar text plain => plain && text.isEmpty
  | _ => false

end DeviceHost.Yaml
