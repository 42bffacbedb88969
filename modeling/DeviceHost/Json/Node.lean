import DeviceHost.Json.Token

/-!
# The tree of a JSON document

The second pass over a document builds its tree from the lexemes. It is a machine again: it holds
the containers that are open, innermost first, and takes one lexeme at a time. So documents may be
nested to any depth, and the order of members and repeated members are kept as they stand.

A `Node` may hold numbers that are too great and texts that are no Unicode text, since unknown
members of a device document are not looked at. `Json` is a document without these faults;
`Node.json?` is the check, which also bounds the nesting.
-/

namespace DeviceHost

/-- A JSON document without faults, members in document order. -/
inductive Json
  | null
  | bool (b : Bool)
  | number (n : Json.Number)
  | string (s : String)
  | array (items : List Json)
  | object (members : List (String × Json))

namespace Json

/-- A JSON document whose numbers and texts may be faulty. -/
inductive Node
  | null
  | bool (b : Bool)
  /-- a number; `none` if it is too great -/
  | number (n : Option Number)
  /-- a text; `none` if it is no Unicode text -/
  | string (s : Option String)
  | array (items : List Node)
  | object (members : List (Option String × Node))

/-! ### Building -/

/-- A container that is still open. -/
inductive Frame
  /-- an array; its items so far, last one first -/
  | array (items : List Node)
  /-- an object that waits for the value of a key; its members so far, last one first -/
  | object (members : List (Option String × Node)) (key : Option String)

/-- What may come next. -/
inductive Build
  /-- a value -/
  | value (stack : List Frame)
  /-- the first item of an array, or its end -/
  | firstItem (stack : List Frame)
  /-- the first key of an object, or its end -/
  | firstKey (stack : List Frame)
  /-- a key -/
  | nextKey (members : List (Option String × Node)) (stack : List Frame)
  /-- the colon after a key -/
  | colon (members : List (Option String × Node)) (key : Option String) (stack : List Frame)
  /-- a comma after an item, or the end of the array -/
  | afterItem (items : List Node) (stack : List Frame)
  /-- a comma after a member, or the end of the object -/
  | afterMember (members : List (Option String × Node)) (stack : List Frame)
  /-- nothing: the document is complete -/
  | done (node : Node)
  /-- nothing: a lexeme was out of place -/
  | failed

/-- Hand a finished value to the container around it. -/
def Build.deliver (n : Node) : List Frame → Build
  | [] => .done n
  | .array items :: stack => .afterItem (n :: items) stack
  | .object members k :: stack => .afterMember ((k, n) :: members) stack

/-- Take a lexeme where a value must begin. -/
def Build.begin (stack : List Frame) : Token → Build
  | .braceOpen => .firstKey stack
  | .bracketOpen => .firstItem stack
  | .null => .deliver .null stack
  | .bool b => .deliver (.bool b) stack
  | .number n => .deliver (.number n) stack
  | .text s => .deliver (.string s) stack
  | _ => .failed

/-- Take one lexeme. -/
def Build.step : Build → Token → Build
  | .value stack, t => .begin stack t
  | .firstItem stack, .bracketClose => .deliver (.array []) stack
  | .firstItem stack, t => .begin (.array [] :: stack) t
  | .firstKey stack, .braceClose => .deliver (.object []) stack
  | .firstKey stack, .text k => .colon [] k stack
  | .nextKey members stack, .text k => .colon members k stack
  | .colon members k stack, .colon => .value (.object members k :: stack)
  | .afterItem items stack, .comma => .value (.array items :: stack)
  | .afterItem items stack, .bracketClose => .deliver (.array items.reverse) stack
  | .afterMember members stack, .comma => .nextKey members stack
  | .afterMember members stack, .braceClose => .deliver (.object members.reverse) stack
  | _, _ => .failed

/-- The tree of lexemes. -/
def Node.ofTokens? (ts : List Token) : Option Node :=
  match ts.foldl Build.step (.value []) with
  | .done n => some n
  | _ => none

/-- The tree of a document. -/
def Node.read? (document : List (Option Char)) : Option Node :=
  (Token.scan? document).bind Node.ofTokens?

/-! ### The check for faults -/

/-- How deep arrays and objects may be nested. -/
def depthLimit : Nat := 127

mutual

/-- The document of a tree, if it has no faults and is nested at most `depth` levels. -/
def Node.jsonWithin? (depth : Nat) : Node → Option Json
  | .null => some .null
  | .bool b => some (.bool b)
  | .number n => n.map .number
  | .string s => s.map .string
  | .array items =>
    match depth with
    | 0 => none
    | d + 1 => (itemsWithin? d items).map .array
  | .object members =>
    match depth with
    | 0 => none
    | d + 1 => (membersWithin? d members).map .object

/-- The items of an array, if none has faults. -/
def itemsWithin? (depth : Nat) : List Node → Option (List Json)
  | [] => some []
  | n :: r =>
    match n.jsonWithin? depth with
    | none => none
    | some j => (itemsWithin? depth r).map (j :: ·)

/-- The members of an object, if none has faults. -/
def membersWithin? (depth : Nat) : List (Option String × Node) → Option (List (String × Json))
  | [] => some []
  | (k, n) :: r =>
    match k, n.jsonWithin? depth with
    | some k, some j => (membersWithin? depth r).map ((k, j) :: ·)
    | _, _ => none

end

/-- The document of a tree, if it has no faults. -/
def Node.json? (n : Node) : Option Json := n.jsonWithin? depthLimit

end Json

/-- The document that characters spell, `none` among them being an octet that is no UTF-8. -/
def Json.read? (document : List (Option Char)) : Option Json :=
  (Json.Node.read? document).bind Json.Node.json?

/-- The document that a text spells. -/
def Json.ofText? (s : String) : Option Json :=
  Json.read? (s.toList.map some)

end DeviceHost
