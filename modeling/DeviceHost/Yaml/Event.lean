import DeviceHost.Yaml.Token

/-!
# The structure of YAML documents

The lexemes of a document are put into the order in which a tree is walked: a collection starts, its
parts follow, and it ends. A reader with a stack of what it still expects turns one into the other.
Where a value or a key is left out, an empty plain scalar stands for it.
-/

namespace DeviceHost.Yaml

/-- A step of the walk through a document. -/
inductive Event
  /-- a scalar, the name of its anchor, and whether it is plain -/
  | scalar (anchor : Option String) (text : String) (plain : Bool)
  /-- a collection that was given an anchor earlier -/
  | alias (name : String)
  | sequenceStart (anchor : Option String)
  | sequenceEnd
  | mappingStart (anchor : Option String)
  | mappingEnd
  deriving Repr, DecidableEq

/-- What stands for a part that is left out. -/
def Event.empty : Event := .scalar none "" true

/-- What a reader expects. -/
inductive Goal
  /-- a node; whether it may be a block collection, and whether items may stand at the column of
  keys -/
  | node (block indentless : Bool)
  /-- the next item of a block sequence, or its end -/
  | blockItem
  /-- the next item of a sequence at the column of the keys around it, or its end -/
  | indentlessItem
  /-- the next key of a block mapping, or its end -/
  | blockKey
  /-- the value of a key of a block mapping -/
  | blockValue
  /-- the next item of a sequence in brackets, or its end -/
  | flowItem (first : Bool)
  /-- the key of a pair that is an item of a sequence in brackets -/
  | pairKey
  /-- the value of such a pair -/
  | pairValue
  /-- the end of such a pair -/
  | pairEnd
  /-- the next key of a mapping in braces, or its end -/
  | flowKey (first : Bool)
  /-- the value of a key of a mapping in braces; `bare` if the key had no mark -/
  | flowValue (bare : Bool)
  deriving Repr, DecidableEq

/-- A walk under way. -/
structure Walk where
  /-- the steps so far, last one first -/
  events : List Event
  /-- what is expected, next one first -/
  goals : List Goal
  /-- the lexemes to come -/
  tokens : List Token
  deriving Repr, DecidableEq

namespace Walk

/-- Add a step. -/
def push (w : Walk) (e : Event) : Walk := { w with events := e :: w.events }

/-- Expect something before all else. -/
def expect (w : Walk) (g : Goal) : Walk := { w with goals := g :: w.goals }

/-- Go on with other lexemes. -/
def goOn (w : Walk) (ts : List Token) : Walk := { w with tokens := ts }

/-- The anchor and the tag of a node, in either order, and the lexemes after them. -/
def properties : List Token → Option String × Option String × List Token
  | .anchor a :: .tag t :: r => (some a, some t, r)
  | .tag t :: .anchor a :: r => (some a, some t, r)
  | .anchor a :: r => (some a, none, r)
  | .tag t :: r => (none, some t, r)
  | r => (none, none, r)

/-- Whether an abbreviation of tags is known. -/
def isKnownTag (handles : List String) (tag : Option String) : Bool :=
  match tag with
  | none => true
  | some h => h == "" || h == "!" || h == "!!" || handles.contains h

/-- Read a node. -/
def takeNode (handles : List String) (w : Walk) (block indentless : Bool) : Option Walk :=
  match w.tokens with
  | .alias n :: r => some ((w.push (.alias n)).goOn r)
  | tokens =>
    let (anchor, tag, r) := properties tokens
    if !isKnownTag handles tag then none
    else
      let bare := anchor.isNone && tag.isNone
      let omitted := if bare then none else some ((w.push (.scalar anchor "" true)).goOn r)
      match r with
      | .blockEntry :: _ =>
        if indentless then some (((w.push (.sequenceStart anchor)).goOn r).expect .indentlessItem)
        else omitted
      | .scalar text plain :: r => some ((w.push (.scalar anchor text plain)).goOn r)
      | .flowSequenceStart :: r =>
        some (((w.push (.sequenceStart anchor)).goOn r).expect (.flowItem true))
      | .flowMappingStart :: r =>
        some (((w.push (.mappingStart anchor)).goOn r).expect (.flowKey true))
      | .blockSequenceStart :: r =>
        if block then some (((w.push (.sequenceStart anchor)).goOn r).expect .blockItem)
        else omitted
      | .blockMappingStart :: r =>
        if block then some (((w.push (.mappingStart anchor)).goOn r).expect .blockKey)
        else omitted
      | _ => omitted

/-- Read a node, unless one of some lexemes shows that it is left out. -/
def nodeUnless (w : Walk) (enders : List Token) (block indentless : Bool) : Walk :=
  match w.tokens with
  | t :: _ =>
    if enders.contains t then w.push .empty else w.expect (.node block indentless)
  | [] => w.expect (.node block indentless)

/-- Meet what is expected. -/
def meet (handles : List String) (w : Walk) : Goal → Option Walk
  | .node block indentless => takeNode handles w block indentless
  | .blockItem =>
    match w.tokens with
    | .blockEntry :: r =>
      some (((w.goOn r).expect .blockItem).nodeUnless [.blockEntry, .blockEnd] true false)
    | .blockEnd :: r => some ((w.push .sequenceEnd).goOn r)
    | _ => none
  | .indentlessItem =>
    match w.tokens with
    | .blockEntry :: r =>
      some (((w.goOn r).expect .indentlessItem).nodeUnless [.blockEntry, .key, .value, .blockEnd]
        true false)
    | _ => some (w.push .sequenceEnd)
  | .blockKey =>
    match w.tokens with
    | .key :: r =>
      some (((w.goOn r).expect .blockValue).nodeUnless [.key, .value, .blockEnd] true true)
    | .blockEnd :: r => some ((w.push .mappingEnd).goOn r)
    | _ => none
  | .blockValue =>
    match w.tokens with
    | .value :: r =>
      some (((w.goOn r).expect .blockKey).nodeUnless [.key, .value, .blockEnd] true true)
    | _ => some ((w.push .empty).expect .blockKey)
  | .flowItem first =>
    let item (tokens : List Token) : Option Walk :=
      match tokens with
      | .flowSequenceEnd :: r => some ((w.push .sequenceEnd).goOn r)
      | .key :: r => some (((w.push (.mappingStart none)).goOn r).expect .pairKey)
      | r => some (((w.goOn r).expect (.flowItem false)).expect (.node false false))
    match first, w.tokens with
    | false, .flowEntry :: r => item r
    | false, .flowSequenceEnd :: r => item (.flowSequenceEnd :: r)
    | false, _ => none
    | true, r => item r
  | .pairKey =>
    match w.tokens with
    | [] => none
    | t :: r =>
      if [Token.value, .flowEntry, .flowSequenceEnd].contains t then
        some (((w.push .empty).goOn r).expect .pairValue)
      else some ((w.expect .pairValue).expect (.node false false))
  | .pairValue =>
    match w.tokens with
    | .value :: r =>
      some (((w.goOn r).expect .pairEnd).nodeUnless [.flowEntry, .flowSequenceEnd] false false)
    | _ => some ((w.push .empty).expect .pairEnd)
  | .pairEnd => some ((w.push .mappingEnd).expect (.flowItem false))
  | .flowKey first =>
    let key (tokens : List Token) : Option Walk :=
      match tokens with
      | .flowMappingEnd :: r => some ((w.push .mappingEnd).goOn r)
      | .key :: r =>
        some (((w.goOn r).expect (.flowValue false)).nodeUnless
          [.value, .flowEntry, .flowMappingEnd] false false)
      | r => some (((w.goOn r).expect (.flowValue true)).expect (.node false false))
    match first, w.tokens with
    | false, .flowEntry :: r => key r
    | false, .flowMappingEnd :: r => key (.flowMappingEnd :: r)
    | false, _ => none
    | true, r => key r
  | .flowValue bare =>
    match bare, w.tokens with
    | false, .value :: r =>
      some (((w.goOn r).expect (.flowKey false)).nodeUnless
        [.flowEntry, .flowMappingEnd] false false)
    | _, _ => some ((w.push .empty).expect (.flowKey false))

/-- Go on until nothing is expected any more: the steps, and the lexemes after the document. -/
def run (handles : List String) : Nat → Walk → Option (List Event × List Token)
  | 0, _ => none
  | fuel + 1, w =>
    match w.goals with
    | [] => some (w.events.reverse, w.tokens)
    | g :: gs =>
      match meet handles { w with goals := gs } g with
      | none => none
      | some w => run handles fuel w

end Walk

/-! ### Documents -/

/-- What the directives before a document say: whether a version was given, and the abbreviations of
tags. Versions other than 1.1 and 1.2 and repeated directives are refused. -/
def readDirectives (version : Bool) (handles : List String) :
    List Token → Option (List String × List Token)
  | .version major minor :: r =>
    if version || major != 1 || (minor != 1 && minor != 2) then none
    else readDirectives true handles r
  | .tagHandle h :: r =>
    if handles.contains h then none else readDirectives version (h :: handles) r
  | r => some (handles, r)

/-- Whether a document that starts explicitly has no content before this lexeme. -/
def isContentFree : List Token → Bool
  | [] => true
  | .version .. :: _ => true
  | .tagHandle _ :: _ => true
  | .documentStart :: _ => true
  | .documentEnd :: _ => true
  | _ => false

/-- The steps through the content of a document, and the lexemes after it. Every lexeme is expected
by few goals, which bounds the number of steps. -/
def readContent (handles : List String) (ts : List Token) : Option (List Event × List Token) :=
  Walk.run handles (8 * (ts.length + 1)) ⟨[], [.node true false], ts⟩

/-- The steps through the only document of a text; none if the text has no document, which is not
the same as an empty one. Further documents are refused. -/
def readDocument (ts : List Token) : Option (Option (List Event)) :=
  let content : Option (Option (List Event) × List Token) :=
    match ts with
    | [] => some (none, [])
    | ts =>
      match readDirectives false [] ts with
      | none => none
      | some (handles, .documentStart :: r) =>
        if isContentFree r then some (some [.empty], r)
        else (readContent handles r).map fun c => (some c.1, c.2)
      | some (handles, r) =>
        if r.length = ts.length then (readContent handles r).map fun c => (some c.1, c.2) else none
  match content with
  | none => none
  | some (events, r) => if (r.dropWhile (· == .documentEnd)).isEmpty then some events else none

end DeviceHost.Yaml
