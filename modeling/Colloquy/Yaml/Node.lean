import Colloquy.Yaml.Token

/-!
# Nodes of a YAML document

The tokens of a text form one document, a tree of scalars, sequences and mappings.
An alias stands for the node with its anchor.  Collections may lie in each other
128 deep, counted through aliases, and the aliases that are met when all of them
are followed may be a hundred times as many as the parts of the document.
-/

namespace Colloquy
namespace Yaml

inductive Node where
  | scalar (tag : Option String) (plain : Bool) (text : String)
  | sequence (tag : Option String) (items : List Node)
  | mapping (tag : Option String) (entries : List (Node × Node))

/-- What following all aliases in a node comes to. -/
structure Extent where
  /-- The aliases met. -/
  aliases : Nat := 0
  /-- The collections that lie in each other. -/
  depth : Nat := 0

namespace Extent

def beside (a b : Extent) : Extent where
  aliases := a.aliases + b.aliases
  depth := max a.depth b.depth

def inside (e : Extent) : Extent :=
  { e with depth := e.depth + 1 }

def throughAlias (e : Extent) : Extent :=
  { e with aliases := e.aliases + 1 }

end Extent

structure Anchored where
  node : Node
  extent : Extent

/-- What is known while the tokens of a document are read. -/
structure Reading where
  tokens : List Token
  /-- The number of each anchor, latest first. -/
  anchors : List (List Char × Nat) := []
  /-- The nodes of the anchors that are complete. -/
  complete : List (Nat × Anchored) := []
  /-- The number of anchors so far. -/
  anchorCount : Nat := 0
  /-- The number of parts of the document so far: each scalar, each alias and each
  start and end of a collection is one. -/
  parts : Nat := 0
  /-- What the handles of tags stand for. -/
  handles : List (List Char × List Char) := []

namespace Reading

def peek? (r : Reading) : Option Token :=
  r.tokens.head?

def drop (r : Reading) : Reading :=
  { r with tokens := r.tokens.tail }

def addParts (r : Reading) (n : Nat) : Reading :=
  { r with parts := r.parts + n }

def defaultHandles : List (List Char × List Char) :=
  [(['!'], ['!']), (['!', '!'], "tag:yaml.org,2002:".toList)]

def resolveTag (r : Reading) (t : TagName) : Except Error String :=
  if t.handle.isEmpty then .ok (String.ofList t.suffix)
  else
    match (r.handles ++ defaultHandles).find? fun h => h.1 == t.handle with
    | some (_, expansion) => .ok (String.ofList (expansion ++ t.suffix))
    | none => .error .badTag

/-- What stands before the content of a node. -/
structure Properties where
  anchor : Option Nat := none
  tag : Option String := none

def Properties.isEmpty (p : Properties) : Bool :=
  p.anchor.isNone && p.tag.isNone

def openAnchor (r : Reading) (name : List Char) : Nat × Reading :=
  (r.anchorCount,
    { r with anchors := (name, r.anchorCount) :: r.anchors, anchorCount := r.anchorCount + 1 })

def properties (r : Reading) : Except Error (Properties × Reading) := do
  match r.tokens with
  | .anchor name :: .tag t :: rest =>
      let tag <- r.resolveTag t
      let (n, r) := r.openAnchor name
      return (⟨some n, some tag⟩, { r with tokens := rest })
  | .anchor name :: rest =>
      let (n, r) := r.openAnchor name
      return (⟨some n, none⟩, { r with tokens := rest })
  | .tag t :: .anchor name :: rest =>
      let tag <- r.resolveTag t
      let (n, r) := r.openAnchor name
      return (⟨some n, some tag⟩, { r with tokens := rest })
  | .tag t :: rest =>
      let tag <- r.resolveTag t
      return (⟨none, some tag⟩, { r with tokens := rest })
  | _ => return ({}, r)

/-- The node of an alias; one to a node that is not complete never ends. -/
def follow (r : Reading) (name : List Char) : Except Error (Anchored × Reading) :=
  match r.anchors.find? fun a => a.1 == name with
  | none => .error .unknownAnchor
  | some (_, n) =>
      match r.complete.find? fun c => c.1 == n with
      | none => .error .tooDeep
      | some (_, a) =>
          .ok ({ a with extent := a.extent.throughAlias }, (r.addParts 1).drop)

/-- Completes a node: an anchor before it now stands for it. -/
def close (r : Reading) (p : Properties) (node : Node) (extent : Extent) :
    Anchored × Reading :=
  let a : Anchored := ⟨node, extent⟩
  match p.anchor with
  | some n => (a, { r with complete := (n, a) :: r.complete })
  | none => (a, r)

def emptyNode : Anchored :=
  ⟨.scalar none true "", {}⟩

/-- Nothing is written where a node may stand. -/
def absent (r : Reading) : Anchored × Reading :=
  (emptyNode, r.addParts 1)

/-- A written scalar.  The tag `!` alone says nothing about it. -/
def scalarNode (tag : Option String) (plain : Bool) (text : List Char) : Node :=
  match tag with
  | some "!" => .scalar none plain (String.ofList text)
  | _ => .scalar tag plain (String.ofList text)

def isOneOf (t : Option Token) (stop : List Token) : Bool :=
  match t with
  | none => true
  | some t => stop.contains t

/-!
# Collections

Each reader stands behind the token that opens its collection and answers the items
in order with their common extent.
-/

abbrev Items := List Node × Extent

abbrev Entries := List (Node × Node) × Extent

def Items.cons (a : Anchored) (r : Items) : Items :=
  (a.node :: r.1, a.extent.beside r.2)

def Entries.cons (k v : Anchored) (r : Entries) : Entries :=
  ((k.node, v.node) :: r.1, (k.extent.beside v.extent).beside r.2)

mutual

/-- One node.  `inBlock` says that block collections may stand here, `indentless`
that a sequence may stand here whose entries open no block. -/
def node (inBlock indentless : Bool) : Nat -> Reading -> Except Error (Anchored × Reading)
  | 0, _ => .error .stepsExhausted
  | steps + 1, r =>
      match r.peek? with
      | some (.alias name) => r.follow name
      | _ => do
          let (p, r) <- r.properties
          let tag := p.tag
          match r.peek? with
          | some .blockEntry =>
              if indentless then
                let ((items, extent), r) <- indentlessItems steps (r.addParts 2)
                return r.close p (.sequence tag items) extent.inside
              else if p.isEmpty then throw .unexpectedToken
              else return (r.addParts 1).close p (.scalar tag true "") {}
          | some (.scalar plain text) =>
              return (r.addParts 1).drop.close p (scalarNode tag plain text) {}
          | some .flowSequenceStart =>
              let ((items, extent), r) <- flowItems true steps (r.addParts 2).drop
              return r.close p (.sequence tag items) extent.inside
          | some .flowMappingStart =>
              let ((entries, extent), r) <- flowEntries true steps (r.addParts 2).drop
              return r.close p (.mapping tag entries) extent.inside
          | other =>
              if inBlock && other == some .blockSequenceStart then
                let ((items, extent), r) <- blockItems steps (r.addParts 2).drop
                return r.close p (.sequence tag items) extent.inside
              else if inBlock && other == some .blockMappingStart then
                let ((entries, extent), r) <- blockEntries steps (r.addParts 2).drop
                return r.close p (.mapping tag entries) extent.inside
              else if p.isEmpty then throw .unexpectedToken
              else return (r.addParts 1).close p (.scalar tag true "") {}

/-- A node, or nothing where one of `stop` follows. -/
def nodeOrAbsent (inBlock indentless : Bool) (stop : List Token) :
    Nat -> Reading -> Except Error (Anchored × Reading)
  | 0, _ => .error .stepsExhausted
  | steps + 1, r =>
      if isOneOf r.peek? stop then .ok r.absent else node inBlock indentless steps r

def blockItems : Nat -> Reading -> Except Error (Items × Reading)
  | 0, _ => .error .stepsExhausted
  | steps + 1, r =>
      match r.peek? with
      | some .blockEntry => do
          let (a, r) <- nodeOrAbsent true false [.blockEntry, .blockEnd] steps r.drop
          let (rest, r) <- blockItems steps r
          return (Items.cons a rest, r)
      | some .blockEnd => .ok (([], {}), r.drop)
      | _ => .error .unexpectedToken

def indentlessItems : Nat -> Reading -> Except Error (Items × Reading)
  | 0, _ => .error .stepsExhausted
  | steps + 1, r =>
      match r.peek? with
      | some .blockEntry => do
          let (a, r) <-
            nodeOrAbsent true false [.blockEntry, .key, .value, .blockEnd] steps r.drop
          let (rest, r) <- indentlessItems steps r
          return (Items.cons a rest, r)
      | _ => .ok (([], {}), r)

def blockEntries : Nat -> Reading -> Except Error (Entries × Reading)
  | 0, _ => .error .stepsExhausted
  | steps + 1, r =>
      match r.peek? with
      | some .key => do
          let (k, r) <- nodeOrAbsent true true [.key, .value, .blockEnd] steps r.drop
          let (v, r) <- blockValue steps r
          let (rest, r) <- blockEntries steps r
          return (Entries.cons k v rest, r)
      | some .blockEnd => .ok (([], {}), r.drop)
      | _ => .error .unexpectedToken

def blockValue : Nat -> Reading -> Except Error (Anchored × Reading)
  | 0, _ => .error .stepsExhausted
  | steps + 1, r =>
      match r.peek? with
      | some .value => nodeOrAbsent true true [.key, .value, .blockEnd] steps r.drop
      | _ => .ok r.absent

/-- The items of a sequence in flow style; all but the first follow a comma. -/
def flowItems (first : Bool) : Nat -> Reading -> Except Error (Items × Reading)
  | 0, _ => .error .stepsExhausted
  | steps + 1, r =>
      if r.peek? == some .flowSequenceEnd then .ok (([], {}), r.drop)
      else if !first && r.peek? != some .flowEntry then .error .unexpectedToken
      else do
        let r := if first then r else r.drop
        match r.peek? with
        | some .key =>
            let (k, r) <- flowPairKey steps (r.addParts 2).drop
            let (v, r) <- flowValue [.flowEntry, .flowSequenceEnd] steps r
            let extent := (k.extent.beside v.extent).inside
            let pair : Anchored := ⟨.mapping none [(k.node, v.node)], extent⟩
            let (rest, r) <- flowItems false steps r
            return (Items.cons pair rest, r)
        | some .flowSequenceEnd => return (([], {}), r.drop)
        | _ =>
            let (a, r) <- node false false steps r
            let (rest, r) <- flowItems false steps r
            return (Items.cons a rest, r)

/-- The key of a lone pair in a sequence.  Where it is missing, the token in its
place is passed over. -/
def flowPairKey : Nat -> Reading -> Except Error (Anchored × Reading)
  | 0, _ => .error .stepsExhausted
  | steps + 1, r =>
      if isOneOf r.peek? [.value, .flowEntry, .flowSequenceEnd] then .ok r.drop.absent
      else node false false steps r

/-- The value behind a key in flow style, if there is one. -/
def flowValue (stop : List Token) : Nat -> Reading -> Except Error (Anchored × Reading)
  | 0, _ => .error .stepsExhausted
  | steps + 1, r =>
      match r.peek? with
      | some .value => nodeOrAbsent false false stop steps r.drop
      | _ => .ok r.absent

def flowEntries (first : Bool) : Nat -> Reading -> Except Error (Entries × Reading)
  | 0, _ => .error .stepsExhausted
  | steps + 1, r =>
      if r.peek? == some .flowMappingEnd then .ok (([], {}), r.drop)
      else if !first && r.peek? != some .flowEntry then .error .unexpectedToken
      else do
        let r := if first then r else r.drop
        match r.peek? with
        | some .key =>
            let (k, r) <-
              nodeOrAbsent false false [.value, .flowEntry, .flowMappingEnd] steps r.drop
            let (v, r) <- flowValue [.flowEntry, .flowMappingEnd] steps r
            let (rest, r) <- flowEntries false steps r
            return (Entries.cons k v rest, r)
        | some .flowMappingEnd => return (([], {}), r.drop)
        | _ =>
            let (k, r) <- node false false steps r
            let (v, r) := r.absent
            let (rest, r) <- flowEntries false steps r
            return (Entries.cons k v rest, r)

end

/-!
# Documents
-/

/-- The directives before a document: at most one version, and each handle once. -/
def directives (version : Bool) : Nat -> Reading -> Except Error Reading
  | 0, _ => .error .stepsExhausted
  | steps + 1, r =>
      match r.peek? with
      | some (.versionDirective major minor) =>
          if version || major != 1 || (minor != 1 && minor != 2) then .error .badDirective
          else directives true steps r.drop
      | some (.tagDirective handle expansion) =>
          if r.handles.any fun h => h.1 == handle then .error .badDirective
          else
            directives version steps
              { r.drop with handles := (handle, expansion) :: r.handles }
      | _ => .ok r

def isDirective : Token -> Bool
  | .versionDirective _ _ => true
  | .tagDirective _ _ => true
  | _ => false

def skipDocumentEnds (r : Reading) : Reading :=
  { r with tokens := r.tokens.dropWhile fun t => t == .documentEnd }

/-- The content of a document behind its start marker. -/
def markedContent (steps : Nat) (r : Reading) : Except Error (Anchored × Reading) :=
  match r.peek? with
  | none => .ok r.absent
  | some t =>
      if isDirective t || t == .documentStart || t == .documentEnd then .ok r.absent
      else node true false steps r

/-- The only document of a text. -/
def document (steps : Nat) (r : Reading) : Except Error (Anchored × Reading) := do
  match r.peek? with
  | none => throw .noDocument
  | some t =>
      let (a, r) <- do
        if isDirective t || t == .documentStart then
          let r <- directives false steps r
          if r.peek? != some .documentStart then
            throw Error.unexpectedToken
          markedContent steps r.drop
        else node true false steps r
      let r := r.skipDocumentEnds
      if r.tokens.isEmpty then return (a, r) else throw .severalDocuments

end Reading

def maxDepth : Nat := 128

/-- The node of the only document in a text. -/
def Node.ofText (text : String) : Except Error Node := do
  let tokens <- tokens text.toList
  let (a, r) <- Reading.document (4 * tokens.length + 8) { tokens := tokens }
  if a.extent.depth > maxDepth then
    throw .tooDeep
  if a.extent.aliases > 100 * r.parts then
    throw .tooManyAliases
  return a.node

end Yaml
end Colloquy
