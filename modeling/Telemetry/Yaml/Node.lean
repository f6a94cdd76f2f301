import Telemetry.Yaml.Token

/-!
# Nodes of a document

A document is one node: a scalar, a sequence of nodes, or a mapping of nodes to nodes.  An alias
is the node whose anchor it names.
-/

namespace Telemetry.Yaml

/-- A node with the tag it was given, in full. -/
inductive Node
  | scalar (tag : Option String) (plain : Bool) (text : String)
  | sequence (tag : Option String) (items : List Node)
  | mapping (tag : Option String) (entries : List (Node × Node))

namespace Node

def empty : Node := .scalar none true ""

/-- Add the first entry of an unfinished mapping. -/
def consEntry (entry : Node × Node) (entries : List (Node × Node)) : List (Node × Node) :=
  entry :: entries

/-- What is known while nodes are read. -/
structure Reading where
  tokens : List Token
  /-- What the handles of tags stand for. -/
  handles : List (String × String)
  /-- The nodes with an anchor.  A node that is still being read is there as an empty collection. -/
  anchors : List (String × Node) := []

/-- Reading may fail. -/
abbrev Reader := StateT Reading Option

/-- The first token that is left. -/
def peek : Reader (Option Token) := do pure (← get).tokens.head?

def drop : Reader Unit := modify fun r => { r with tokens := r.tokens.drop 1 }

def refuse : Reader α := failure

def fullTag (tag : TagText) : Reader String := do
  match tag.handle with
  | none => pure tag.suffix
  | some handle =>
      match (← get).handles.lookup handle with
      | some start => pure (start ++ tag.suffix)
      | none => refuse

/-- Read the anchor and the tag of a node, in either order. -/
def properties : Reader (Option String × Option String) := do
  match ← peek with
  | some (.anchor name) => do
      drop
      match ← peek with
      | some (.tag tag) => do
          drop
          pure (some name, some (← fullTag tag))
      | _ => pure (some name, none)
  | some (.tag tag) => do
      drop
      match ← peek with
      | some (.anchor name) => do
          drop
          pure (some name, some (← fullTag tag))
      | _ => pure (none, some (← fullTag tag))
  | _ => pure (none, none)

def remember (anchor : Option String) (node : Node) : Reader Unit :=
  match anchor with
  | none => pure ()
  | some name => modify fun r => { r with anchors := (name, node) :: r.anchors }

/-- An anchor must be new. -/
def checkAnchor (anchor : Option String) : Reader Unit := do
  match anchor with
  | none => pure ()
  | some name => if ((← get).anchors.lookup name).isSome then refuse

/-- A scalar with its tag.  The exclamation mark alone is no tag, and makes any scalar plain. -/
def scalarOf (tag : Option String) (plain : Bool) (text : String) : Node :=
  if tag = some "!" then .scalar none true text else .scalar tag plain text

def collectionTag (tag : Option String) : Option String := if tag = some "!" then none else tag

mutual

/-- Read a node.  Block collections may be refused, and entries without an indentation of their
own may be read as a sequence. -/
def node (block indentless : Bool) : Nat → Reader Node
  | 0 => refuse
  | fuel + 1 => do
      match ← peek with
      | some (.alias name) => do
          drop
          match (← get).anchors.lookup name with
          | some n => pure n
          | none => refuse
      | _ => do
          let (anchor, tag) ← properties
          checkAnchor anchor
          let collection (placeholder : Node) (read : Reader Node) : Reader Node := do
            remember anchor placeholder
            let n ← read
            remember anchor n
            pure n
          let sequence (read : Reader (List Node)) : Reader Node :=
            collection (.sequence none []) do pure (.sequence (collectionTag tag) (← read))
          let mapping (read : Reader (List (Node × Node))) : Reader Node :=
            collection (.mapping none []) do pure (.mapping (collectionTag tag) (← read))
          match ← peek with
          | some (.scalar plain text) => do
              drop
              let n := scalarOf tag plain text
              remember anchor n
              pure n
          | some .flowSequenceStart => do
              drop
              sequence (flowItems true fuel)
          | some .flowMappingStart => do
              drop
              mapping (flowEntries true fuel)
          | other =>
              if indentless && other matches some .blockEntry then
                sequence (indentlessItems fuel)
              else if block && other matches some .blockSequenceStart then do
                drop
                sequence (blockItems fuel)
              else if block && other matches some .blockMappingStart then do
                drop
                mapping (blockEntries fuel)
              else if anchor.isSome || tag.isSome then do
                let n := scalarOf tag true ""
                remember anchor n
                pure n
              else refuse

def blockItems : Nat → Reader (List Node)
  | 0 => refuse
  | fuel + 1 => do
      match ← peek with
      | some .blockEntry => do
          drop
          let first ← match ← peek with
            | some .blockEntry | some .blockEnd => pure empty
            | _ => node true false fuel
          pure (first :: (← blockItems fuel))
      | some .blockEnd => do
          drop
          pure []
      | _ => refuse

/-- Read the items of a sequence that is indented like the mapping around it. -/
def indentlessItems : Nat → Reader (List Node)
  | 0 => refuse
  | fuel + 1 => do
      match ← peek with
      | some .blockEntry => do
          drop
          let first ← match ← peek with
            | some .blockEntry | some .key | some .value | some .blockEnd => pure empty
            | _ => node true false fuel
          pure (first :: (← indentlessItems fuel))
      | _ => pure []

def blockEntries : Nat → Reader (List (Node × Node))
  | 0 => refuse
  | fuel + 1 => do
      match ← peek with
      | some .key => do
          drop
          let part : Reader Node := do
            match ← peek with
            | some .key | some .value | some .blockEnd => pure empty
            | _ => node true true fuel
          let key ← part
          let value ← match ← peek with
            | some .value => do
                drop
                part
            | _ => pure empty
          pure ((key, value) :: (← blockEntries fuel))
      | some .blockEnd => do
          drop
          pure []
      | _ => refuse

/-- Read the items of a flow sequence; before all but the first there is a comma. -/
def flowItems (first : Bool) : Nat → Reader (List Node)
  | 0 => refuse
  | fuel + 1 => do
      match ← peek with
      | some .flowSequenceEnd => do
          drop
          pure []
      | _ => do
          unless first do
            match ← peek with
            | some .flowEntry => drop
            | _ => refuse
          match ← peek with
          | some .flowSequenceEnd => do
              drop
              pure []
          | some .key => do
              drop
              let key ← match ← peek with
                | some .value | some .flowEntry | some .flowSequenceEnd => pure empty
                | _ => node false false fuel
              let value ← match ← peek with
                | some .value => do
                    drop
                    match ← peek with
                    | some .flowEntry | some .flowSequenceEnd => pure empty
                    | _ => node false false fuel
                | _ => pure empty
              pure (.mapping none [(key, value)] :: (← flowItems false fuel))
          | _ => do
              let item ← node false false fuel
              pure (item :: (← flowItems false fuel))

/-- Read the entries of a flow mapping; before all but the first there is a comma. -/
def flowEntries (first : Bool) : Nat → Reader (List (Node × Node))
  | 0 => refuse
  | fuel + 1 => do
      match ← peek with
      | some .flowMappingEnd => do
          drop
          pure []
      | _ => do
          unless first do
            match ← peek with
            | some .flowEntry => drop
            | _ => refuse
          match ← peek with
          | some .flowMappingEnd => do
              drop
              pure []
          | some .key => do
              drop
              let key ← match ← peek with
                | some .value | some .flowEntry | some .flowMappingEnd => pure empty
                | _ => node false false fuel
              let value ← match ← peek with
                | some .value => do
                    drop
                    match ← peek with
                    | some .flowEntry | some .flowMappingEnd => pure empty
                    | _ => node false false fuel
                | _ => pure empty
              pure ((key, value) :: (← flowEntries false fuel))
          | _ => do
              let key ← node false false fuel
              pure ((key, empty) :: (← flowEntries false fuel))

end

/-! ### Documents -/

/-- What the handles stand for unless directives say otherwise. -/
def standardHandles : List (String × String) := [("!", "!"), ("!!", "tag:yaml.org,2002:")]

/-- Read the directives of a document: one version at most, and one meaning for each handle. -/
def directives (versioned : Bool) (handles : List (String × String)) :
    List Token → Option (List (String × String) × List Token)
  | .directive (.version major _) :: rest =>
      if versioned || major ≠ 1 then none else directives true handles rest
  | .directive (.handle handle start) :: rest =>
      if (handles.lookup handle).isSome then none
      else directives versioned (handles ++ [(handle, start)]) rest
  | .directive .other :: rest => directives versioned handles rest
  | tokens => some (handles, tokens)

/-- Read a node from the tokens of a document; each token takes a few steps at most. -/
def read? (handles : List (String × String)) (tokens : List Token) : Option (Node × List Token) :=
  (node true false (4 * tokens.length + 4) ⟨tokens, handles ++ standardHandles, []⟩).map
    fun (n, r) => (n, r.tokens)

/-- Read the content of a document after its mark. -/
def content? (handles : List (String × String)) (tokens : List Token) :
    Option (Node × List Token) :=
  match tokens with
  | [] | .directive _ :: _ | .documentStart :: _ | .documentEnd :: _ => some (empty, tokens)
  | _ => read? handles tokens

/-- The node of the only document; there is none in a text without documents. -/
def ofTokens? (tokens : List Token) : Option (Option Node) :=
  let document : Option (Option Node × List Token) :=
    match tokens with
    | [] => some (none, [])
    | .directive _ :: _ | .documentStart :: _ =>
        match directives false [] tokens with
        | some (handles, .documentStart :: rest) =>
            (content? handles rest).map fun r => (some r.1, r.2)
        | _ => none
    | _ => (read? [] tokens).map fun r => (some r.1, r.2)
  match document with
  | some (n, rest) => if rest.all (· matches .documentEnd) then some n else none
  | none => none

end Node
end Telemetry.Yaml
