import DroneSession.Yaml.Lexer
import DroneSession.Yaml.Node

namespace DroneSession

/-!
# Reading a document

`Document.ofTokens?` builds the tree of a document from its tokens.  Anchors are numbered in the
order in which they appear; a name that is given again is renumbered by the count of names so far,
and of two nodes with one number the later one counts.
-/

namespace Yaml

/-- The tokens still to be read and what was declared in front of them. -/
structure Assembly where
  tokens : List Token
  /-- The handles of tags and what they stand for. -/
  handles : List (String × Bytes)
  /-- The names of anchors and their numbers. -/
  names : List (String × Nat)
  anchored : List AnchoredNode

/-- A step of reading a document, which may fail. -/
abbrev Assemble (α : Type) : Type :=
  StateT Assembly Option α

namespace Assembly

/-- The next token, which stays there. -/
def peek : Assemble (Option Token) :=
  return (← get).tokens.head?

/-- Go on to the token after the next one. -/
def skip : Assemble Unit :=
  modify fun assembly => { assembly with tokens := assembly.tokens.tail }

/-- Give up, as at a token that cannot stand where it does. -/
def refuse {α : Type} : Assemble α :=
  fun _ => none

/-- Whether the next token is one of some. -/
def nextIsOneOf (tokens : List Token) : Assemble Bool :=
  return (← peek).any fun token => tokens.contains token

/-- Number the anchor of a node that starts here. -/
def declareAnchor (name : String) : Assemble Nat := do
  let assembly ← get
  let number := assembly.names.length
  let others := assembly.names.filter fun entry => entry.1 != name
  set { assembly with names := (name, number) :: others }
  return number

/-- Keep a node under the number of its anchor, unless a node that started later has it. -/
def keepAnchored (entry : AnchoredNode) : Assemble Unit :=
  modify fun assembly =>
    let same := fun (other : AnchoredNode) => other.anchor == entry.anchor
    if assembly.anchored.any fun other => same other && other.remaining < entry.remaining then
      assembly
    else
      { assembly with
        anchored := entry :: assembly.anchored.filter fun other => !same other }

/-- The number that an alias refers to. -/
def resolveAlias (name : String) : Assemble Node := do
  match (← get).names.find? fun entry => entry.1 == name with
  | none => refuse
  | some (_, number) => return .alias number

/-- Resolve the handle of a tag by the directives of the document. -/
def resolveTag
    (handle : String)
    (suffix : Bytes) :
    Assemble Tag := do
  if handle.isEmpty then
    return .ofOctets suffix
  else
    match (← get).handles.find? fun entry => entry.1 == handle with
    | none => refuse
    | some (_, expansion) => return .ofOctets (expansion ++ suffix)

/-- Read an anchor if there is one. -/
def anchor : Assemble (Option String) := do
  match ← peek with
  | some (.anchor name) => skip; return some name
  | _ => return none

/-- Read a tag if there is one. -/
def tag : Assemble (Option (String × Bytes)) := do
  match ← peek with
  | some (.tag handle suffix) => skip; return some (handle, suffix)
  | _ => return none

/-- Read the anchor and the tag of a node in either order. -/
def properties : Assemble (Option String × Option (String × Bytes)) := do
  match ← anchor with
  | some name => return (some name, ← tag)
  | none =>
      match ← tag with
      | some tag => return (← anchor, some tag)
      | none => return (none, none)

mutual

/--
Read a node; a block may stand inside a block, and behind a key a sequence without indentation.
-/
def node
    (block unindented : Bool) :
    (fuel : Nat) → Assemble Node
  | 0 => refuse
  | fuel + 1 => do
      match ← peek with
      | some (.alias name) =>
          skip
          resolveAlias name
      | _ =>
          let (anchor, tag) ← properties
          let tag ← tag.mapM fun (handle, suffix) => resolveTag handle suffix
          let number ← anchor.mapM declareAnchor
          let assembly ← get
          let node ← content block unindented (anchor.isSome || tag.isSome) tag fuel
          match number with
          | none => return node
          | some number =>
              keepAnchored ⟨number, assembly.tokens.length, node⟩
              return node

/-- Read what follows the properties of a node, which may be nothing if there are any. -/
def content
    (block unindented optional : Bool)
    (tag : Option Tag) :
    (fuel : Nat) → Assemble Node
  | 0 => refuse
  | fuel + 1 => do
      match ← peek, block with
      | some (.scalar style text), _ =>
          skip
          return .scalar tag style text
      | some .flowSequenceStart, _ =>
          skip
          return .sequence tag (← flowItems true fuel)
      | some .flowMappingStart, _ =>
          skip
          return .mapping tag (← flowEntries true fuel)
      | some .blockSequenceStart, true =>
          skip
          return .sequence tag (← blockItems fuel)
      | some .blockMappingStart, true =>
          skip
          return .mapping tag (← blockEntries fuel)
      | token, _ =>
          if unindented && token == some .blockEntry then
            return .sequence tag (← unindentedItems fuel)
          else if optional then
            return .scalar tag .plain ""
          else
            refuse

/-- Read a node, or nothing in front of one of several tokens. -/
def nodeUnless
    (block unindented : Bool)
    (terminators : List Token) :
    (fuel : Nat) → Assemble Node
  | 0 => refuse
  | fuel + 1 => do
      if ← nextIsOneOf terminators then
        return .absent
      else
        node block unindented fuel

/-- Read the items of an indented list and the end of its block. -/
def blockItems : (fuel : Nat) → Assemble (List Node)
  | 0 => refuse
  | fuel + 1 => do
      match ← peek with
      | some .blockEntry =>
          skip
          let item ← nodeUnless true false [.blockEntry, .blockEnd] fuel
          return item :: (← blockItems fuel)
      | some .blockEnd =>
          skip
          return []
      | _ => refuse

/-- Read the items of a sequence that is not indented and ends with the entry around it. -/
def unindentedItems : (fuel : Nat) → Assemble (List Node)
  | 0 => refuse
  | fuel + 1 => do
      match ← peek with
      | some .blockEntry =>
          skip
          let item ← nodeUnless true false [.blockEntry, .key, .value, .blockEnd] fuel
          return item :: (← unindentedItems fuel)
      | _ => return []

/-- Read the entries of a mapping and the end of its block. -/
def blockEntries : (fuel : Nat) → Assemble (List (Node × Node))
  | 0 => refuse
  | fuel + 1 => do
      match ← peek with
      | some .key =>
          skip
          let key ← nodeUnless true true [.key, .value, .blockEnd] fuel
          let value ← entryValue true [.key, .value, .blockEnd] fuel
          return (key, value) :: (← blockEntries fuel)
      | some .blockEnd =>
          skip
          return []
      | _ => refuse

/-- Read the value behind a key, if there is one. -/
def entryValue
    (block : Bool)
    (terminators : List Token) :
    (fuel : Nat) → Assemble Node
  | 0 => refuse
  | fuel + 1 => do
      match ← peek with
      | some .value =>
          skip
          nodeUnless block block terminators fuel
      | _ => return .absent

/-- Read the items between brackets; all but the first follow a comma. -/
def flowItems
    (first : Bool) :
    (fuel : Nat) → Assemble (List Node)
  | 0 => refuse
  | fuel + 1 => do
      match ← peek, first with
      | some .flowSequenceEnd, _ =>
          skip
          return []
      | some .flowEntry, false =>
          skip
          flowItem fuel
      | _, true => flowItem fuel
      | _, false => refuse

/-- Read an item between brackets, which may be a single entry, or the closing bracket. -/
def flowItem : (fuel : Nat) → Assemble (List Node)
  | 0 => refuse
  | fuel + 1 => do
      match ← peek with
      | some .flowSequenceEnd =>
          skip
          return []
      | some .key =>
          skip
          let key ← singleKey fuel
          let value ← entryValue false [.flowEntry, .flowSequenceEnd] fuel
          return .mapping none [(key, value)] :: (← flowItems false fuel)
      | _ =>
          let item ← node false false fuel
          return item :: (← flowItems false fuel)

/-- Read the key of a single entry; a token that shows that there is none is passed over. -/
def singleKey : (fuel : Nat) → Assemble Node
  | 0 => refuse
  | fuel + 1 => do
      if ← nextIsOneOf [.value, .flowEntry, .flowSequenceEnd] then
        skip
        return .absent
      else
        node false false fuel

/-- Read the entries between braces; all but the first follow a comma. -/
def flowEntries
    (first : Bool) :
    (fuel : Nat) → Assemble (List (Node × Node))
  | 0 => refuse
  | fuel + 1 => do
      match ← peek, first with
      | some .flowMappingEnd, _ =>
          skip
          return []
      | some .flowEntry, false =>
          skip
          flowEntry fuel
      | _, true => flowEntry fuel
      | _, false => refuse

/-- Read an entry between braces, which may be a key alone, or the closing brace. -/
def flowEntry : (fuel : Nat) → Assemble (List (Node × Node))
  | 0 => refuse
  | fuel + 1 => do
      match ← peek with
      | some .flowMappingEnd =>
          skip
          return []
      | some .key =>
          skip
          let terminators := [Token.value, .flowEntry, .flowMappingEnd]
          let key ← nodeUnless false false terminators fuel
          let value ← entryValue false [.flowEntry, .flowMappingEnd] fuel
          return (key, value) :: (← flowEntries false fuel)
      | _ =>
          let key ← node false false fuel
          return (key, .absent) :: (← flowEntries false fuel)

end

/-- The handles that every document has, and what they stand for. -/
def standardHandles : List (String × Bytes) :=
  [("!", .ofText "!"), ("!!", .ofText "tag:yaml.org,2002:")]

/-- Read the directives in front of a document; the answer is whether there were any. -/
def directives
    (versioned : Bool) :
    (fuel : Nat) → Assemble Bool
  | 0 => return versioned
  | fuel + 1 => do
      match ← peek with
      | some (.versionDirective major minor) =>
          if versioned ∨ major ≠ 1 ∨ (minor ≠ 1 ∧ minor ≠ 2) then
            refuse
          else
            skip
            directives true fuel
      | some (.tagDirective handle expansion) =>
          if (← get).handles.any fun entry => entry.1 == handle then
            refuse
          else
            skip
            modify fun assembly =>
              { assembly with handles := assembly.handles ++ [(handle, expansion)] }
            let _ ← directives versioned fuel
            return true
      | _ => return versioned

/-- Read the root of a document and what ends it. -/
def document (fuel : Nat) : Assemble Node := do
  let declared ← directives false fuel
  modify fun assembly => { assembly with handles := assembly.handles ++ standardHandles }
  let root ←
    match ← peek with
    | some .documentStart =>
        skip
        match ← peek with
        | none | some (.versionDirective ..) | some (.tagDirective ..) | some .documentStart
        | some .documentEnd => pure Node.absent
        | _ => node true false fuel
    | _ => if declared then refuse else node true false fuel
  modify fun assembly =>
    { assembly with tokens := assembly.tokens.dropWhile fun token => token == .documentEnd }
  if (← get).tokens.isEmpty then
    return root
  else
    refuse

end Assembly

namespace Document

/-- The document of a list of tokens; no tokens at all stand for nothing. -/
def ofTokens? (tokens : List Token) : Option Document :=
  if tokens.isEmpty then
    some ⟨.absent, []⟩
  else
    ((Assembly.document (6 * tokens.length + 6)).run ⟨tokens, [], [], []⟩).map
      fun (root, assembly) => ⟨root, assembly.anchored⟩

/-- Read a text that holds one document. -/
def read? (text : String) : Option Document :=
  (tokens? text).bind ofTokens?

end Document

end Yaml

end DroneSession
