import DroneSession.Yaml.Document
import DroneSession.Yaml.Plain

namespace DroneSession

/-!
# Decoding nodes

A decoder reads a value of one type from a node.  It follows aliases, enters collections down to a
fixed depth, and gives up when it has followed far more aliases than the document has nodes.
-/

namespace Yaml

/-- What a decoder may use: the document, and how much of it may still be entered or followed. -/
structure Scope where
  document : Document
  /-- The number of aliases that may be followed. -/
  aliasLimit : Nat
  /-- The number of collections that may still be entered. -/
  depth : Nat

/-- A decoder, which counts the aliases that it has followed. -/
abbrev Decoder (α : Type) : Type :=
  ReaderT Scope (StateT Nat Option) α

namespace Decoder

/-- The number of collections inside one another that may be entered. -/
def greatestDepth : Nat :=
  128

/-- Give no answer. -/
def refuse {α : Type} : Decoder α :=
  fun _ _ => none

/-- Take what is there. -/
def require {α : Type} : Option α → Decoder α
  | none => refuse
  | some value => pure value

/-- Read what stands in a collection, unless too many were entered. -/
def enter
    {α : Type}
    (inner : Decoder α) :
    Decoder α :=
  fun scope =>
    match scope.depth with
    | 0 => refuse scope
    | depth + 1 => inner { scope with depth := depth }

/-- The node itself, or the node that an alias stands for. -/
def follow (node : Node) : Decoder Node := do
  match node with
  | .alias anchor =>
      let scope ← read
      let followed ← getThe Nat
      if followed < scope.aliasLimit then
        set (followed + 1)
        require (scope.document.target? anchor)
      else
        refuse
  | node => return node

/-- Read the text of a scalar. -/
def text (node : Node) : Decoder String := do
  match ← follow node with
  | .scalar _ _ text => return text
  | _ => refuse

/-- The text of a scalar that is plain, or literal with the tag of its type. -/
def typedText
    (tag : Tag)
    (node : Node) :
    Decoder String := do
  match ← follow node with
  | .scalar _ .plain text => return text
  | .scalar (some given) .literal text => if given = tag then return text else refuse
  | _ => refuse

/-- Read a truth value. -/
def truth (node : Node) : Decoder Bool := do
  require (truth? (← typedText Tag.truth node))

/-- A whole number of 64 bits without a sign. -/
def unsigned64 (node : Node) : Decoder UInt64 := do
  require (unsigned64? (← typedText Tag.whole node))

/-- A whole number of 32 bits without a sign. -/
def unsigned32 (node : Node) : Decoder UInt32 := do
  let value ← unsigned64 node
  if value.toNat < UInt32.size then return value.toUInt32 else refuse

/-- A whole number of 16 bits without a sign. -/
def unsigned16 (node : Node) : Decoder UInt16 := do
  let value ← unsigned64 node
  if value.toNat < UInt16.size then return value.toUInt16 else refuse

/-- A whole number of 32 bits with a sign. -/
def signed32 (node : Node) : Decoder Int32 := do
  let value ← require (signed64? (← typedText Tag.whole node))
  if Int32.minValue.toInt ≤ value ∧ value ≤ Int32.maxValue.toInt then
    return Int32.ofInt value
  else
    refuse

/-- Read a number as a double. -/
def double (node : Node) : Decoder Float := do
  require (real? (← typedText Tag.real node))

/-- A single, which is rounded from a double. -/
def single (node : Node) : Decoder Float32 :=
  return Number.narrow (← double node)

/-- Whether a scalar stands for nothing; one with the tag of nothing has to. -/
def isNothing (node : Node) : Decoder Bool := do
  match node with
  | .scalar none .plain text => return text.isEmpty || isNull text
  | .scalar (some tag) .plain text =>
      if tag = Tag.null then
        if isNull text then return true else refuse
      else
        return false
  | _ => return false

/-- A value that may be left out by writing nothing. -/
def optional
    {α : Type}
    (decode : Node → Decoder α)
    (node : Node) :
    Decoder (Option α) := do
  let node ← follow node
  if ← isNothing node then
    return none
  else
    return some (← decode node)

/-- A list; nothing at all stands for an empty one. -/
def list
    {α : Type}
    (decode : Node → Decoder α)
    (node : Node) :
    Decoder (List α) := do
  match ← follow node with
  | .sequence _ items => enter (items.mapM decode)
  | .scalar _ .plain "" => return []
  | _ => refuse

/-- The entries of a mapping by the text of their keys. -/
abbrev Entries :=
  List (String × Node)

/-- The values of a mapping; nothing at all stands for an empty one. -/
def record
    {α : Type}
    (decode : Entries → Decoder α)
    (node : Node) :
    Decoder α := do
  match ← follow node with
  | .mapping _ entries =>
      enter do
        let entries ← entries.mapM fun (key, value) => return (← text key, value)
        decode entries
  | .scalar _ .plain "" => decode []
  | _ => refuse

/-- The value of a key, which must not be there twice. -/
def entry?
    (name : String)
    (entries : Entries) :
    Decoder (Option Node) := do
  match entries.filter fun entry => entry.1 == name with
  | [] => return none
  | [(_, node)] => return some node
  | _ => refuse

/-- The value of a key that has to be there. -/
def field
    {α : Type}
    (name : String)
    (decode : Node → Decoder α)
    (entries : Entries) :
    Decoder α := do
  decode (← require (← entry? name entries))

/-- The value of a key, or a standard value if the key is not there. -/
def fieldOr
    {α : Type}
    (name : String)
    (standard : α)
    (decode : Node → Decoder α)
    (entries : Entries) :
    Decoder α := do
  match ← entry? name entries with
  | none => return standard
  | some node => decode node

/-- One of several alternatives as a node names it. -/
inductive Alternative where
  | named (name : String)
  /-- The name is the tag of a scalar, which is itself the content. -/
  | tagged (name : String) (content : Node)

/-- Read a choice that may have a number behind its tag. -/
def alternative (node : Node) : Decoder Alternative := do
  match ← follow node with
  | .scalar tag style text =>
      match tag.bind Tag.name? with
      | none => return .named text
      | some name => return .tagged name (.scalar none style text)
  | _ => refuse

/-- One of several named values; behind a tag nothing may follow. -/
def choice
    {α : Type}
    (values : List (String × α))
    (node : Node) :
    Decoder α := do
  let value (name : String) : Decoder α :=
    require ((values.find? fun entry => entry.1 == name).map Prod.snd)
  match ← alternative node with
  | .named name => value name
  | .tagged name content => if ← isNothing content then value name else refuse

/-- One of several named values, or a plain number behind one more name. -/
def choiceOrNumber
    {α : Type}
    (values : List (String × α))
    (name : String)
    (number : Node → Decoder α)
    (node : Node) :
    Decoder α := do
  let node ← follow node
  match ← alternative node with
  | .tagged given (.scalar none .plain text) =>
      if given = name then number (.scalar none .plain text) else choice values node
  | _ => choice values node

/-- Read the root of a document, within the limits for aliases and depth. -/
def run?
    {α : Type}
    (decode : Node → Decoder α)
    (document : Document) :
    Option α :=
  let scope : Scope :=
    { document := document
      aliasLimit := 100 * document.root.weight
      depth := greatestDepth }
  ((decode document.root).run scope).run' 0

end Decoder

/-- Read the one document of a text. -/
def read?
    {α : Type}
    (decode : Node → Decoder α)
    (text : String) :
    Option α :=
  (Document.read? text).bind (Decoder.run? decode)

end Yaml

end DroneSession
