import DroneSession.Proofs.Yaml.Tokens
import DroneSession.Yaml.Document

namespace DroneSession

/-!
# Trees of written documents

The tokens of a legible document have its nodes back as their tree.  The number of tokens bounds how
deep the reader has to go.
-/

namespace Yaml

namespace Assembly

/-- What is left of a document that has neither directives nor anchors. -/
def plainly (tokens : List Token) : Assembly :=
  ⟨tokens, standardHandles, [], []⟩

theorem bind_apply
    {α β : Type}
    (first : Assemble α)
    (second : α → Assemble β)
    (assembly : Assembly) :
    (first >>= second) assembly =
      (first assembly).bind fun given => second given.1 given.2 :=
  rfl

/-- Tokens behind which a node goes on without properties. -/
def startsContent : Token → Bool
  | .alias _ | .anchor _ | .tag .. => false
  | _ => true

section

variable (block unindented optional : Bool) (tag : Option Tag) (fuel : Nat) (later : List Token)

/-- Without anchors and tags a node is its content. -/
theorem node_plainly
    {token : Token}
    (starts : startsContent token = true) :
    node block unindented (fuel + 1) (plainly (token :: later)) =
      content block unindented false none fuel (plainly (token :: later)) := by
  rw [node]
  cases token with
  | «alias» | anchor | tag => cases starts
  | _ => exact Option.bind_fun_some _

/-- A tag in front of a node is resolved and given to its content. -/
theorem node_tag
    {name : String}
    (isTagName : IsTagName name)
    {token : Token}
    (starts : startsContent token = true) :
    node block unindented (fuel + 1) (plainly (.tag "!" (Bytes.ofText name) :: token :: later)) =
      content block unindented true (some (.ofName name)) fuel (plainly (token :: later)) := by
  rw [node]
  cases token with
  | «alias» | anchor | tag => cases starts
  | _ =>
    rw [← isTagName.resolves]
    exact Option.bind_fun_some _

/-- A scalar is a node of one token. -/
theorem content_scalar
    (style : ScalarStyle)
    (text : String) :
    content block unindented optional tag (fuel + 1) (plainly (.scalar style text :: later)) =
      some (.scalar tag style text, plainly later) := by
  rw [content]
  rfl

/-- An opening bracket starts the items of a list. -/
theorem content_bracket :
    content block unindented optional tag (fuel + 1) (plainly (.flowSequenceStart :: later)) =
      (flowItems true fuel (plainly later)).map fun (items, rest) =>
        (.sequence tag items, rest) := by
  rw [content, Option.map_eq_bind]
  cases block <;> rfl

/-- A closing bracket ends the items of a list. -/
theorem flowItems_end :
    flowItems true (fuel + 1) (plainly (.flowSequenceEnd :: later)) = some ([], plainly later) := by
  rw [flowItems]
  rfl

/-- The start of a block of keys starts the entries of a mapping. -/
theorem content_mapping :
    content true unindented optional tag (fuel + 1) (plainly (.blockMappingStart :: later)) =
      (blockEntries fuel (plainly later)).map fun (entries, rest) =>
        (.mapping tag entries, rest) := by
  rw [content, Option.map_eq_bind]
  rfl

/-- A dash in a block of keys starts a list whose items are not indented. -/
theorem content_items :
    content block true optional tag (fuel + 1) (plainly (.blockEntry :: later)) =
      (unindentedItems fuel (plainly (.blockEntry :: later))).map fun (items, rest) =>
        (.sequence tag items, rest) := by
  rw [content, Option.map_eq_bind]
  cases block <;> rfl

/-- A node that starts with none of the terminators is not left out. -/
theorem nodeUnless_plainly
    {terminators : List Token}
    {token : Token}
    (starts : terminators.contains token = false) :
    nodeUnless block unindented terminators (fuel + 1) (plainly (token :: later)) =
      node block unindented fuel (plainly (token :: later)) := by
  rw [nodeUnless]
  change
    (if terminators.contains token then pure .absent else node block unindented fuel)
      (plainly (token :: later)) = _
  rw [starts, if_neg Bool.false_ne_true]

/-- Behind the mark of a value the value is a node, unless it is left out. -/
theorem entryValue_value
    (terminators : List Token) :
    entryValue block terminators (fuel + 1) (plainly (.value :: later)) =
      nodeUnless block block terminators fuel (plainly later) := by
  rw [entryValue]
  rfl

/-- An entry of a mapping is a key and its value, in front of the other entries. -/
theorem blockEntries_key :
    blockEntries (fuel + 1) (plainly (.key :: later)) =
      (nodeUnless true true [.key, .value, .blockEnd] fuel (plainly later)).bind
        fun (key, rest) =>
          (entryValue true [.key, .value, .blockEnd] fuel rest).bind fun (value, rest) =>
            (blockEntries fuel rest).map fun (entries, rest) =>
              ((key, value) :: entries, rest) := by
  rw [blockEntries]
  simp only [Option.map_eq_bind]
  rfl

theorem blockEntries_end :
    blockEntries (fuel + 1) (plainly (.blockEnd :: later)) = some ([], plainly later) := by
  rw [blockEntries]
  rfl

/-- An item of a list is a node, in front of the other items. -/
theorem unindentedItems_entry :
    unindentedItems (fuel + 1) (plainly (.blockEntry :: later)) =
      (nodeUnless true false [.blockEntry, .key, .value, .blockEnd] fuel (plainly later)).bind
        fun (item, rest) =>
          (unindentedItems fuel rest).map fun (items, rest) => (item :: items, rest) := by
  rw [unindentedItems]
  simp only [Option.map_eq_bind]
  rfl

theorem unindentedItems_end
    (ends : later.head? ≠ some .blockEntry) :
    unindentedItems (fuel + 1) (plainly later) = some ([], plainly later) := by
  rw [unindentedItems]
  cases later with
  | nil => rfl
  | cons token later =>
      cases token with
      | blockEntry => contradiction
      | _ => rfl

end

/-- A node whose tokens behind a key are read as the node, whatever follows. -/
structure Assembles (node : Node) : Prop where
  starts :
    ∃ token later,
      node.tokens = token :: later ∧ [Token.key, .value, .blockEnd].contains token = false
  reads :
    ∀ {fuel : Nat} {following : List Token},
      4 * node.tokens.length ≤ fuel →
      following.head? ≠ some .blockEntry →
      Assembly.node true true fuel (plainly (node.tokens ++ following)) =
        some (node, plainly following)

section

variable {entries : List (String × Node)} (assembles : ∀ entry ∈ entries, Assembles entry.2)
variable {fuel : Nat} {following : List Token}

include assembles

/-- The tokens of some entries and the end of their block are read as the entries. -/
theorem blockEntries_entryTokens
    (enough : 4 * (entries.flatMap Node.entryTokens).length < fuel) :
    blockEntries fuel (plainly (entries.flatMap Node.entryTokens ++ .blockEnd :: following)) =
      some (entries.map fun entry => (.ofPlain entry.1, entry.2), plainly following) := by
  induction entries generalizing fuel with
  | nil =>
      obtain ⟨fuel, rfl⟩ := Nat.exists_eq_succ_of_ne_zero (Nat.ne_zero_of_lt enough)
      exact blockEntries_end fuel following
  | cons entry entries inductionHypothesis =>
      have valueAssembles := assembles entry List.mem_cons_self
      rw [List.flatMap_cons, List.length_append, Node.entryTokens, List.length_append] at enough
      change 4 * (3 + _ + _) < fuel at enough
      obtain ⟨fuel, rfl⟩ : ∃ less, fuel = less + 4 := ⟨fuel - 4, by omega⟩
      have key :
          nodeUnless true true [.key, .value, .blockEnd] (fuel + 3)
              (plainly
                (.scalar .plain entry.1 :: .value ::
                  (entry.2.tokens
                    ++ (entries.flatMap Node.entryTokens ++ .blockEnd :: following)))) =
            some
              (.ofPlain entry.1,
                plainly
                  (.value ::
                    (entry.2.tokens
                      ++ (entries.flatMap Node.entryTokens ++ .blockEnd :: following)))) := by
        rw [nodeUnless_plainly _ _ _ _ rfl, node_plainly _ _ _ _ rfl, content_scalar]
        rfl
      have noItem :
          (entries.flatMap Node.entryTokens ++ Token.blockEnd :: following).head? ≠
            some .blockEntry := by
        cases entries <;> simp [Node.entryTokens]
      have value :
          entryValue true [.key, .value, .blockEnd] (fuel + 3)
              (plainly
                (.value ::
                  (entry.2.tokens
                    ++ (entries.flatMap Node.entryTokens ++ .blockEnd :: following)))) =
            some
              (entry.2, plainly (entries.flatMap Node.entryTokens ++ .blockEnd :: following)) := by
        have read :=
          valueAssembles.reads (show 4 * entry.2.tokens.length ≤ fuel + 1 by omega) noItem
        obtain ⟨token, later, tokens, starts⟩ := valueAssembles.starts
        rw [tokens] at read ⊢
        rw [entryValue_value]
        exact (nodeUnless_plainly _ _ _ _ starts).trans read
      have others :=
        inductionHypothesis (fun other member => assembles other (List.mem_cons_of_mem _ member))
          (show 4 * (entries.flatMap Node.entryTokens).length < fuel + 3 by omega)
      have tokens :
          (entry :: entries).flatMap Node.entryTokens ++ Token.blockEnd :: following =
            .key :: .scalar .plain entry.1 :: .value ::
              (entry.2.tokens ++ (entries.flatMap Node.entryTokens ++ .blockEnd :: following)) := by
        simp [Node.entryTokens]
      rw [tokens, blockEntries_key]
      simp only [key, Option.bind_some, value, others, Option.map_some, List.map_cons]

/-- The tokens of a mapping are read as the mapping, with four steps for each token. -/
theorem node_record
    (unindented : Bool)
    (enough : 4 * (Node.record entries).tokens.length ≤ fuel) :
    node true unindented fuel (plainly ((Node.record entries).tokens ++ following)) =
      some (.record entries, plainly following) := by
  rw [Node.tokens_record] at enough ⊢
  rw [List.length_append, List.length_append] at enough
  change 4 * (1 + _ + 1) ≤ fuel at enough
  obtain ⟨fuel, rfl⟩ : ∃ less, fuel = less + 2 := ⟨fuel - 2, by omega⟩
  have read :
      blockEntries fuel (plainly (entries.flatMap Node.entryTokens ++ .blockEnd :: following)) =
        some (entries.map fun entry => (.ofPlain entry.1, entry.2), plainly following) :=
    blockEntries_entryTokens assembles (by omega)
  have tokens :
      [.blockMappingStart] ++ entries.flatMap Node.entryTokens ++ [.blockEnd] ++ following =
        .blockMappingStart :: (entries.flatMap Node.entryTokens ++ .blockEnd :: following) := by
    simp
  rw [tokens, node_plainly _ _ _ _ rfl, content_mapping, read]
  rfl

end

/-- The items of a list behind a key, up to what is no item. -/
theorem unindentedItems_records
    {items : List (List (String × Node))}
    (assembles : ∀ item ∈ items, ∀ entry ∈ item, Assembles entry.2)
    {fuel : Nat}
    {following : List Token}
    (positive : 0 < fuel)
    (enough : 4 * (Node.tokensOfItems (items.map Node.record)).length ≤ fuel + 2)
    (ends : following.head? ≠ some .blockEntry) :
    unindentedItems fuel (plainly (Node.tokensOfItems (items.map Node.record) ++ following)) =
      some (items.map Node.record, plainly following) := by
  induction items generalizing fuel with
  | nil =>
      obtain ⟨fuel, rfl⟩ := Nat.exists_eq_succ_of_ne_zero (Nat.ne_zero_of_lt positive)
      exact unindentedItems_end fuel following ends
  | cons item items inductionHypothesis =>
      rw [List.map_cons, Node.tokensOfItems] at enough ⊢
      rw [List.length_cons, List.length_append] at enough
      obtain ⟨token, later, tokens, starts⟩ :
          ∃ token later, (Node.record item).tokens = token :: later ∧
            [Token.blockEntry, .key, .value, .blockEnd].contains token = false := by
        rw [Node.tokens_record]
        exact ⟨_, _, rfl, rfl⟩
      have nonempty : 0 < (Node.record item).tokens.length := by
        rw [tokens]
        exact Nat.succ_pos _
      obtain ⟨fuel, rfl⟩ : ∃ less, fuel = less + 2 := ⟨fuel - 2, by omega⟩
      have here :
          node true false fuel
              (plainly
                ((Node.record item).tokens
                  ++ (Node.tokensOfItems (items.map Node.record) ++ following))) =
            some
              (.record item, plainly (Node.tokensOfItems (items.map Node.record) ++ following)) :=
        node_record (assembles item List.mem_cons_self) false (by omega)
      have others :=
        inductionHypothesis (fun other member => assembles other (List.mem_cons_of_mem _ member))
          (Nat.succ_pos fuel) (by omega)
      rw [List.cons_append, List.append_assoc, unindentedItems_entry]
      rw [tokens] at here ⊢
      rw [List.cons_append] at here ⊢
      rw [nodeUnless_plainly _ _ _ _ starts, here]
      simp only [Option.bind_some, others, Option.map_some]

/-- A scalar is read as itself. -/
theorem assembles_scalar
    (style : ScalarStyle)
    (text : String) :
    Assembles (.scalar none style text) := by
  refine ⟨⟨.scalar style text, [], rfl, rfl⟩, ?_⟩
  intro fuel following enough _
  change 4 * 1 ≤ fuel at enough
  obtain ⟨fuel, rfl⟩ : ∃ less, fuel = less + 2 := ⟨fuel - 2, by omega⟩
  change Assembly.node true true _ (plainly (.scalar style text :: following)) = _
  rw [node_plainly _ _ _ _ rfl, content_scalar]

/-- A plain scalar behind a tag is read with its tag. -/
theorem assembles_tagged
    {name : String}
    (isTagName : IsTagName name)
    (text : String) :
    Assembles (.scalar (some (.ofName name)) .plain text) := by
  refine ⟨⟨_, _, Node.tokens_tagged name text, rfl⟩, ?_⟩
  intro fuel following enough _
  rw [Node.tokens_tagged] at enough ⊢
  change 4 * 2 ≤ fuel at enough
  obtain ⟨fuel, rfl⟩ : ∃ less, fuel = less + 2 := ⟨fuel - 2, by omega⟩
  change
    Assembly.node true true _
      (plainly (.tag "!" (Bytes.ofText name) :: .scalar .plain text :: following)) = _
  rw [node_tag _ _ _ _ isTagName rfl, content_scalar]

/-- Empty brackets are read as a list without items. -/
theorem assembles_brackets : Assembles (.sequence none []) := by
  refine ⟨⟨_, _, Node.tokens_brackets, rfl⟩, ?_⟩
  intro fuel following enough _
  rw [Node.tokens_brackets] at enough ⊢
  change 4 * 2 ≤ fuel at enough
  obtain ⟨fuel, rfl⟩ : ∃ less, fuel = less + 3 := ⟨fuel - 3, by omega⟩
  change
    Assembly.node true true _ (plainly (.flowSequenceStart :: .flowSequenceEnd :: following)) = _
  rw [node_plainly _ _ _ _ rfl, content_bracket, flowItems_end]
  rfl

/-- A list of mappings is read as itself if the values in them are. -/
theorem assembles_items
    {items : List (List (String × Node))}
    (nonempty : items ≠ [])
    (assembles : ∀ item ∈ items, ∀ entry ∈ item, Assembles entry.2) :
    Assembles (.sequence none (items.map Node.record)) := by
  have tokens := Node.tokens_items nonempty
  obtain ⟨item, others, rfl⟩ := List.exists_cons_of_ne_nil nonempty
  have starts :
      Node.tokensOfItems ((item :: others).map Node.record) =
        .blockEntry :: ((Node.record item).tokens
          ++ Node.tokensOfItems (others.map Node.record)) := by
    rw [List.map_cons, Node.tokensOfItems]
  refine ⟨⟨_, _, tokens.trans starts, rfl⟩, ?_⟩
  intro fuel following enough ends
  rw [tokens] at enough ⊢
  have positive : 0 < (Node.tokensOfItems ((item :: others).map Node.record)).length := by
    rw [starts]
    exact Nat.succ_pos _
  obtain ⟨fuel, rfl⟩ : ∃ less, fuel = less + 2 := ⟨fuel - 2, by omega⟩
  have read := unindentedItems_records assembles (show 0 < fuel by omega) (by omega) ends
  rw [starts] at read ⊢
  rw [List.cons_append] at read ⊢
  rw [node_plainly _ _ _ _ rfl, content_items, read]
  rfl

/-- A mapping is read as itself if its values are. -/
theorem assembles_record
    {entries : List (String × Node)}
    (assembles : ∀ entry ∈ entries, Assembles entry.2) :
    Assembles (.record entries) := by
  refine ⟨⟨.blockMappingStart, _, Node.tokens_record entries, rfl⟩, ?_⟩
  intro fuel following enough _
  exact node_record assembles true enough

/-- Every legible node is read from its tokens as itself. -/
theorem assembles_of_legible
    {node : Node}
    (legible : node.Legible) :
    Assembles node := by
  induction legible with
  | scalar => exact assembles_scalar _ _
  | tagged isTagName => exact assembles_tagged isTagName _
  | @sequence items keyed legible inductionHypothesis =>
      by_cases nonempty : items = []
      · subst nonempty
        exact assembles_brackets
      · exact assembles_items nonempty inductionHypothesis
  | record keyed legible inductionHypothesis => exact assembles_record inductionHypothesis

/-- A document that consists of a mapping without directives in front of it. -/
theorem document_record
    {entries : List (String × Node)}
    (assembles : ∀ entry ∈ entries, Assembles entry.2)
    {fuel : Nat}
    (enough : 4 * (Node.record entries).tokens.length ≤ fuel) :
    document fuel ⟨(Node.record entries).tokens, [], [], []⟩ =
      some (.record entries, plainly []) := by
  have root : node true false fuel (plainly ((Node.record entries).tokens ++ [])) = _ :=
    node_record assembles false enough
  rw [List.append_nil] at root
  rw [Node.tokens_record] at enough root ⊢
  obtain ⟨fuel, rfl⟩ : ∃ less, fuel = less + 1 := by
    refine ⟨fuel - 1, ?_⟩
    rw [List.length_append] at enough
    change 4 * (_ + 1) ≤ fuel at enough
    omega
  have undeclared :
      directives false (fuel + 1)
          ⟨[.blockMappingStart] ++ entries.flatMap Node.entryTokens ++ [.blockEnd], [], [], []⟩ =
        some
          (false,
            ⟨[.blockMappingStart] ++ entries.flatMap Node.entryTokens ++ [.blockEnd],
              [], [], []⟩) := by
    rw [directives]
    rfl
  have peeked : ∀ assembly : Assembly, peek assembly = some (assembly.tokens.head?, assembly) :=
    fun _ => rfl
  have modified :
      ∀ (change : Assembly → Assembly) (assembly : Assembly),
        (modify change : Assemble Unit) assembly = some ((), change assembly) :=
    fun _ _ => rfl
  rw [document, bind_apply, undeclared, Option.bind_some, bind_apply, modified, Option.bind_some,
    bind_apply, peeked, Option.bind_some]
  change (node true false (fuel + 1) >>= _) (plainly _) = _
  rw [bind_apply, root]
  rfl

end Assembly

namespace Node

/-- A legible document reads back as the tree that was written. -/
theorem read?_render
    {entries : List (String × Node)}
    (keyed : Keyed entries)
    (legible : ∀ entry ∈ entries, Legible entry.2) :
    Document.read? (render (record entries)) = some ⟨record entries, []⟩ := by
  have nonempty : (record entries).tokens.isEmpty = false := by
    rw [tokens_record]
    rfl
  rw [Document.read?, tokens?_render keyed legible, Option.bind_some, Document.ofTokens?, nonempty,
    if_neg Bool.false_ne_true]
  change (Assembly.document _ _).map _ = _
  rw [Assembly.document_record
    (fun entry member => Assembly.assembles_of_legible (legible entry member)) (by omega)]
  rfl

end Node

end Yaml

end DroneSession
