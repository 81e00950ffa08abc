import DroneSession.Proofs.Yaml.Legible

namespace DroneSession

/-!
# Tokens of written documents

The tokens of a legible document are those of its nodes, one after another.  This is proved along
the tree: what is written for a node behind a key is read as the tokens of the node, whatever blocks
are open around it and whatever follows on the lines below.
-/

namespace Yaml

namespace Node

mutual

/-- The tokens of a node as it is written behind a key. -/
def tokens : Node → List Token
  | .scalar tag style text =>
      (tag.bind Tag.name?).toList.map (fun name => .tag "!" (Bytes.ofText name))
        ++ [.scalar style text]
  | .alias _ => []
  | .sequence _ [] => [.flowSequenceStart, .flowSequenceEnd]
  | .sequence _ items => tokensOfItems items
  | .mapping _ entries => .blockMappingStart :: (tokensOfEntries entries ++ [.blockEnd])

/-- The tokens of the items of a list, each behind a dash. -/
def tokensOfItems : List Node → List Token
  | [] => []
  | item :: items => .blockEntry :: (tokens item ++ tokensOfItems items)

/-- The tokens of the entries of a mapping, each key and value behind their marks. -/
def tokensOfEntries : List (Node × Node) → List Token
  | [] => []
  | (key, value) :: entries =>
      .key :: (tokens key ++ .value :: (tokens value ++ tokensOfEntries entries))

end

/-- The tokens of an entry of a mapping. -/
def entryTokens (entry : String × Node) : List Token :=
  [.key, .scalar .plain entry.1, .value] ++ entry.2.tokens

theorem tokensOfEntries_map (entries : List (String × Node)) :
    tokensOfEntries (entries.map fun entry => (.ofPlain entry.1, entry.2)) =
      entries.flatMap entryTokens := by
  induction entries with
  | nil => rfl
  | cons entry entries inductionHypothesis =>
      rw [List.map_cons, tokensOfEntries, inductionHypothesis]
      simp [entryTokens, ofPlain, tokens]

/-- The tokens of a mapping are those of its entries in a block. -/
theorem tokens_record (entries : List (String × Node)) :
    (record entries).tokens =
      [.blockMappingStart] ++ entries.flatMap entryTokens ++ [.blockEnd] := by
  rw [record, tokens, tokensOfEntries_map]
  rfl

theorem tokens_tagged (name text : String) :
    (scalar (some (.ofName name)) .plain text).tokens =
      [.tag "!" (Bytes.ofText name), .scalar .plain text] := by
  have named : (Tag.ofName name).name? = some name := by
    simp [Tag.name?, Tag.ofName, Tag.text]
  simp [tokens, named]

theorem tokens_brackets :
    (sequence none []).tokens = [.flowSequenceStart, .flowSequenceEnd] := by
  rw [tokens]

/-- The tokens of a list with items are those of its items, without a block of their own. -/
theorem tokens_items
    {items : List (List (String × Node))}
    (nonempty : items ≠ []) :
    (sequence none (items.map record)).tokens = tokensOfItems (items.map record) := by
  rw [tokens]
  simpa using nonempty

/-- What is written for a node behind a key is read as the tokens of the node. -/
def Reads (node : Node) : Prop :=
  ∀ {reading : Reading} {column : Nat} {position : Position} {following : List Char}
    {tokens : List Token},
    reading.indentation = column →
    column < position.column →
    Dedented (column + 1) following →
    ((reading.push node.tokens).lexer true
        ((position.behind (writeBehind column false node).toList).place following)).Yields tokens →
    (reading.lexer false
        (position.place ((writeBehind column false node).toList ++ following))).Yields tokens

/-- An entry of a mapping starts with a character that opens a token. -/
theorem exists_opens_writeEntry
    (column : Nat)
    {entry : String × Node}
    (isKey : IsKey entry.1) :
    ∃ first rest, writeEntry column entry = first :: rest ∧ Opens first := by
  obtain ⟨first, rest, characters⟩ := List.exists_cons_of_ne_nil isKey.plain.phrase.ne_nil
  have plain := isKey.plain
  rw [characters] at plain
  refine ⟨first, rest ++ ':' :: (writeBehind column false entry.2).toList, ?_,
    (Reading.opens_of_isPlain plain).1⟩
  rw [writeEntry, characters, List.cons_append]

/-- A mapping starts with a character that opens a token. -/
theorem exists_opens_begunLines
    (column : Nat)
    {entries : List (String × Node)}
    (keyed : Keyed entries) :
    ∃ first rest, begunLines column entries = first :: rest ∧ Opens first := by
  obtain ⟨entry, later, rfl⟩ := List.exists_cons_of_ne_nil keyed.nonempty
  obtain ⟨first, rest, characters, opens⟩ :=
    exists_opens_writeEntry column (keyed.keys entry List.mem_cons_self)
  refine ⟨first, rest ++ entryLines column later, ?_, opens⟩
  rw [begunLines, characters, List.cons_append]

/-- A scalar starts with a character that opens a token. -/
theorem exists_opens_scalarLine
    (column : Nat)
    {style : ScalarStyle}
    {text : String}
    (stands : Stands style text) :
    ∃ first rest, scalarLine column style text = first :: rest ∧ Opens first := by
  cases stands with
  | plain isPlain =>
      obtain ⟨first, rest, characters⟩ := List.exists_cons_of_ne_nil isPlain.phrase.ne_nil
      rw [scalarLine_plain column isPlain]
      rw [characters] at isPlain ⊢
      exact ⟨first, rest ++ ['\n'], rfl, (Reading.opens_of_isPlain isPlain).1⟩
  | singleQuoted =>
      exact ⟨'\'', _, scalarLine_singleQuoted column text, rfl, by decide, by decide⟩
  | doubleQuoted =>
      exact ⟨'"', _, scalarLine_doubleQuoted column text, rfl, by decide, by decide⟩
  | literal nonempty =>
      exact ⟨'|', _, scalarLine_literal column nonempty, rfl, by decide, by decide⟩

/-- Entries, and what follows a mapping, are not further indented than the column of the entries. -/
theorem dedented_entryLines
    {column : Nat}
    {entries : List (String × Node)}
    (keys : ∀ entry ∈ entries, IsKey entry.1)
    {following : List Char}
    (dedented : Dedented column following) :
    Dedented (column + 1) (entryLines column entries ++ following) := by
  cases entries with
  | nil => exact dedented.mono (Nat.le_succ column)
  | cons entry entries =>
      obtain ⟨first, rest, characters, opens⟩ :=
        exists_opens_writeEntry column (keys entry List.mem_cons_self)
      refine .inr ⟨column, Nat.lt_succ_self column, first,
        rest ++ entryLines column entries ++ following, ?_, opens⟩
      simp [entryLines, characters]

/-- Dashes stand at the column of the key in front of the list. -/
theorem dedented_itemLines
    (column : Nat)
    (items : List (List (String × Node)))
    {following : List Char}
    (dedented : Dedented (column + 1) following) :
    Dedented (column + 1) (itemLines column items ++ following) := by
  cases items with
  | nil => exact dedented
  | cons item items =>
      refine .inr ⟨column, Nat.lt_succ_self column, '-',
        ' ' :: begunLines (column + 2) item ++ itemLines column items ++ following, ?_,
        ⟨rfl, by decide, by decide⟩⟩
      simp [itemLines]

end Node

namespace Reading

open Node
open Lexer (Yields)

section

variable {reading : Reading} {column : Nat} {position : Position} {following : List Char}
variable {tokens : List Token}

theorem indentation_enter
    (inside : reading.indentation ≤ column) :
    (reading.enter column).indentation = column := by
  rw [enter]
  split
  · rfl
  · omega

theorem enter_of_level
    (level : reading.indentation = column) :
    reading.enter column = reading := by
  rw [enter, if_neg (by omega)]

/-- An entry in a line that has begun, at the column of a block or at one where a block starts. -/
theorem yields_of_entry
    {entry : String × Node}
    (isKey : IsKey entry.1)
    (reads : Reads entry.2)
    (inside : reading.indentation ≤ column)
    (level : position.column = column)
    (dedented : Dedented (column + 1) following)
    (yields :
      (((reading.enter column).push (entryTokens entry)).lexer true
          ((position.behind (writeEntry column entry)).place following)).Yields tokens) :
    (reading.lexer true (position.place (writeEntry column entry ++ following))).Yields tokens := by
  have behindKey : column < (position.behind (entry.1.toList ++ [':'])).column := by
    have unbroken : ∀ character ∈ entry.1.toList ++ [':'], isBreak character = false := by
      intro character member
      rcases List.mem_append.mp member with inName | colon
      · exact isKey.plain.phrase.unbroken character inName
      · rw [List.mem_singleton.mp colon]
        rfl
    rw [Position.column_behind unbroken, List.length_append, List.length_singleton]
    omega
  have value :
      (((reading.enter column).push [.key, .scalar .plain entry.1, .value]).lexer false
        ((position.behind (entry.1.toList ++ [':'])).place
          ((writeBehind column false entry.2).toList ++ following))).Yields tokens := by
    refine reads (indentation_enter inside) behindKey dedented ?_
    have written :
        (position.behind (entry.1.toList ++ [':'])).behind
            (writeBehind column false entry.2).toList =
          position.behind (writeEntry column entry) := by
      simp [writeEntry]
    rwa [push_push, written]
  have separated := separates_writeBehind column entry.2 following
  have divided :
      writeEntry column entry ++ following =
        entry.1.toList ++ ':' :: ((writeBehind column false entry.2).toList ++ following) := by
    simp [writeEntry]
  rw [divided]
  refine yields_of_key isKey (by omega) separated ?_
  rwa [level]

/-- Entries in lines of their own, in a block that is open. -/
theorem yields_of_entryLines
    {entries : List (String × Node)}
    (keys : ∀ entry ∈ entries, IsKey entry.1)
    (reads : ∀ entry ∈ entries, Reads entry.2)
    (lines : ∀ entry ∈ entries, IsLines (writeBehind column false entry.2).toList)
    (level : reading.indentation = column)
    (starts : position.column = 0)
    (dedented : Dedented column following)
    (yields :
      ((reading.push (entries.flatMap entryTokens)).lexer true
          ((position.behind (entryLines column entries)).place following)).Yields tokens) :
    (reading.lexer true (position.place (entryLines column entries ++ following))).Yields
      tokens := by
  induction entries generalizing reading position with
  | nil =>
      rw [List.flatMap_nil, push_nil] at yields
      exact yields
  | cons entry entries inductionHypothesis =>
      have isKey := keys entry List.mem_cons_self
      have laterKeys : ∀ entry ∈ entries, IsKey entry.1 :=
        fun other member => keys other (List.mem_cons_of_mem _ member)
      obtain ⟨first, rest, characters, opens⟩ := exists_opens_writeEntry column isKey
      have line := isLines_writeEntry isKey (lines entry List.mem_cons_self)
      have divided :
          entryLines column (entry :: entries) ++ following =
            spaces column
              ++ (writeEntry column entry ++ (entryLines column entries ++ following)) := by
        simp [entryLines]
      have later :
          ((reading.push (entryTokens entry)).lexer true
            (((position.behind (spaces column)).behind (writeEntry column entry)).place
              (entryLines column entries ++ following))).Yields tokens := by
        refine inductionHypothesis laterKeys
          (fun other member => reads other (List.mem_cons_of_mem _ member))
          (fun other member => lines other (List.mem_cons_of_mem _ member))
          level (line.column_behind _) ?_
        have written :
            position.behind (entryLines column (entry :: entries)) =
              ((position.behind (spaces column)).behind (writeEntry column entry)).behind
                (entryLines column entries) := by
          simp [entryLines]
        rwa [push_push, ← List.flatMap_cons, ← written]
      have column_behind : (position.behind (spaces column)).column = column := by
        rw [Position.column_behind_spaces, starts, Nat.zero_add]
      have here :=
        yields_of_entry isKey (reads entry List.mem_cons_self) (Int.le_of_eq level) column_behind
          (dedented_entryLines laterKeys dedented) (by rwa [enter_of_level level])
      rw [divided]
      rw [characters] at here ⊢
      exact yields_of_spaces opens column here

/-- The line that ends a block closes it. -/
theorem close_enter
    (inside : reading.indentation < column)
    (inner : List Token)
    {margin : Int}
    (below : margin < column) :
    ((reading.enter column).push inner).close margin =
      (reading.push ([.blockMappingStart] ++ inner ++ [.blockEnd])).close margin := by
  rw [enter, if_pos inside]
  change closeFrom margin _ (reading.indentation :: reading.outer) = _
  rw [closeFrom]
  change (if margin < column then _ else _) = _
  rw [if_pos below]
  simp [push, close]

/-- A mapping further in than the block around it, up to the line that ends it. -/
theorem yields_of_begunLines
    {entries : List (String × Node)}
    (keyed : Keyed entries)
    (reads : ∀ entry ∈ entries, Reads entry.2)
    (lines : ∀ entry ∈ entries, IsLines (writeBehind column false entry.2).toList)
    (inside : reading.indentation < column)
    (level : position.column = column)
    (dedented : Dedented column following)
    (yields :
      ((reading.push (record entries).tokens).lexer true
          ((position.behind (begunLines column entries)).place following)).Yields tokens) :
    (reading.lexer true (position.place (begunLines column entries ++ following))).Yields
      tokens := by
  have starts := (isLines_begunLines keyed lines).column_behind position
  have closed :
      (((reading.enter column).push (entries.flatMap entryTokens)).lexer true
          ((position.behind (begunLines column entries)).place following)).Yields tokens := by
    refine yields_of_dedented rfl starts dedented ?_ yields
    intro margin below
    rw [tokens_record]
    exact close_enter inside _ below
  obtain ⟨nonempty, keys⟩ := keyed
  cases entries with
  | nil => contradiction
  | cons entry later =>
      have laterKeys : ∀ entry ∈ later, IsKey entry.1 :=
        fun other member => keys other (List.mem_cons_of_mem _ member)
      have isKey := keys entry List.mem_cons_self
      have line := isLines_writeEntry isKey (lines entry List.mem_cons_self)
      have others :
          (((reading.enter column).push (entryTokens entry)).lexer true
            ((position.behind (writeEntry column entry)).place
              (entryLines column later ++ following))).Yields tokens := by
        refine yields_of_entryLines laterKeys
          (fun other member => reads other (List.mem_cons_of_mem _ member))
          (fun other member => lines other (List.mem_cons_of_mem _ member))
          (indentation_enter (Int.le_of_lt inside)) (line.column_behind _) dedented ?_
        rwa [push_push, ← List.flatMap_cons, ← Position.behind_append]
      rw [begunLines, List.append_assoc]
      exact yields_of_entry isKey (reads entry List.mem_cons_self) (Int.le_of_lt inside) level
        (dedented_entryLines laterKeys dedented) others

/-- The items of a list, each in lines of its own, at the column of the block around it. -/
theorem yields_of_itemLines
    {items : List (List (String × Node))}
    (keyed : ∀ item ∈ items, Keyed item)
    (reads : ∀ item ∈ items, ∀ entry ∈ item, Reads entry.2)
    (lines :
      ∀ item ∈ items, ∀ entry ∈ item, ∀ column, IsLines (writeBehind column false entry.2).toList)
    (level : reading.indentation = column)
    (starts : position.column = 0)
    (dedented : Dedented (column + 1) following)
    (yields :
      ((reading.push (tokensOfItems (items.map record))).lexer true
          ((position.behind (itemLines column items)).place following)).Yields tokens) :
    (reading.lexer true (position.place (itemLines column items ++ following))).Yields tokens := by
  induction items generalizing reading position with
  | nil =>
      rw [List.map_nil, tokensOfItems, push_nil] at yields
      exact yields
  | cons item items inductionHypothesis =>
      have divided :
          itemLines column (item :: items) ++ following =
            spaces column
              ++ '-' :: ' '
                :: (begunLines (column + 2) item ++ (itemLines column items ++ following)) := by
        simp [itemLines]
      have itemKeyed := keyed item List.mem_cons_self
      have itemLined :
          ∀ entry ∈ item, IsLines (writeBehind (column + 2) false entry.2).toList :=
        fun entry member => lines item List.mem_cons_self entry member _
      have later :
          ((reading.push ([.blockEntry] ++ (record item).tokens)).lexer true
            ((((position.behind (spaces column)).behind ['-', ' ']).behind
                (begunLines (column + 2) item)).place
              (itemLines column items ++ following))).Yields tokens := by
        refine inductionHypothesis
          (fun other member => keyed other (List.mem_cons_of_mem _ member))
          (fun other member => reads other (List.mem_cons_of_mem _ member))
          (fun other member => lines other (List.mem_cons_of_mem _ member))
          level ((isLines_begunLines itemKeyed itemLined).column_behind _) ?_
        have written :
            position.behind (itemLines column (item :: items)) =
              (((position.behind (spaces column)).behind ['-', ' ']).behind
                  (begunLines (column + 2) item)).behind (itemLines column items) := by
          simp [itemLines]
        rw [push_push, ← written]
        exact yields
      have dashColumn : (position.behind (spaces column)).column = column := by
        rw [Position.column_behind_spaces, starts, Nat.zero_add]
      have itemColumn :
          ((position.behind (spaces column)).behind ['-', ' ']).column = column + 2 := by
        rw [Position.column_behind (forall_mem_of_all (by decide)), dashColumn]
        rfl
      have deeper : (reading.push [.blockEntry]).indentation < (column + 2 : Nat) := by
        change reading.indentation < _
        omega
      have entriesYield :=
        yields_of_begunLines itemKeyed (reads item List.mem_cons_self) itemLined deeper itemColumn
          ((dedented_itemLines column items dedented).mono (Nat.le_succ _)) (by rwa [push_push])
      obtain ⟨first, rest, characters, opens⟩ := exists_opens_begunLines (column + 2) itemKeyed
      rw [divided]
      rw [characters] at entriesYield ⊢
      refine yields_of_spaces ⟨rfl, by decide, by decide⟩ column ?_
      refine yields_of_dash (level.trans (congrArg Int.ofNat dashColumn.symm)) ?_
      exact yields_of_spaces opens 1 entriesYield

/-- A node that starts in the line below. -/
theorem yields_of_linesBelow
    {indentation : Nat}
    {text : List Char}
    (dedented : Dedented indentation text)
    (yields : (reading.lexer true ((position.after '\n').place text)).Yields tokens) :
    (reading.lexer false (position.place ('\n' :: text))).Yields tokens :=
  yields_of_dedented (Position.skip_break rfl false text position) rfl dedented (fun _ _ => rfl)
    yields

/-- A scalar behind a space. -/
theorem yields_of_spacedScalar
    {style : ScalarStyle}
    {text : String}
    (stands : Stands style text)
    (level : reading.indentation = column)
    (inside : column ≤ position.column)
    (dedented : Dedented (column + 1) following)
    (yields :
      ((reading.push [.scalar style text]).lexer true
          ((position.behind (' ' :: scalarLine column style text)).place following)).Yields
        tokens) :
    (reading.lexer false
        (position.place (' ' :: scalarLine column style text ++ following))).Yields tokens := by
  obtain ⟨first, rest, characters, opens⟩ := exists_opens_scalarLine column stands
  have behindSpace : column < (position.behind (spaces 1)).column := by
    rw [Position.column_behind_spaces]
    omega
  have line := yields_of_scalarLine level behindSpace dedented stands yields
  rw [characters] at line ⊢
  exact yields_of_spaces opens 1 line

end

end Reading

namespace Node

open Reading

/-- A scalar that stands for its text is read as the token of the text. -/
theorem reads_scalar
    {style : ScalarStyle}
    {text : String}
    (stands : Stands style text) :
    Reads (.scalar none style text) := by
  intro reading column position following tokens level inside dedented yields
  rw [writeBehind_scalar] at yields ⊢
  exact yields_of_spacedScalar stands level (Nat.le_of_lt inside) dedented yields

/-- A plain scalar behind a tag is read as the tag and the scalar. -/
theorem reads_tagged
    {name text : String}
    (isTagName : IsTagName name)
    (isPlain : IsPlain text.toList) :
    Reads (.scalar (some (.ofName name)) .plain text) := by
  intro reading column position following tokens level inside dedented yields
  have behindSpace : (position.behind (spaces 1)).column = position.column + 1 :=
    Position.column_behind_spaces 1
  have unbroken : ∀ character ∈ '!' :: name.toList, isBreak character = false := by
    intro character member
    rcases List.mem_cons.mp member with rfl | inName
    · rfl
    · exact isBreak_of_isWord (isTagName.word character inName)
  have behindTag :
      ((position.behind (spaces 1)).behind ('!' :: name.toList)).column =
        position.column + 1 + ('!' :: name.toList).length := by
    rw [Position.column_behind unbroken, behindSpace]
  rw [tokens_tagged] at yields
  rw [writeBehind_tagged column name isPlain] at yields ⊢
  have scalar :
      ((reading.push [.tag "!" (Bytes.ofText name)]).lexer false
          (((position.behind (spaces 1)).behind ('!' :: name.toList)).place
            (' ' :: scalarLine column .plain text ++ following))).Yields tokens := by
    refine yields_of_spacedScalar (.plain isPlain) level (by omega) dedented ?_
    simpa [spaces] using yields
  have divided :
      ' ' :: '!' :: (name.toList ++ ' ' :: scalarLine column .plain text) ++ following =
        spaces 1
          ++ '!' :: (name.toList ++ ' ' :: (scalarLine column .plain text ++ following)) := by
    simp [spaces]
  rw [divided]
  refine yields_of_spaces ⟨rfl, by decide, by decide⟩ 1 ?_
  exact yields_of_tag (by omega) (by omega) isTagName scalar

/-- A list without items is written in brackets. -/
theorem reads_brackets : Reads (.sequence none []) := by
  intro reading column position following tokens level inside dedented yields
  have written :
      (writeBehind column false (.sequence none [])).toList = ' ' :: ['[', ']', '\n'] := by
    rw [writeBehind]
    rfl
  have behindSpace : (position.behind (spaces 1)).column = position.column + 1 :=
    Position.column_behind_spaces 1
  rw [written, tokens_brackets] at yields
  rw [written]
  exact yields_of_spaces ⟨rfl, by decide, by decide⟩ 1
    (yields_of_brackets (by omega) (by omega) dedented yields)

/-- A list of mappings is read as its items if their values are read as theirs. -/
theorem reads_items
    {items : List (List (String × Node))}
    (nonempty : items ≠ [])
    (keyed : ∀ item ∈ items, Keyed item)
    (reads : ∀ item ∈ items, ∀ entry ∈ item, Reads entry.2)
    (lines :
      ∀ item ∈ items, ∀ entry ∈ item, ∀ column,
        IsLines (writeBehind column false entry.2).toList) :
    Reads (.sequence none (items.map record)) := by
  intro reading column position following tokens level inside dedented yields
  rw [tokens_items nonempty] at yields
  rw [writeBehind_sequence column nonempty keyed] at yields ⊢
  exact yields_of_linesBelow (dedented_itemLines column items dedented)
    (yields_of_itemLines keyed reads lines level rfl dedented yields)

/-- A mapping is read as its entries if their values are read as theirs. -/
theorem reads_record
    {entries : List (String × Node)}
    (keyed : Keyed entries)
    (reads : ∀ entry ∈ entries, Reads entry.2)
    (lines : ∀ entry ∈ entries, ∀ column, IsLines (writeBehind column false entry.2).toList) :
    Reads (record entries) := by
  intro reading column position following tokens level inside dedented yields
  have further : Dedented (column + 2) following :=
    dedented.mono (Nat.le_succ _)
  have entriesColumn :
      ((position.after '\n').behind (spaces (column + 2))).column = column + 2 := by
    rw [Position.column_behind_spaces]
    exact Nat.zero_add _
  have deeper : reading.indentation < (column + 2 : Nat) := by
    omega
  rw [(writeBehind_record column keyed.nonempty).2] at yields ⊢
  rw [List.cons_append]
  refine yields_of_linesBelow (dedented_entryLines keyed.keys further) ?_
  rw [entryLines_eq _ keyed.nonempty] at yields ⊢
  have begun :=
    yields_of_begunLines keyed reads (fun entry member => lines entry member _) deeper
      entriesColumn further (by simpa using yields)
  obtain ⟨first, rest, characters, opens⟩ := exists_opens_begunLines (column + 2) keyed
  rw [List.append_assoc]
  rw [characters] at begun ⊢
  exact yields_of_spaces opens (column + 2) begun

/-- Every legible node is read as its tokens. -/
theorem Legible.reads
    {node : Node}
    (legible : Legible node) :
    Reads node := by
  induction legible with
  | scalar stands => exact reads_scalar stands
  | tagged isTagName isPlain => exact reads_tagged isTagName isPlain
  | @sequence items keyed legible inductionHypothesis =>
      by_cases nonempty : items = []
      · subst nonempty
        exact reads_brackets
      · exact reads_items nonempty keyed inductionHypothesis
          fun item member entry inItem => (legible item member entry inItem).isLines
  | record keyed legible inductionHypothesis =>
      exact reads_record keyed inductionHypothesis
        fun entry member => (legible entry member).isLines

/-- A whole document is written as the lines of its mapping. -/
theorem toList_render
    {entries : List (String × Node)}
    (nonempty : entries ≠ []) :
    (render (record entries)).toList = begunLines 0 entries := by
  rw [record, render, toList_writeEntries_begun]
  simpa using nonempty

/-- A legible document is divided into the tokens of its nodes. -/
theorem tokens?_render
    {entries : List (String × Node)}
    (keyed : Keyed entries)
    (legible : ∀ entry ∈ entries, Legible entry.2) :
    tokens? (render (record entries)) = some (record entries).tokens := by
  have lines : IsLines (begunLines 0 entries) :=
    isLines_begunLines keyed fun entry member => (legible entry member).isLines 0
  have readable : (begunLines 0 entries).all isReadable = true := by
    rw [List.all_eq_true]
    exact fun character member => isReadable_of_isPrintable (lines.printable character member)
  have outside : (⟨[], -1, []⟩ : Reading).indentation < (0 : Nat) := by
    decide
  have ended :
      (((⟨[], -1, []⟩ : Reading).push (record entries).tokens).lexer true
        ((Position.origin.behind (begunLines 0 entries)).place [])).Yields
          (record entries).tokens := by
    intro fuel enough
    rw [complete?_of_end rfl (Nat.zero_lt_of_lt enough)]
    rfl
  have yields :
      ((⟨[], -1, []⟩ : Reading).lexer true
        (Position.origin.place (begunLines 0 entries ++ []))).Yields (record entries).tokens :=
    yields_of_begunLines keyed (fun entry member => (legible entry member).reads)
      (fun entry member => (legible entry member).isLines 0) outside rfl (.inl rfl) ended
  rw [List.append_nil] at yields
  have enough := Nat.lt_succ_of_le
    (Lexer.length_advance_le
      ((⟨[], -1, []⟩ : Reading).lexer true (Position.origin.place (begunLines 0 entries))))
  have complete := yields _ enough
  have started :
      Lexer.start (begunLines 0 entries) =
        (⟨[], -1, []⟩ : Reading).lexer true (Position.origin.place (begunLines 0 entries)) := by
    rw [Lexer.start, Position.locate_eq_place lines.printable]
    rfl
  obtain ⟨first, rest, characters, _⟩ := exists_opens_begunLines 0 keyed
  have continues : (Position.origin.place (begunLines 0 entries)).isEmpty = false := by
    rw [characters]
    rfl
  rw [tokens?, toList_render keyed.nonempty, readable, if_pos rfl, started]
  rw [Lexer.complete?] at complete
  change (if (Position.origin.place (begunLines 0 entries)).isEmpty then _ else _) = _ at complete
  rw [continues, if_neg Bool.false_ne_true] at complete
  change
    Lexer.run? _ ((Position.origin.place (begunLines 0 entries)).length + 1) = _ at complete
  rwa [Position.length_place] at complete

end Node

end Yaml

end DroneSession
