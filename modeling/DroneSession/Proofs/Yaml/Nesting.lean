import DroneSession.Proofs.Yaml.Scalars

namespace DroneSession

/-!
# Keys, items and nested blocks

The start of a mapping shows only at the colon behind its first key.  A block goes on with the next
line at its column, and the first line that is not as far indented ends it.
-/

namespace Yaml

/-- Plain text that is short enough to be a key. -/
structure IsKey (name : String) : Prop where
  plain : IsPlain name.toList
  short : encodedLength name.toList ≤ Lexer.longestKey

/-- A name that a tag can give. -/
structure IsTagName (name : String) : Prop where
  nonempty : name.toList ≠ []
  word : ∀ character ∈ name.toList, isWord character = true
  significant : significant (Bytes.ofText name) = Bytes.ofText name
  octets : Bytes.ofText name ≠ []
  resolves : Tag.ofOctets (Bytes.ofText "!" ++ Bytes.ofText name) = .ofName name

namespace Reading

open Lexer (Yields)

/-- Open a block at a column, unless it is open already. -/
def enter
    (reading : Reading)
    (column : Nat) :
    Reading :=
  if reading.indentation < column then
    { tokens := reading.tokens ++ [.blockMappingStart]
      indentation := column
      outer := reading.indentation :: reading.outer }
  else
    reading

theorem insertIdx_length
    (front later : List Token)
    (token : Token) :
    (front ++ later).insertIdx front.length token = front ++ token :: later := by
  induction front with
  | nil => rfl
  | cons first front inductionHypothesis =>
      rw [List.cons_append, List.length_cons, List.insertIdx_succ_cons, inductionHypothesis]
      rfl

/-- What is remembered of plain text in front of which the reader could go on with a key. -/
def possibleKey
    (reading : Reading)
    (position : Position)
    (first : Char) :
    PossibleKey where
  position := reading.tokens.length
  required := reading.indentation == position.column
  start := position.locate first

/-- The lexer behind a text that may turn out to be a key. -/
def remembering
    (reading : Reading)
    (name : String)
    (position : Position)
    (first : Char)
    (later : List Char) :
    Lexer :=
  { (reading.push [.scalar .plain name]).lexer false
      ((position.behind name.toList).place (':' :: later)) with
    key := some (reading.possibleKey position first) }

/-- Behind a possible key there is nothing to skip in front of its colon. -/
theorem advance_remembering
    (reading : Reading)
    (name : String)
    (position : Position)
    (first : Char)
    (later : List Char) :
    (reading.remembering name position first later).advance =
      reading.remembering name position first later := by
  have opens : Opens ':' :=
    ⟨rfl, by decide, by decide⟩
  exact Lexer.advance_eq_self (Position.skip_of_opens opens false false later _)

/-- The colon makes a key of the text in front of it. -/
theorem acceptColon?_remembering
    (reading : Reading)
    (name : String)
    (position : Position)
    (first : Char)
    (later : List Char) :
    (reading.remembering name position first later).acceptColon?
        (position.behind name.toList).column
        ((position.behind (name.toList ++ [':'])).place later) =
      some
        (((reading.enter position.column).push [.key, .scalar .plain name, .value]).lexer false
          ((position.behind (name.toList ++ [':'])).place later)) := by
  have inserted : ∀ (token : Token) (later : List Token),
      (reading.tokens ++ later).toArray.insertIdxIfInBounds reading.tokens.length token =
        (reading.tokens ++ token :: later).toArray := by
    intro token later
    rw [List.insertIdxIfInBounds_toArray, insertIdx_length]
  by_cases deeper : reading.indentation < position.column
  · simp [Lexer.acceptColon?, remembering, lexer, push, possibleKey, Lexer.indent, Lexer.inFlow,
      Lexer.accept, enter, Position.locate, deeper, inserted]
  · simp [Lexer.acceptColon?, remembering, lexer, push, possibleKey, Lexer.indent, Lexer.inFlow,
      Lexer.accept, enter, Position.locate, deeper, inserted]

section

variable {reading : Reading} {name : String} (isKey : IsKey name)
variable {position : Position} {later : List Char}

include isKey

/-- The text is short enough, so it may still be a key at the colon. -/
theorem expireKeys?_remembering
    (first : Char) :
    (reading.remembering name position first later).expireKeys? =
      some (reading.remembering name position first later) := by
  have kept :
      Lexer.keep? ((position.behind name.toList).locate ':')
          (some (reading.possibleKey position first)) =
        some (some (reading.possibleKey position first)) := by
    have short := isKey.short
    have sameLine : (position.behind name.toList).line = position.line :=
      Position.line_behind isKey.plain.phrase.unbroken
    have index : (position.behind name.toList).index = _ := Position.index_behind
    rw [Lexer.keep?, if_neg]
    rintro (line | far)
    · change position.line < (position.behind name.toList).line at line
      omega
    · change position.index + Lexer.longestKey < (position.behind name.toList).index at far
      omega
  change (Lexer.keep? _ (some (reading.possibleKey position first))).bind _ = _
  rw [kept]
  rfl

variable (inside : reading.indentation ≤ position.column)

include inside

/-- The colon is further in than the block around the key. -/
theorem unindent_remembering
    (first : Char) :
    (reading.remembering name position first later).unindent (position.behind name.toList).column =
      reading.remembering name position first later := by
  change Lexer.closeBlocks _ _ reading.outer = _
  cases reading.outer with
  | nil => rfl
  | cons parent outer =>
      rw [Lexer.closeBlocks, if_neg]
      change ¬ ((position.behind name.toList).column : Int) < reading.indentation
      rw [Position.column_behind isKey.plain.phrase.unbroken]
      omega

variable (separated : Writable.separates later = true)

include separated

/-- Plain text in front of a colon is remembered as a possible key. -/
theorem acceptPlainText?_key
    {first : Char}
    {rest : List Char}
    (characters : name.toList = first :: rest) :
    (reading.lexer true (position.place (name.toList ++ ':' :: later))).acceptPlainText? =
      some (reading.remembering name position first later) := by
  have ends : PlainEnd (reading.indentation + 1).toNat (':' :: later) :=
    .colon separated
  have indented : (reading.indentation + 1).toNat ≤ position.column + 1 := by
    omega
  have read := plainText?_place ends isKey.plain indented
  have stop :
      plainStop (position.behind name.toList) (':' :: later) =
        ([], (position.behind name.toList).place (':' :: later)) :=
    rfl
  have remembered :
      (reading.lexer true (position.place (name.toList ++ ':' :: later))).rememberKey? =
        some
          { reading.lexer true (position.place (name.toList ++ ':' :: later)) with
            key := some (reading.possibleKey position first) } := by
    rw [characters]
    rfl
  rw [Lexer.acceptPlainText?, remembered]
  change
    (plainText? false (reading.indentation + 1).toNat
      (position.place (name.toList ++ ':' :: later))).bind _ = _
  rw [read, Option.bind_some, stop, String.ofList_toList]
  simp [remembering, lexer, Lexer.accept, push]

/-- The colon behind plain text makes a key of it and opens its block. -/
theorem step?_remembering
    {first : Char}
    {rest : List Char}
    (characters : name.toList = first :: rest) :
    (reading.remembering name position first later).step? =
      some
        (((reading.enter position.column).push [.key, .scalar .plain name, .value]).lexer false
          ((position.behind (name.toList ++ [':'])).place later)) := by
  have expires :
      (reading.remembering name position first later).advance.expireKeys? =
        some (reading.remembering name position first later) := by
    rw [advance_remembering]
    exact expireKeys?_remembering isKey first
  have behindStart : (position.behind name.toList).column ≠ 0 := by
    rw [Position.column_behind isKey.plain.phrase.unbroken, characters, List.length_cons]
    omega
  have readColon :
      (reading.remembering name position first later).readToken?
          ((position.behind name.toList).locate ':')
          (((position.behind name.toList).after ':').place later) =
        (reading.remembering name position first later).acceptColon?
          (position.behind name.toList).column
          (((position.behind name.toList).after ':').place later) := by
    simp [Lexer.readToken?, Position.locate, Position.separates_place, separated]
  have behindColon :
      ((position.behind name.toList).after ':') = position.behind (name.toList ++ [':']) := by
    rw [Position.behind_append]
    rfl
  have noDirective : ((position.behind name.toList).locate ':').character ≠ '%' := by
    change ':' ≠ '%'
    decide
  rw [Lexer.step?_of_token expires rfl noDirective
    (atBoundary_of_column behindStart (':' :: later))]
  change Lexer.readToken? (Lexer.unindent _ (position.behind name.toList).column) _ _ = _
  rw [unindent_remembering isKey inside, readColon, behindColon]
  exact acceptColon?_remembering reading name position first later

/-- A key and its colon yield the key in the block that they open, and then what follows. -/
theorem yields_of_key
    {tokens : List Token}
    (yields :
      (((reading.enter position.column).push [.key, .scalar .plain name, .value]).lexer false
          ((position.behind (name.toList ++ [':'])).place later)).Yields tokens) :
    (reading.lexer true (position.place (name.toList ++ ':' :: later))).Yields tokens := by
  obtain ⟨first, rest, characters⟩ := List.exists_cons_of_ne_nil isKey.plain.phrase.ne_nil
  have plain := isKey.plain
  rw [characters] at plain
  obtain ⟨opens, noDirective⟩ := opens_of_isPlain plain
  have ends : PlainEnd 0 (':' :: later) :=
    .colon separated
  have unmarked := atBoundary_of_startsAsMark ends plain.unmarked position
  have read :
      (reading.lexer true (position.place (first :: rest ++ ':' :: later))).readToken?
          (position.locate first) ((position.after first).place (rest ++ ':' :: later)) =
        some (reading.remembering name position first later) := by
    rw [readToken?_of_isPlain plain (':' :: later) position rfl, ← characters]
    exact acceptPlainText?_key isKey inside separated characters
  have remembered : (reading.remembering name position first later).Yields tokens := by
    refine Yields.of_step (List.cons_ne_nil _ _)
      (step?_remembering isKey inside separated characters) ?_ yields
    have bound := Lexer.length_advance_le
      (((reading.enter position.column).push [.key, .scalar .plain name, .value]).lexer false
        ((position.behind (name.toList ++ [':'])).place later))
    rw [advance_remembering]
    change _ < ((position.behind name.toList).place (':' :: later)).length
    change _ ≤ ((position.behind (name.toList ++ [':'])).place later).length at bound
    rw [Position.length_place] at bound ⊢
    exact Nat.lt_succ_of_le bound
  rw [characters]
  refine yields_of_readToken opens noDirective inside unmarked read ?_ remembered
  rw [advance_remembering]
  change ((position.behind name.toList).place (':' :: later)).length ≤
    (rest ++ ':' :: later).length
  rw [Position.length_place, List.length_append]
  exact Nat.le_add_left _ _

end

/-! ## Items and tags -/

section

variable {reading : Reading} {position : Position} {tokens : List Token}

/-- The dash in front of an item, at the column of the block around it. -/
theorem yields_of_dash
    (level : reading.indentation = position.column)
    {later : List Char}
    (yields :
      ((reading.push [.blockEntry]).lexer true
          ((position.after '-').place (' ' :: later))).Yields tokens) :
    (reading.lexer true (position.place ('-' :: ' ' :: later))).Yields tokens := by
  have unmarked : Input.atBoundary (position.place ('-' :: ' ' :: later)) = false := by
    simp [Input.atBoundary, Input.atMark, Input.peek?, Position.locate]
  have read :
      (reading.lexer true (position.place ('-' :: ' ' :: later))).readToken?
          (position.locate '-') ((position.after '-').place (' ' :: later)) =
        some
          ((reading.push [.blockEntry]).lexer true
            ((position.after '-').place (' ' :: later))) := by
    change Lexer.acceptDash? _ position.column _ = _
    simp [Lexer.acceptDash?, Lexer.openBlock?, Lexer.inFlow, Lexer.indent, Lexer.forgetKey?,
      Lexer.accept, lexer, push, level]
  refine yields_of_readToken ⟨rfl, by decide, by decide⟩ (by decide) (Int.le_of_eq level) unmarked
    read ?_ yields
  refine Nat.le_trans (Lexer.length_advance_le _) ?_
  exact Nat.le_of_eq (Position.length_place _ (' ' :: later))

/-- The lexer behind an opening bracket. -/
def inBrackets
    (reading : Reading)
    (rest : Input) :
    Lexer :=
  { reading.lexer true rest with enclosing := [none] }

/-- Inside of brackets there is nothing to skip in front of the closing one. -/
theorem advance_inBrackets
    (reading : Reading)
    (position : Position)
    (later : List Char) :
    (reading.inBrackets (position.place (']' :: later))).advance =
      reading.inBrackets (position.place (']' :: later)) := by
  have opens : Opens ']' :=
    ⟨rfl, by decide, by decide⟩
  exact Lexer.advance_eq_self (Position.skip_of_opens opens true true later position)

/-- The bracket that closes a list without items. -/
theorem step?_inBrackets
    (reading : Reading)
    (behindStart : position.column ≠ 0)
    (later : List Char) :
    (reading.inBrackets (position.place (']' :: later))).step? =
      some ((reading.push [.flowSequenceEnd]).lexer false ((position.after ']').place later)) := by
  have expires :
      (reading.inBrackets (position.place (']' :: later))).advance.expireKeys? =
        some (reading.inBrackets (position.place (']' :: later))) := by
    rw [advance_inBrackets]
    rfl
  have noDirective : (position.locate ']').character ≠ '%' := by
    change ']' ≠ '%'
    decide
  rw [Lexer.step?_of_token expires rfl noDirective
    (atBoundary_of_column behindStart (']' :: later))]
  change Lexer.acceptClosing? _ .flowSequenceEnd _ = _
  simp [Lexer.acceptClosing?, Lexer.forgetKey?, Lexer.accept, Lexer.unindent, Lexer.inFlow,
    inBrackets, lexer, push]

/-- A list without items, with the end of its line. -/
theorem yields_of_brackets
    (inside : reading.indentation ≤ position.column)
    (behindStart : position.column ≠ 0)
    {indentation : Nat}
    {following : List Char}
    (dedented : Dedented indentation following)
    (yields :
      ((reading.push [.flowSequenceStart, .flowSequenceEnd]).lexer true
          ((position.behind ['[', ']', '\n']).place following)).Yields tokens) :
    (reading.lexer false (position.place (['[', ']', '\n'] ++ following))).Yields tokens := by
  have opened :
      (reading.lexer false (position.place (['[', ']', '\n'] ++ following))).readToken?
          (position.locate '[') ((position.after '[').place (']' :: '\n' :: following)) =
        some
          ((reading.push [.flowSequenceStart]).inBrackets
            ((position.after '[').place (']' :: '\n' :: following))) := by
    change Lexer.acceptOpening? _ .flowSequenceStart _ = _
    rw [Lexer.acceptOpening?, rememberKey?_lexer]
    simp [Lexer.accept, inBrackets, lexer, push]
  have behindBracket : (position.after '[').column ≠ 0 := by
    rw [Position.column_after rfl]
    exact Nat.succ_ne_zero _
  have closed :=
    step?_inBrackets (reading.push [.flowSequenceStart]) behindBracket ('\n' :: following)
  have starts : (position.behind ['[', ']', '\n']).column = 0 :=
    rfl
  have skipped :
      Lexer.skip false false false
          (((position.after '[').after ']').place ('\n' :: following)) =
        Lexer.skip false true false ((position.behind ['[', ']', '\n']).place following) :=
    Position.skip_break rfl _ _ _
  have behind :=
    yields_of_dedented skipped starts dedented (fun _ _ => rfl) yields
  have within :
      ((reading.push [.flowSequenceStart]).inBrackets
        ((position.after '[').place (']' :: '\n' :: following))).Yields tokens := by
    refine Yields.of_step (List.cons_ne_nil _ _) closed ?_ (by rwa [push_push])
    rw [advance_inBrackets]
    refine Nat.lt_of_le_of_lt (Lexer.length_advance_le _) ?_
    change (((position.after '[').after ']').place ('\n' :: following)).length <
      ((position.after '[').place (']' :: '\n' :: following)).length
    rw [Position.length_place, Position.length_place]
    exact Nat.lt_succ_self _
  refine yields_of_readToken ⟨rfl, by decide, by decide⟩ (by decide) inside
    (atBoundary_of_column behindStart _) opened ?_ within
  rw [advance_inBrackets]
  exact Nat.le_of_eq (Position.length_place _ (']' :: '\n' :: following))

/-- The name of a tag is read up to the space behind it. -/
theorem tag?_place
    {name : String}
    (isTagName : IsTagName name)
    (later : List Char)
    (position : Position) :
    tag? false (position.place ('!' :: (name.toList ++ ' ' :: later))) =
      some
        (.tag "!" (Bytes.ofText name),
          (position.behind ('!' :: name.toList)).place (' ' :: later)) := by
  have outside : Position.StartsOutside isWord (' ' :: later) := by
    rintro character ⟨⟩
    rfl
  have span := Position.span_place isTagName.word outside (position.after '!')
  obtain ⟨front, last, characters⟩ := exists_concat isTagName.nonempty
  have opens :
      Input.peek? (position.place ('!' :: (name.toList ++ ' ' :: later))) 1 ≠ some '<' := by
    obtain ⟨first, rest, characters⟩ := List.exists_cons_of_ne_nil isTagName.nonempty
    have word := isTagName.word first (by simp [characters])
    rw [Position.peek?_place, characters]
    rintro ⟨⟩
    exact absurd word (by decide)
  have handled :
      handle (position.place ('!' :: (name.toList ++ ' ' :: later))) =
        ('!' :: name.toList, (position.behind ('!' :: name.toList)).place (' ' :: later)) := by
    rw [handle]
    simp only [Position.place_cons, List.drop_one, List.tail_cons, span]
    rfl
  have unclosed : isClosed ('!' :: name.toList) = false := by
    have word := isTagName.word last (by simp [characters])
    have noMark : last ≠ '!' := by
      rintro rfl
      exact absurd word (by decide)
    rw [isClosed, characters, ← List.cons_append, List.getLast?_concat]
    simp [noMark]
  have unresolved :
      resource? false ((position.behind ('!' :: name.toList)).place (' ' :: later))
          ((position.behind ('!' :: name.toList)).place (' ' :: later)) =
        some ([], (position.behind ('!' :: name.toList)).place (' ' :: later)) :=
    rfl
  have suffix :
      significant (Bytes.ofText (String.ofList (('!' :: name.toList).drop 1)) ++ []) =
        Bytes.ofText name := by
    rw [List.append_nil, List.drop_one, List.tail_cons, String.ofList_toList, isTagName.significant]
  have read :
      openTag? (position.place ('!' :: (name.toList ++ ' ' :: later))) =
        some
          (.tag "!" (Bytes.ofText name),
            (position.behind ('!' :: name.toList)).place (' ' :: later)) := by
    rw [openTag?, if_neg opens]
    simp only [handled, unclosed, Bool.false_eq_true, if_false, unresolved, Option.bind_eq_bind,
      Option.bind_some, suffix, List.isEmpty_eq_false_iff.mpr isTagName.octets]
    rfl
  rw [tag?, read]
  rfl

/-- A tag yields itself and then what follows. -/
theorem yields_of_tag
    (inside : reading.indentation ≤ position.column)
    (behindStart : position.column ≠ 0)
    {name : String}
    (isTagName : IsTagName name)
    {later : List Char}
    (yields :
      ((reading.push [.tag "!" (Bytes.ofText name)]).lexer false
          ((position.behind ('!' :: name.toList)).place (' ' :: later))).Yields tokens) :
    (reading.lexer false (position.place ('!' :: (name.toList ++ ' ' :: later)))).Yields
      tokens := by
  have read :
      (reading.lexer false (position.place ('!' :: (name.toList ++ ' ' :: later)))).readToken?
          (position.locate '!') ((position.after '!').place (name.toList ++ ' ' :: later)) =
        some
          ((reading.push [.tag "!" (Bytes.ofText name)]).lexer false
            ((position.behind ('!' :: name.toList)).place (' ' :: later))) := by
    change Lexer.acceptPossibleKey? _
      (tag? false (position.place ('!' :: (name.toList ++ ' ' :: later)))) = _
    rw [tag?_place isTagName, Lexer.acceptPossibleKey?, rememberKey?_lexer]
    exact congrArg some (accept_lexer reading false false _ _ _)
  refine yields_of_readToken ⟨rfl, by decide, by decide⟩ (by decide) inside
    (atBoundary_of_column behindStart _) read ?_ yields
  refine Nat.le_trans (Lexer.length_advance_le _) ?_
  change ((position.behind ('!' :: name.toList)).place (' ' :: later)).length ≤
    (name.toList ++ ' ' :: later).length
  rw [Position.length_place, List.length_append]
  exact Nat.le_add_left _ _

end

end Reading

end Yaml

end DroneSession
