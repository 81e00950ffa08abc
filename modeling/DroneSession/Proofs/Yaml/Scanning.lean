import DroneSession.Proofs.Yaml.LiteralScalar

namespace DroneSession

/-!
# Steps of the lexer

Between two tokens outside of brackets the lexer is known by the tokens so far, the blocks that are
open and the text that is left.  What the rest of a document yields does not depend on separators
that are skipped, nor on blocks that the next token closes.
-/

namespace Yaml

/-! ## Tokens and open blocks -/

/-- The tokens of a document so far, and the columns of the blocks that are open. -/
structure Reading where
  tokens : List Token
  indentation : Int
  outer : List Int

namespace Reading

/-- Add tokens to those that were read. -/
def push
    (reading : Reading)
    (tokens : List Token) :
    Reading :=
  { reading with tokens := reading.tokens ++ tokens }

/-- Close the blocks at a column, the columns of the blocks around the innermost one being given. -/
def closeFrom
    (column : Int)
    (reading : Reading) :
    (outer : List Int) → Reading
  | [] => reading
  | parent :: outer =>
      if column < reading.indentation then
        closeFrom column
          { tokens := reading.tokens ++ [.blockEnd], indentation := parent, outer := outer } outer
      else
        reading

/-- Close the blocks that are further indented than a column. -/
def close
    (reading : Reading)
    (column : Int) :
    Reading :=
  reading.closeFrom column reading.outer

/-- The lexer between two tokens outside of brackets, where no key is possible so far. -/
def lexer
    (reading : Reading)
    (keyAllowed : Bool)
    (rest : Input) :
    Lexer where
  rest := rest
  tokens := reading.tokens.toArray
  indentation := reading.indentation
  outer := reading.outer
  key := none
  enclosing := []
  keyAllowed := keyAllowed

section

variable (reading : Reading) (keyAllowed : Bool) (rest : Input)

/-- Tokens are added one after another. -/
@[simp] theorem push_push
    (first second : List Token) :
    (reading.push first).push second = reading.push (first ++ second) := by
  simp only [push, List.append_assoc]

@[simp] theorem push_nil : reading.push [] = reading := by
  simp only [push, List.append_nil]

/-- Closing blocks from an inner one on is the same for the lexer as for what it has read. -/
theorem closeBlocks_lexer
    (column : Int)
    (outer : List Int) :
    Lexer.closeBlocks column (reading.lexer keyAllowed rest) outer =
      (reading.closeFrom column outer).lexer keyAllowed rest := by
  induction outer generalizing reading with
  | nil => rfl
  | cons parent outer inductionHypothesis =>
      rw [Lexer.closeBlocks, closeFrom]
      change (if column < reading.indentation then _ else _) = _
      split
      · rw [← inductionHypothesis]
        simp [lexer, Lexer.emit]
      · rfl

/-- Unindenting closes the blocks that are further indented. -/
theorem unindent_lexer
    (column : Int) :
    (reading.lexer keyAllowed rest).unindent column =
      (reading.close column).lexer keyAllowed rest :=
  closeBlocks_lexer reading keyAllowed rest column reading.outer

/-- At the end of a document all blocks are closed. -/
theorem finish?_lexer :
    (reading.lexer keyAllowed rest).finish? =
      some ((reading.close (-1)).lexer keyAllowed rest) := by
  rw [Lexer.finish?, unindent_lexer]
  rfl

/-- Blocks that are closed at a column stay closed. -/
theorem close_close
    (column : Int) :
    (reading.close column).close column = reading.close column := by
  have closed :
      ∀ (reading : Reading) (outer : List Int),
        reading.outer = outer →
        (reading.closeFrom column outer).close column = reading.closeFrom column outer := by
    intro reading outer same
    induction outer generalizing reading with
    | nil => rw [closeFrom, close, same, closeFrom]
    | cons parent outer inductionHypothesis =>
        by_cases inside : column < reading.indentation
        · rw [closeFrom, if_pos inside]
          exact inductionHypothesis _ rfl
        · rw [closeFrom, if_neg inside, close, same, closeFrom, if_neg inside]
  exact closed reading reading.outer rfl

/-- A block at a column or in front of it is not closed. -/
theorem close_of_le
    {column : Int}
    (inside : reading.indentation ≤ column) :
    reading.close column = reading := by
  rw [close]
  cases reading.outer with
  | nil => rfl
  | cons parent outer => rw [closeFrom, if_neg (Int.not_lt.mpr inside)]

end

end Reading

/-! ## Runs -/

namespace Lexer

theorem advance_eq_self
    {lexer : Lexer}
    (unskipped :
      skip lexer.inFlow lexer.keyAllowed false lexer.rest = (lexer.keyAllowed, lexer.rest)) :
    lexer.advance = lexer := by
  rw [advance, unskipped]

/-- The tokens of a document that was read in part, if `fuel` suffices. -/
def complete?
    (lexer : Lexer)
    (fuel : Nat) :
    Option (List Token) :=
  if lexer.rest.isEmpty then
    lexer.finish?.map fun lexer => lexer.tokens.toList
  else
    lexer.run? fuel

/-- A document that was read in part has these tokens, if every further token takes a character. -/
def Yields
    (lexer : Lexer)
    (tokens : List Token) :
    Prop :=
  ∀ fuel, lexer.advance.rest.length < fuel → lexer.complete? fuel = some tokens

/-- Lexers that take the same step have the same tokens, as long as something is left. -/
theorem complete?_of_step?
    {lexer other : Lexer}
    (same : lexer.step? = other.step?)
    (continues : lexer.rest ≠ [])
    (otherContinues : other.rest ≠ [])
    (fuel : Nat) :
    lexer.complete? fuel = other.complete? fuel := by
  rw [complete?, complete?, List.isEmpty_eq_false_iff.mpr continues,
    List.isEmpty_eq_false_iff.mpr otherContinues]
  cases fuel with
  | zero => rfl
  | succ fuel => rw [if_neg Bool.false_ne_true, if_neg Bool.false_ne_true, run?, run?, same]

/-- Skipping separators makes the rest of a document no longer. -/
theorem length_advance_le (lexer : Lexer) : lexer.advance.rest.length ≤ lexer.rest.length :=
  Position.length_skip_le _ _ _ _

/-- A step in front of the rest of a document yields what the rest yields. -/
theorem Yields.of_step
    {lexer next : Lexer}
    {tokens : List Token}
    (continues : lexer.rest ≠ [])
    (step : lexer.step? = some next)
    (shorter : next.advance.rest.length < lexer.advance.rest.length)
    (yields : next.Yields tokens) :
    lexer.Yields tokens := by
  intro fuel enough
  cases fuel with
  | zero => cases enough
  | succ fuel =>
      have later := yields fuel (by omega)
      rw [complete?, List.isEmpty_eq_false_iff.mpr continues, if_neg Bool.false_ne_true, run?, step]
      exact later

theorem rest_unindent
    (lexer : Lexer)
    (column : Int) :
    (lexer.unindent column).rest = lexer.rest := by
  have closed :
      ∀ (outer : List Int) (lexer : Lexer), (closeBlocks column lexer outer).rest = lexer.rest := by
    intro outer
    induction outer with
    | nil =>
        intro lexer
        rfl
    | cons parent outer inductionHypothesis =>
        intro lexer
        rw [closeBlocks]
        split
        · exact inductionHypothesis _
        · rfl
  rw [unindent]
  split
  · rfl
  · exact closed _ _

/-- A step in front of a token that neither is a directive nor bounds a document. -/
theorem step?_of_token
    {lexer expired : Lexer}
    (expires : lexer.advance.expireKeys? = some expired)
    {next : Located}
    {later : Input}
    (rest : expired.rest = next :: later)
    (noDirective : next.character ≠ '%')
    (unmarked : Input.atBoundary (next :: later) = false) :
    lexer.step? = (expired.unindent next.column).readToken? next later := by
  simp only [Input.atBoundary, Bool.or_eq_false_iff] at unmarked
  rw [step?, expires]
  simp only [Option.bind_eq_bind, Option.bind_some, rest, rest_unindent, noDirective, and_false,
    if_false, unmarked.1, unmarked.2, Bool.false_eq_true]

end Lexer

namespace Reading

open Lexer (Yields)

/-- Between two tokens outside of brackets the lexer skips separators and does nothing else. -/
theorem advance_lexer
    (reading : Reading)
    (keyAllowed : Bool)
    (rest : Input) :
    (reading.lexer keyAllowed rest).advance =
      reading.lexer (Lexer.skip false keyAllowed false rest).1
        (Lexer.skip false keyAllowed false rest).2 :=
  rfl

/-- Outside of brackets the lexer closes blocks and reads the token at the next character. -/
theorem step?_of_skip
    {reading : Reading}
    {keyAllowed allowed : Bool}
    {rest later : Input}
    {next : Located}
    (skipped : Lexer.skip false keyAllowed false rest = (allowed, next :: later))
    (noDirective : next.character ≠ '%')
    (unmarked : Input.atBoundary (next :: later) = false) :
    (reading.lexer keyAllowed rest).step? =
      ((reading.close next.column).lexer allowed (next :: later)).readToken? next later := by
  have expires :
      (reading.lexer keyAllowed rest).advance.expireKeys? =
        some (reading.lexer allowed (next :: later)) := by
    rw [advance_lexer, skipped]
    rfl
  rw [Lexer.step?_of_token expires rfl noDirective unmarked, unindent_lexer]

/-- Behind the last token the lexer closes all blocks. -/
theorem step?_of_end
    {reading : Reading}
    {keyAllowed allowed : Bool}
    {rest : Input}
    (skipped : Lexer.skip false keyAllowed false rest = (allowed, [])) :
    (reading.lexer keyAllowed rest).step? = some ((reading.close (-1)).lexer allowed []) := by
  have unexpired : (reading.lexer allowed []).expireKeys? = some (reading.lexer allowed []) :=
    rfl
  rw [Lexer.step?, advance_lexer, skipped, unexpired]
  exact finish?_lexer reading allowed []

/-- At its end a document has the tokens so far, and the ends of all blocks. -/
theorem complete?_of_end
    {reading : Reading}
    {keyAllowed allowed : Bool}
    {rest : Input}
    (skipped : Lexer.skip false keyAllowed false rest = (allowed, []))
    {fuel : Nat}
    (enough : 0 < fuel) :
    (reading.lexer keyAllowed rest).complete? fuel = some (reading.close (-1)).tokens := by
  cases rest with
  | nil =>
      rw [Lexer.complete?]
      change (if true then _ else _) = _
      rw [if_pos rfl, finish?_lexer]
      rfl
  | cons next rest =>
      cases fuel with
      | zero => cases enough
      | succ fuel =>
          rw [Lexer.complete?]
          change (if false then _ else _) = _
          rw [if_neg Bool.false_ne_true, Lexer.run?, step?_of_end skipped]
          change ((reading.close (-1)).lexer allowed []).finish?.map _ = _
          rw [finish?_lexer, close_close]
          rfl

/-- What the lexer does next depends on where the separators end and which blocks stay open. -/
theorem step?_congr
    {reading other : Reading}
    {keyAllowed otherAllowed allowed : Bool}
    {rest otherRest later : Input}
    {next : Located}
    (skipped : Lexer.skip false keyAllowed false rest = (allowed, next :: later))
    (otherSkipped : Lexer.skip false otherAllowed false otherRest = (allowed, next :: later))
    (closed : reading.close next.column = other.close next.column) :
    (reading.lexer keyAllowed rest).step? = (other.lexer otherAllowed otherRest).step? := by
  have unexpired :
      ∀ reading : Reading,
        (reading.lexer allowed (next :: later)).expireKeys? =
          some (reading.lexer allowed (next :: later)) :=
    fun _ => rfl
  have sameBlocks :
      (reading.lexer allowed (next :: later)).unindent next.column =
        (other.lexer allowed (next :: later)).unindent next.column := by
    rw [unindent_lexer, unindent_lexer, closed]
  have restIs :
      ∀ reading : Reading, (reading.lexer allowed (next :: later)).rest = next :: later :=
    fun _ => rfl
  simp only [Lexer.step?, advance_lexer, skipped, otherSkipped, unexpired, Option.bind_eq_bind,
    Option.bind_some, restIs, sameBlocks]

/--
What is left yields the same tokens behind another reading and other separators, as long as the
next token, or the end of the document, closes the blocks in which the readings differ.
-/
theorem yields_of_dedented
    {reading other : Reading}
    {keyAllowed : Bool}
    {rest : Input}
    {position : Position}
    {following : List Char}
    {indentation : Nat}
    (skipped :
      Lexer.skip false keyAllowed false rest =
        Lexer.skip false true false (position.place following))
    (starts : position.column = 0)
    (dedented : Dedented indentation following)
    (closed : ∀ column : Int, column < indentation → reading.close column = other.close column)
    {tokens : List Token}
    (yields : (other.lexer true (position.place following)).Yields tokens) :
    (reading.lexer keyAllowed rest).Yields tokens := by
  intro fuel enough
  have positive : 0 < fuel :=
    Nat.zero_lt_of_lt enough
  have enoughOther : (other.lexer true (position.place following)).advance.rest.length < fuel := by
    have length :
        (Lexer.skip false keyAllowed false rest).2.length =
          (Lexer.skip false true false (position.place following)).2.length := by
      rw [skipped]
    exact lt_of_eq_of_lt length.symm enough
  have known := yields fuel enoughOther
  rcases dedented with rfl | ⟨margin, below, first, others, rfl, opens⟩
  · have ended : Lexer.skip false true false (position.place []) = (true, []) :=
      rfl
    rw [complete?_of_end ended positive] at known
    rw [complete?_of_end (skipped.trans ended) positive, closed (-1) (by omega), known]
  · have continued :
        Lexer.skip false true false (position.place (spaces margin ++ first :: others)) =
          (true, (position.behind (spaces margin)).place (first :: others)) := by
      rw [Position.skip_spaces, Position.skip_of_opens opens]
    have column : ((position.behind (spaces margin)).locate first).column = margin := by
      change (position.behind (spaces margin)).column = margin
      rw [Position.column_behind_spaces, starts, Nat.zero_add]
    have same :=
      step?_congr (skipped.trans continued) continued
        (closed ((position.behind (spaces margin)).locate first).column (by omega))
    have nonempty :
        ∀ {allowed : Bool} {input : Input},
          Lexer.skip false allowed false input =
            (true, (position.behind (spaces margin)).place (first :: others)) →
          input ≠ [] := by
      rintro allowed input skipped rfl
      cases skipped
    rw [Lexer.complete?_of_step? same (nonempty (skipped.trans continued)) (nonempty continued),
      known]

/-- The spaces in front of a token yield nothing. -/
theorem yields_of_spaces
    {reading : Reading}
    {keyAllowed : Bool}
    {position : Position}
    {first : Char}
    (opens : Opens first)
    (count : Nat)
    {later : List Char}
    {tokens : List Token}
    (yields :
      (reading.lexer keyAllowed
          ((position.behind (spaces count)).place (first :: later))).Yields tokens) :
    (reading.lexer keyAllowed (position.place (spaces count ++ first :: later))).Yields tokens := by
  have skipped :
      Lexer.skip false keyAllowed false (position.place (spaces count ++ first :: later)) =
        (keyAllowed, (position.behind (spaces count)).place (first :: later)) := by
    rw [Position.skip_spaces, Position.skip_of_opens opens]
  have unskipped :=
    Position.skip_of_opens opens false keyAllowed later (position.behind (spaces count))
  have nonempty : position.place (spaces count ++ first :: later) ≠ [] := by
    intro empty
    rw [empty] at skipped
    cases skipped
  intro fuel enough
  rw [Lexer.complete?_of_step? (step?_congr skipped unskipped rfl) nonempty (List.cons_ne_nil _ _)]
  refine yields fuel (lt_of_eq_of_lt ?_ enough)
  rw [advance_lexer, advance_lexer, skipped, unskipped]

/-! ## One token -/

section

variable {reading : Reading} {position : Position} {first : Char}

/--
A character that opens a token inside the innermost block is read without skipping or closing.
-/
theorem step?_of_opens
    (opens : Opens first)
    (noDirective : first ≠ '%')
    (inside : reading.indentation ≤ position.column)
    (keyAllowed : Bool)
    {later : List Char}
    (unmarked : Input.atBoundary (position.place (first :: later)) = false) :
    (reading.lexer keyAllowed (position.place (first :: later))).step? =
      (reading.lexer keyAllowed (position.place (first :: later))).readToken?
        (position.locate first) ((position.after first).place later) := by
  have stays : reading.close (position.locate first).column = reading :=
    reading.close_of_le inside
  rw [step?_of_skip (Position.skip_of_opens opens false keyAllowed later position) noDirective
    unmarked, stays]
  rfl

/-- A token yields itself and then what follows, if reading it takes a character. -/
theorem yields_of_readToken
    (opens : Opens first)
    (noDirective : first ≠ '%')
    (inside : reading.indentation ≤ position.column)
    {keyAllowed : Bool}
    {later : List Char}
    (unmarked : Input.atBoundary (position.place (first :: later)) = false)
    {next : Lexer}
    (read :
      (reading.lexer keyAllowed (position.place (first :: later))).readToken?
          (position.locate first) ((position.after first).place later) =
        some next)
    (shorter : next.advance.rest.length ≤ later.length)
    {tokens : List Token}
    (yields : next.Yields tokens) :
    (reading.lexer keyAllowed (position.place (first :: later))).Yields tokens := by
  refine Yields.of_step (List.cons_ne_nil _ _)
    ((step?_of_opens opens noDirective inside keyAllowed unmarked).trans read) ?_ yields
  have advanced :
      (reading.lexer keyAllowed (position.place (first :: later))).advance.rest =
        position.place (first :: later) := by
    rw [advance_lexer, Position.skip_of_opens opens]
    rfl
  rw [advanced, Position.length_place, List.length_cons]
  omega

/-- A token that ends its line, and what follows it. -/
theorem yields_of_line
    (opens : Opens first)
    (noDirective : first ≠ '%')
    (inside : reading.indentation ≤ position.column)
    (behindStart : position.column ≠ 0)
    {keyAllowed allowed : Bool}
    {written following : List Char}
    {other : Reading}
    {rest : Input}
    (read :
      (reading.lexer keyAllowed (position.place (first :: (written ++ following)))).readToken?
          (position.locate first) ((position.after first).place (written ++ following)) =
        some (other.lexer allowed rest))
    (skipped :
      Lexer.skip false allowed false rest =
        Lexer.skip false true false ((position.behind (first :: written)).place following))
    (starts : (position.behind (first :: written)).column = 0)
    {indentation : Nat}
    (dedented : Dedented indentation following)
    {tokens : List Token}
    (yields :
      (other.lexer true ((position.behind (first :: written)).place following)).Yields tokens) :
    (reading.lexer keyAllowed (position.place (first :: (written ++ following)))).Yields
      tokens := by
  refine yields_of_readToken opens noDirective inside (atBoundary_of_column behindStart _) read ?_
    (yields_of_dedented skipped starts dedented (fun _ _ => rfl) yields)
  have bound :=
    Position.length_skip_le false true false ((position.behind (first :: written)).place following)
  rw [Position.length_place, ← skipped] at bound
  rw [List.length_append]
  exact Nat.le_trans bound (Nat.le_add_left _ _)

end

end Reading

end Yaml

end DroneSession
