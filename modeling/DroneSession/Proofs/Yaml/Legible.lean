import DroneSession.Proofs.Yaml.Nesting

namespace DroneSession

/-!
# Documents that can be read

A document is legible if its mappings have short plain keys and its lists hold mappings.  Every node
of such a document fills the rest of its line or whole lines below it.
-/

namespace Yaml

namespace Node

/-- A mapping whose keys are plain text. -/
def record (entries : List (String × Node)) : Node :=
  .mapping none (entries.map fun entry => (.ofPlain entry.1, entry.2))

/-- Entries of a mapping that is written as a block, with keys that can be written as they are. -/
structure Keyed (entries : List (String × Node)) : Prop where
  nonempty : entries ≠ []
  keys : ∀ entry ∈ entries, IsKey entry.1

/-- Nodes that read back from what is written for them. -/
inductive Legible : Node → Prop where
  | scalar
      {style : ScalarStyle}
      {text : String}
      (stands : Stands style text) :
      Legible (.scalar none style text)
  | tagged
      {name text : String}
      (isTagName : IsTagName name)
      (isPlain : IsPlain text.toList) :
      Legible (.scalar (some (.ofName name)) .plain text)
  | sequence
      {items : List (List (String × Node))}
      (keyed : ∀ item ∈ items, Keyed item)
      (legible : ∀ item ∈ items, ∀ entry ∈ item, Legible entry.2) :
      Legible (.sequence none (items.map record))
  | record
      {entries : List (String × Node)}
      (keyed : Keyed entries)
      (legible : ∀ entry ∈ entries, Legible entry.2) :
      Legible (record entries)

/-! ## Written lines -/

/-- Printable text that ends with the end of a line. -/
structure IsLines (text : List Char) : Prop where
  printable : ∀ character ∈ text, isPrintable character = true
  ended : ∃ final, text.getLast? = some final ∧ isBreak final = true

/-- Printable text in front of whole lines makes whole lines with them. -/
theorem IsLines.append
    {front later : List Char}
    (printable : ∀ character ∈ front, isPrintable character = true)
    (lines : IsLines later) :
    IsLines (front ++ later) := by
  refine ⟨?_, ?_⟩
  · intro character member
    rcases List.mem_append.mp member with inFront | inLater
    · exact printable character inFront
    · exact lines.printable character inLater
  · obtain ⟨final, last, breaks⟩ := lines.ended
    exact ⟨final, by rw [List.getLast?_append, last]; rfl, breaks⟩

/-- Whole lines end at the first column. -/
theorem IsLines.column_behind
    {text : List Char}
    (lines : IsLines text)
    (position : Position) :
    (position.behind text).column = 0 := by
  obtain ⟨final, last, breaks⟩ := lines.ended
  exact Position.column_behind_of_getLast last breaks

/-- Characters of words can be printed. -/
theorem isPrintable_of_isWord
    {character : Char}
    (word : isWord character = true) :
    isPrintable character = true := by
  change
    ((decide ('A'.val ≤ character.val ∧ character.val ≤ 'Z'.val)
          || decide ('a'.val ≤ character.val) && decide (character.val ≤ 'z'.val)
          || decide ('0'.val ≤ character.val) && decide (character.val ≤ '9'.val))
        || character == '_'
        || character == '-') = true at word
  simp only [Bool.or_eq_true, Bool.and_eq_true, decide_eq_true_eq, beq_iff_eq,
    UInt32.le_iff_toNat_le] at word
  simp only [isPrintable, Bool.or_eq_true, Bool.and_eq_true, decide_eq_true_eq]
  rcases word with (((⟨least, most⟩ | ⟨least, most⟩) | ⟨least, most⟩) | rfl) | rfl
  · refine .inl (.inl (.inr ⟨Nat.le_trans ?_ least, Nat.le_trans most ?_⟩)) <;> decide
  · refine .inl (.inl (.inr ⟨Nat.le_trans ?_ least, Nat.le_trans most ?_⟩)) <;> decide
  · refine .inl (.inl (.inr ⟨Nat.le_trans ?_ least, Nat.le_trans most ?_⟩)) <;> decide
  · decide
  · decide

theorem isBreak_of_isWord
    {character : Char}
    (word : isWord character = true) :
    isBreak character = false := by
  have differs : ∀ other : Char, isWord other = false → (character == other) = false := by
    intro other noWord
    rw [beq_eq_false_iff_ne]
    rintro rfl
    exact absurd word (by rw [noWord]; exact Bool.false_ne_true)
  simp only [isBreak, differs _ (show isWord '\n' = false by decide),
    differs _ (show isWord '\r' = false by decide),
    differs _ (show isWord '\x85' = false by decide),
    differs _ (show isWord '\u2028' = false by decide),
    differs _ (show isWord '\u2029' = false by decide), Bool.or_self]

theorem printable_spaces
    (count : Nat) :
    ∀ character ∈ spaces count, isPrintable character = true := by
  intro character member
  rw [List.eq_of_mem_replicate member]
  rfl

/-- Printable text with the break that it may lack makes whole lines. -/
theorem isLines_closing
    {text : List Char}
    (printable : ∀ character ∈ text, isPrintable character = true) :
    IsLines (text ++ closing text) := by
  refine ⟨?_, ?_⟩
  · intro character member
    rcases List.mem_append.mp member with inText | inClosing
    · exact printable character inText
    · exact printable_closing text character inClosing
  · rw [closing]
    split
    case isTrue ended =>
      rw [Option.any_eq_true] at ended
      rwa [List.append_nil]
    case isFalse =>
      exact ⟨'\n', List.getLast?_concat, rfl⟩

/-- A scalar that stands for its text fills the rest of its line, or whole lines below it. -/
theorem isLines_scalarLine
    (indentation : Nat)
    {style : ScalarStyle}
    {text : String}
    (stands : Stands style text) :
    IsLines (scalarLine indentation style text) := by
  rw [scalarLine_eq]
  exact isLines_closing (printable_writeText (indentation + 2) stands)

/-- The text of an entry whose line has begun. -/
def writeEntry
    (column : Nat)
    (entry : String × Node) :
    List Char :=
  entry.1.toList ++ ':' :: (writeBehind column false entry.2).toList

/-- The entries of a mapping, each in lines of its own. -/
def entryLines
    (column : Nat)
    (entries : List (String × Node)) :
    List Char :=
  entries.flatMap fun entry => spaces column ++ writeEntry column entry

/-- The entries of a mapping are written in lines of their own. -/
theorem toList_writeEntries
    (column : Nat)
    (entries : List (String × Node)) :
    (writeEntries column false
        (entries.map fun entry => (.ofPlain entry.1, entry.2))).toList =
      entryLines column entries := by
  induction entries with
  | nil => rfl
  | cons entry entries inductionHypothesis =>
      rw [List.map_cons, ofPlain, writeEntries, String.toList_append, inductionHypothesis]
      simp [entryLines, writeEntry, writeText, margin]

/-- The entries of a mapping, the first of which stands in a line that has begun. -/
def begunLines
    (column : Nat) :
    List (String × Node) → List Char
  | [] => []
  | entry :: entries => writeEntry column entry ++ entryLines column entries

/-- In a line that has begun, the first entry of a mapping continues this line. -/
theorem toList_writeEntries_begun
    (column : Nat)
    (entries : List (String × Node)) :
    (writeEntries column true
        (entries.map fun entry => (.ofPlain entry.1, entry.2))).toList =
      begunLines column entries := by
  cases entries with
  | nil => rfl
  | cons entry entries =>
      rw [List.map_cons, ofPlain, writeEntries, String.toList_append, toList_writeEntries]
      simp [begunLines, writeEntry, writeText]

/-- The lines of a mapping are those behind its indentation. -/
theorem entryLines_eq
    (column : Nat)
    {entries : List (String × Node)}
    (nonempty : entries ≠ []) :
    entryLines column entries = spaces column ++ begunLines column entries := by
  obtain ⟨entry, later, rfl⟩ := List.exists_cons_of_ne_nil nonempty
  simp [entryLines, begunLines]

/-- The items of a list of mappings, each in lines of its own. -/
def itemLines
    (column : Nat)
    (items : List (List (String × Node))) :
    List Char :=
  items.flatMap fun item => spaces column ++ '-' :: ' ' :: begunLines (column + 2) item

/-- A mapping goes on behind the dash of its item, but below the key of its entry. -/
theorem writeBehind_record
    (column : Nat)
    {entries : List (String × Node)}
    (nonempty : entries ≠ []) :
    (writeBehind column true (record entries)).toList = ' ' :: begunLines (column + 2) entries ∧
      (writeBehind column false (record entries)).toList =
        '\n' :: entryLines (column + 2) entries := by
  have written :
      ∀ dashed,
        writeBehind column dashed (record entries) =
          if dashed then
            " " ++ writeEntries (column + 2) true
              (entries.map fun entry => (.ofPlain entry.1, entry.2))
          else
            "\n" ++ writeEntries (column + 2) false
              (entries.map fun entry => (.ofPlain entry.1, entry.2)) := by
    intro dashed
    rw [record, writeBehind]
    simpa using nonempty
  rw [written, written, if_pos rfl, if_neg Bool.false_ne_true, String.toList_append,
    String.toList_append, toList_writeEntries_begun, toList_writeEntries]
  exact ⟨rfl, rfl⟩

/-- The items of a list of mappings are written in lines of their own. -/
theorem toList_writeItems
    (column : Nat)
    {items : List (List (String × Node))}
    (keyed : ∀ item ∈ items, Keyed item) :
    (writeItems column false (items.map record)).toList = itemLines column items := by
  induction items with
  | nil => rfl
  | cons item items inductionHypothesis =>
      have here := writeBehind_record column (keyed item List.mem_cons_self).nonempty
      have later :=
        inductionHypothesis fun other member => keyed other (List.mem_cons_of_mem _ member)
      rw [List.map_cons, writeItems, String.toList_append, later, String.toList_append, here.1]
      simp [itemLines, margin]

/-- The items of a list stand below the key of their entry, at its own column. -/
theorem writeBehind_sequence
    (column : Nat)
    {items : List (List (String × Node))}
    (nonempty : items ≠ [])
    (keyed : ∀ item ∈ items, Keyed item) :
    (writeBehind column false (.sequence none (items.map record))).toList =
      '\n' :: itemLines column items := by
  rw [writeBehind, if_neg Bool.false_ne_true, String.toList_append, toList_writeItems column keyed]
  · rfl
  · simpa using nonempty

/-- A scalar stands in the line of its key or dash. -/
theorem writeBehind_scalar
    (column : Nat)
    (style : ScalarStyle)
    (text : String) :
    (writeBehind column false (.scalar none style text)).toList =
      ' ' :: scalarLine column style text := by
  rw [writeBehind, String.toList_append]
  rfl

/-- A scalar with a tag is a scalar without one behind the tag. -/
theorem writeBehind_tagged
    (column : Nat)
    (name : String)
    {text : String}
    (isPlain : IsPlain text.toList) :
    (writeBehind column false (.scalar (some (.ofName name)) .plain text)).toList =
      ' ' :: '!' :: (name.toList ++ ' ' :: scalarLine column .plain text) := by
  have last : ("!" ++ name ++ " " ++ text).toList.getLast? = text.toList.getLast? := by
    obtain ⟨front, final, characters⟩ := exists_concat isPlain.phrase.ne_nil
    simp only [String.toList_append, characters, List.getLast?_append, List.getLast?_singleton,
      Option.some_or]
  rw [writeBehind, String.toList_append, writeScalar]
  change ' ' :: (endLine ("!" ++ name ++ " " ++ text)).toList = _
  rw [toList_endLine, closing_eq last, scalarLine_eq]
  simp [writeText]

/-- What is written behind a key or a dash sets itself apart from it. -/
theorem separates_writeBehind
    (column : Nat)
    (node : Node)
    (following : List Char) :
    Writable.separates ((writeBehind column false node).toList ++ following) = true := by
  cases node with
  | scalar tag style text => simp [writeBehind, Writable.separates, isSpace, isBlank]
  | «alias» anchor => simp [writeBehind, Writable.separates, isSpace, isBlank]
  | sequence tag items =>
      cases items <;> simp [writeBehind, Writable.separates, isSpace, isBlank, isBreak]
  | mapping tag entries =>
      cases entries <;> simp [writeBehind, Writable.separates, isSpace, isBlank, isBreak]

/-- Lines after lines are lines, as long as there are some. -/
theorem IsLines.flatMap
    {Item : Type}
    {items : List Item}
    (nonempty : items ≠ [])
    {write : Item → List Char}
    (lines : ∀ item ∈ items, IsLines (write item)) :
    IsLines (items.flatMap write) := by
  induction items with
  | nil => exact absurd rfl nonempty
  | cons item items inductionHypothesis =>
      have here := lines item List.mem_cons_self
      rw [List.flatMap_cons]
      cases items with
      | nil => rwa [List.flatMap_nil, List.append_nil]
      | cons other items =>
          exact .append here.printable
            (inductionHypothesis (List.cons_ne_nil _ _)
              fun item member => lines item (List.mem_cons_of_mem _ member))

/-- An entry is in whole lines if what is written for its value is. -/
theorem isLines_writeEntry
    {column : Nat}
    {entry : String × Node}
    (isKey : IsKey entry.1)
    (lines : IsLines (writeBehind column false entry.2).toList) :
    IsLines (writeEntry column entry) := by
  have colon : ∀ character ∈ [':'], isPrintable character = true := by
    exact forall_mem_of_all (by decide)
  exact .append isKey.plain.printable (.append colon lines)

section

variable {column : Nat} {entries : List (String × Node)} (keyed : Keyed entries)
variable (lines : ∀ entry ∈ entries, IsLines (writeBehind column false entry.2).toList)

include keyed lines

/-- A mapping with legible values is written in whole lines. -/
theorem isLines_entryLines : IsLines (entryLines column entries) :=
  .flatMap keyed.nonempty fun entry member =>
    .append (printable_spaces column)
      (isLines_writeEntry (keyed.keys entry member) (lines entry member))

theorem isLines_begunLines : IsLines (begunLines column entries) := by
  cases entries with
  | nil => exact absurd rfl keyed.nonempty
  | cons entry later =>
      have here :=
        isLines_writeEntry (keyed.keys entry List.mem_cons_self) (lines entry List.mem_cons_self)
      rw [begunLines]
      cases later with
      | nil => rwa [entryLines, List.flatMap_nil, List.append_nil]
      | cons other later =>
          refine .append here.printable (isLines_entryLines ⟨List.cons_ne_nil _ _, ?_⟩ ?_)
          · exact fun entry member => keyed.keys entry (List.mem_cons_of_mem _ member)
          · exact fun entry member => lines entry (List.mem_cons_of_mem _ member)

end

/-- Behind a key a legible node ends the line. -/
theorem Legible.isLines
    {node : Node}
    (legible : Legible node)
    (column : Nat) :
    IsLines (writeBehind column false node).toList := by
  have startPrintable : ∀ character ∈ ['\n'], isPrintable character = true := by
    exact forall_mem_of_all (by decide)
  have dashPrintable : ∀ character ∈ ['-', ' '], isPrintable character = true := by
    exact forall_mem_of_all (by decide)
  induction legible generalizing column with
  | @scalar style text stands =>
      rw [writeBehind_scalar]
      exact .append (printable_spaces 1) (isLines_scalarLine column stands)
  | @tagged name text isTagName isPlain =>
      have opening : ∀ character ∈ [' ', '!'], isPrintable character = true := by
        exact forall_mem_of_all (by decide)
      have word : ∀ character ∈ name.toList, isPrintable character = true :=
        fun character member => isPrintable_of_isWord (isTagName.word character member)
      rw [writeBehind_tagged column name isPlain]
      exact .append opening
        (.append word (.append (printable_spaces 1) (isLines_scalarLine column (.plain isPlain))))
  | @sequence items keyed legible inductionHypothesis =>
      by_cases nonempty : items = []
      · subst nonempty
        have written :
            (writeBehind column false (.sequence none [])).toList = [' ', '[', ']', '\n'] := by
          rw [writeBehind]
          rfl
        rw [List.map_nil, written]
        exact ⟨forall_mem_of_all (by decide), '\n', rfl, rfl⟩
      · rw [writeBehind_sequence column nonempty keyed]
        exact .append startPrintable
          (.flatMap nonempty fun item member =>
            .append (printable_spaces column)
              (.append dashPrintable
                (isLines_begunLines (keyed item member)
                  fun entry inItem => inductionHypothesis item member entry inItem _)))
  | record keyed legible inductionHypothesis =>
      rw [(writeBehind_record column keyed.nonempty).2]
      exact .append startPrintable
        (isLines_entryLines keyed fun entry member => inductionHypothesis entry member _)

end Node

end Yaml

end DroneSession
