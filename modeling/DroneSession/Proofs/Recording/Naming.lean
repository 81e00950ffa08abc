import DroneSession.Recording.Path

namespace DroneSession

/-!
# Names of recordings

A path is read here as a sequence of components, from which its file name, the extension of that
name and the path with another extension follow.  A recording is named by giving a path the
extension of recordings where it has none: what stands in front of the file name and the name itself
stay, and a path that was named keeps its name.
-/

namespace Path

/-! ## Components, file names and extensions -/

/-- The texts between the separators of a path, of which some may be empty. -/
def pieces (path : List Char) : List (List Char) :=
  path.splitOn '/'

/-- A component of a path. -/
inductive Component where
  | root
  /-- The directory in which a relative path starts, where it is written out. -/
  | current
  | parent
  | normal (name : List Char)
  deriving DecidableEq

/-- Empty pieces and pieces `.` are no components. -/
def isBlank (piece : List Char) : Bool :=
  piece = [] || piece = ['.']

/-- The component that a piece is, if it is one. -/
def Component.ofPiece? (piece : List Char) : Option Component :=
  if isBlank piece then none
  else if piece = ['.', '.'] then some .parent
  else some (.normal piece)

/-- The component in front of all others: the root, or the directory `.` at the start of a path. -/
def leading (path : List Char) : List Component :=
  match path with
  | '/' :: _ => [.root]
  | ['.'] => [.current]
  | '.' :: '/' :: _ => [.current]
  | _ => []

/-- The components of a path, one after another. -/
def components (path : List Char) : List Component :=
  leading path ++ (pieces path).filterMap Component.ofPiece?

/-- The last component, if it is the name of a file or of a directory. -/
def fileName? (path : List Char) : Option (List Char) :=
  match (components path).getLast? with
  | some (.normal name) => some name
  | _ => none

/-- The parts of a text in front of its last dot and behind it. -/
def atLastDot? (text : List Char) : Option (List Char × List Char) :=
  match text.reverse.dropWhile (· != '.') with
  | [] => none
  | _ :: before => some (before.reverse, (text.reverse.takeWhile (· != '.')).reverse)

/-- A file name without its extension, and the extension; a name that starts with its only dot has
none. -/
def splitName (name : List Char) : List Char × Option (List Char) :=
  if name = ['.', '.'] then
    (name, none)
  else
    match atLastDot? name with
    | none => (name, none)
    | some ([], _) => (name, none)
    | some (stem, extension) => (stem, some extension)

/-- The extension of the file name of a path. -/
def extension? (path : List Char) : Option (List Char) :=
  (fileName? path).bind fun name => (splitName name).2

/-- The file name without its extension. -/
def stem? (path : List Char) : Option (List Char) :=
  (fileName? path).map fun name => (splitName name).1

/-- The pieces of a path up to the last one that is a component. -/
def essential (path : List Char) : List (List Char) :=
  ((pieces path).reverse.dropWhile isBlank).reverse

/-- What stands in front of the last component, its separators included. -/
def directory (path : List Char) : List Char :=
  (essential path).dropLast.flatMap (· ++ ['/'])

/-- Cut a path behind the stem of its file name and give it another extension. -/
def withExtension
    (path extension : List Char) :
    List Char :=
  match stem? path with
  | none => path
  | some stem => directory path ++ stem ++ '.' :: extension

/-! ## Where the last component stands -/

/-- The text of some pieces in front of another one. -/
def before (front : List (List Char)) : List Char :=
  front.flatMap (· ++ ['/'])

/-- The text of some pieces behind another one. -/
def behind (blanks : List (List Char)) : List Char :=
  blanks.flatMap ('/' :: ·)

/-- The pieces of a path around the last one that is a component. -/
structure Divides
    (path : List Char)
    (front : List (List Char))
    (name : List Char)
    (blanks : List (List Char)) :
    Prop where
  pieces : pieces path = front ++ name :: blanks
  named : isBlank name = false
  trailing : ∀ piece ∈ blanks, isBlank piece = true

/-- A piece is blank if it is empty or the directory where the path stands. -/
theorem isBlank_iff {piece : List Char} :
    isBlank piece = true ↔ piece = [] ∨ piece = ['.'] := by
  simp [isBlank]

/-- Either some piece is the last one that is a component, or none is one. -/
theorem exists_last_named (pieces : List (List Char)) :
    (∀ piece ∈ pieces, isBlank piece = true) ∨
      ∃ front name blanks,
        pieces = front ++ name :: blanks ∧
        isBlank name = false ∧
        ∀ piece ∈ blanks, isBlank piece = true := by
  induction pieces with
  | nil =>
      exact .inl (by simp)
  | cons piece others inductionHypothesis =>
      rcases inductionHypothesis with allBlank | ⟨front, name, blanks, rfl, named, trailing⟩
      · cases blank : isBlank piece with
        | false =>
            exact .inr ⟨[], piece, others, rfl, blank, allBlank⟩
        | true =>
            exact .inl (List.forall_mem_cons.mpr ⟨blank, allBlank⟩)
      · exact .inr ⟨piece :: front, name, blanks, rfl, named, trailing⟩

/-- A path has nothing but blank pieces, or a last piece that is a component. -/
theorem exists_divides (path : List Char) :
    (∀ piece ∈ pieces path, isBlank piece = true) ∨
      ∃ front name blanks, Divides path front name blanks := by
  rcases exists_last_named (pieces path) with allBlank | ⟨front, name, blanks, shape⟩
  · exact .inl allBlank
  · exact .inr ⟨front, name, blanks, shape.1, shape.2.1, shape.2.2⟩

/-- No piece of a path has a separator in it. -/
theorem separator_notMem_of_mem_pieces
    {path piece : List Char}
    (member : piece ∈ pieces path) :
    '/' ∉ piece := by
  unfold pieces at member
  induction path generalizing piece with
  | nil =>
      simp only [List.splitOn_nil, List.mem_singleton] at member
      simp [member]
  | cons character rest inductionHypothesis =>
      rw [List.splitOn_cons_eq_if_modifyHead] at member
      split at member
      · rcases List.mem_cons.mp member with rfl | later
        · exact List.not_mem_nil
        · exact inductionHypothesis later
      · rename_i other
        cases shape : rest.splitOn '/' with
        | nil => exact absurd shape (List.splitOn_ne_nil '/' rest)
        | cons first others =>
            rw [shape, List.modifyHead_cons] at member
            rw [shape] at inductionHypothesis
            rcases List.mem_cons.mp member with rfl | later
            · simp only [beq_iff_eq] at other
              simp only [List.mem_cons, not_or]
              exact ⟨fun same => other same.symm, inductionHypothesis List.mem_cons_self⟩
            · exact inductionHypothesis (List.mem_cons_of_mem first later)

/-- Pieces are joined in front of one of them, at it and behind it. -/
theorem intercalate_eq
    (front blanks : List (List Char))
    (name : List Char) :
    ['/'].intercalate (front ++ name :: blanks) = before front ++ name ++ behind blanks := by
  induction front with
  | nil =>
      induction blanks generalizing name with
      | nil =>
          simp [before, behind]
      | cons blank others inductionHypothesis =>
          have rest := inductionHypothesis blank
          simp only [List.nil_append, before, List.flatMap_nil, behind] at rest ⊢
          rw [List.intercalate_cons_cons, rest]
          simp
  | cons piece others inductionHypothesis =>
      rw [List.cons_append, List.intercalate_cons_of_ne_nil (by simp), inductionHypothesis]
      simp [before]

/-- A path is what stands before its last component, the component and what stands behind it. -/
theorem Divides.path_eq
    {path name : List Char}
    {front blanks : List (List Char)}
    (divides : Divides path front name blanks) :
    path = before front ++ name ++ behind blanks := by
  have joined := intercalate_eq front blanks name
  rwa [← divides.pieces, Path.pieces, List.intercalate_splitOn] at joined

/-- The last component of a path has no separator in it. -/
theorem Divides.separator_notMem
    {path name : List Char}
    {front blanks : List (List Char)}
    (divides : Divides path front name blanks) :
    '/' ∉ name := by
  have member : name ∈ Path.pieces path := by
    simp [divides.pieces]
  exact separator_notMem_of_mem_pieces member

/-- Pieces that are put together are the pieces of the whole. -/
theorem pieces_intercalate
    {all : List (List Char)}
    (some : all ≠ [])
    (unseparated : ∀ piece ∈ all, '/' ∉ piece) :
    pieces (['/'].intercalate all) = all :=
  List.splitOn_intercalate '/' unseparated some

/-! ## The file name in terms of the pieces -/

/-- Blank pieces are no components. -/
theorem filterMap_ofPiece?_of_blank
    {blanks : List (List Char)}
    (trailing : ∀ piece ∈ blanks, isBlank piece = true) :
    blanks.filterMap Component.ofPiece? = [] := by
  rw [List.filterMap_eq_nil_iff]
  intro piece member
  rw [Component.ofPiece?, if_pos (trailing piece member)]

/-- The last component is the file name, unless it leads to the parent directory. -/
theorem Divides.fileName?_eq
    {path name : List Char}
    {front blanks : List (List Char)}
    (divides : Divides path front name blanks) :
    fileName? path = if name = ['.', '.'] then none else some name := by
  have last :
      (components path).getLast? =
        some (if name = ['.', '.'] then Component.parent else .normal name) := by
    have named : Component.ofPiece? name =
        some (if name = ['.', '.'] then Component.parent else .normal name) := by
      simp only [Component.ofPiece?, divides.named, Bool.false_eq_true, if_false]
      split <;> rfl
    simp only [components, divides.pieces, List.filterMap_append, List.filterMap_cons, named,
      filterMap_ofPiece?_of_blank divides.trailing]
    simp
  rw [fileName?, last]
  split <;> rename_i shape <;> split at shape <;> simp_all

/-- A path of blank pieces has no file name. -/
theorem fileName?_of_blank
    {path : List Char}
    (allBlank : ∀ piece ∈ pieces path, isBlank piece = true) :
    fileName? path = none := by
  have last :
      (leading path).getLast? = none ∨
        (leading path).getLast? = some .root ∨
        (leading path).getLast? = some .current := by
    unfold leading
    split <;> simp
  rw [fileName?, components, filterMap_ofPiece?_of_blank allBlank, List.append_nil]
  rcases last with nothing | root | current
  · rw [nothing]
  · rw [root]
  · rw [current]

/-- The directory of a path is what stands before its last component. -/
theorem Divides.directory_eq
    {path name : List Char}
    {front blanks : List (List Char)}
    (divides : Divides path front name blanks) :
    directory path = before front := by
  have cut : (front ++ name :: blanks).reverse.dropWhile isBlank = name :: front.reverse := by
    rw [List.reverse_append, List.reverse_cons, List.append_assoc,
      List.dropWhile_append_of_pos (by simpa using divides.trailing)]
    simp [divides.named]
  rw [directory, essential, divides.pieces, cut, List.reverse_cons, List.reverse_reverse,
    List.dropLast_concat, before]

/-! ## Extensions -/

/-- A text is divided at its last dot. -/
theorem atLastDot?_eq_some
    {stem extension : List Char}
    (undotted : '.' ∉ extension) :
    atLastDot? (stem ++ '.' :: extension) = some (stem, extension) := by
  have plain : ∀ character ∈ extension.reverse, (character != '.') = true := by
    intro character member
    rw [bne_iff_ne]
    rintro rfl
    exact undotted (List.mem_reverse.mp member)
  have turned : (stem ++ '.' :: extension).reverse = extension.reverse ++ '.' :: stem.reverse := by
    simp
  rw [atLastDot?, turned, List.dropWhile_append_of_pos plain,
    List.takeWhile_append_of_pos plain]
  simp

/-- A text without a dot is not divided. -/
theorem atLastDot?_eq_none
    {text : List Char}
    (undotted : '.' ∉ text) :
    atLastDot? text = none := by
  have plain : ∀ character ∈ text.reverse, (character != '.') = true := by
    intro character member
    rw [bne_iff_ne]
    rintro rfl
    exact undotted (List.mem_reverse.mp member)
  have nothing : (text.reverse ++ []).dropWhile (· != '.') = [] := by
    rw [List.dropWhile_append_of_pos plain, List.dropWhile_nil]
  rw [List.append_nil] at nothing
  rw [atLastDot?, nothing]

/-- A text has no dot, or a last one. -/
theorem exists_lastDot (text : List Char) :
    '.' ∉ text ∨ ∃ stem extension, text = stem ++ '.' :: extension ∧ '.' ∉ extension := by
  induction text with
  | nil =>
      exact .inl List.not_mem_nil
  | cons character rest inductionHypothesis =>
      rcases inductionHypothesis with undotted | ⟨stem, extension, rfl, undotted⟩
      · by_cases dot : character = '.'
        · exact .inr ⟨[], rest, by rw [dot, List.nil_append], undotted⟩
        · exact .inl (by simpa [undotted] using fun same => dot same.symm)
      · exact .inr ⟨character :: stem, extension, rfl, undotted⟩

/-- The extension of a file name is what follows a dot behind its first character. -/
theorem splitName_cases
    {name : List Char}
    (notParent : name ≠ ['.', '.']) :
    ((splitName name).2.isSome = true ∧ '.' ∈ name.drop 1) ∨
      (splitName name = (name, none) ∧ '.' ∉ name.drop 1) := by
  rw [splitName, if_neg notParent]
  rcases exists_lastDot name with undotted | ⟨stem, extension, rfl, undotted⟩
  · rw [atLastDot?_eq_none undotted]
    exact .inr ⟨rfl, fun member => undotted (List.mem_of_mem_drop member)⟩
  · rw [atLastDot?_eq_some undotted]
    cases stem with
    | nil => exact .inr ⟨rfl, undotted⟩
    | cons first others => exact .inl ⟨rfl, by simp⟩

/--
A file name has an extension exactly if it can be divided at a dot that is not its first character.
-/
theorem hasExtension_eq
    {name : List Char}
    (notParent : name ≠ ['.', '.']) :
    RecordingPath.hasExtension name = (splitName name).2.isSome := by
  rw [RecordingPath.hasExtension]
  rcases splitName_cases notParent with ⟨extended, dotted⟩ | ⟨plain, undotted⟩
  · simpa [extended] using dotted
  · simpa [plain] using undotted

/-! ## The path from its end -/

theorem reverse_of_blank
    {piece : List Char}
    (blank : isBlank piece = true) :
    piece.reverse = piece := by
  rcases isBlank_iff.mp blank with rfl | rfl <;> rfl

/-- A blank piece at the end of a path is dropped with the separator in front of it. -/
theorem dropTrailing_blank
    {piece : List Char}
    (blank : isBlank piece = true)
    (rest : List Char) :
    RecordingPath.dropTrailing (piece ++ '/' :: rest) = RecordingPath.dropTrailing rest := by
  rcases isBlank_iff.mp blank with rfl | rfl <;> simp [RecordingPath.dropTrailing]

/-- Blank pieces at the end of a path are dropped. -/
theorem dropTrailing_behind
    {blanks : List (List Char)}
    (trailing : ∀ piece ∈ blanks, isBlank piece = true)
    (rest : List Char) :
    RecordingPath.dropTrailing ((behind blanks).reverse ++ rest) =
      RecordingPath.dropTrailing rest := by
  induction blanks generalizing rest with
  | nil =>
      rfl
  | cons blank others inductionHypothesis =>
      obtain ⟨blankFirst, blankOthers⟩ := List.forall_mem_cons.mp trailing
      have shape : (behind (blank :: others)).reverse ++ rest =
          (behind others).reverse ++ (blank ++ '/' :: rest) := by
        simp [behind, reverse_of_blank blankFirst]
      rw [shape, inductionHypothesis blankOthers, dropTrailing_blank blankFirst]

/-- A piece that is a component is where dropping ends. -/
theorem dropTrailing_named
    {name rest : List Char}
    (named : isBlank name = false)
    (unseparated : '/' ∉ name)
    (separated : rest = [] ∨ ∃ others, rest = '/' :: others) :
    RecordingPath.dropTrailing (name.reverse ++ rest) = name.reverse ++ rest := by
  have reversed : isBlank name.reverse = false := by
    cases blank : isBlank name.reverse with
    | false => rfl
    | true =>
        have same := reverse_of_blank blank
        rw [List.reverse_reverse] at same
        rw [← same, named] at blank
        exact blank.symm
  have unseparatedToo : '/' ∉ name.reverse := fun member => unseparated (List.mem_reverse.mp member)
  generalize name.reverse = piece at reversed unseparatedToo
  unfold RecordingPath.dropTrailing
  split
  · rename_i others shape
    cases piece with
    | nil => simp [isBlank] at reversed
    | cons first more =>
        cases shape
        exact absurd List.mem_cons_self unseparatedToo
  · rename_i others shape
    match piece with
    | [] => simp [isBlank] at reversed
    | [first] =>
        cases shape
        simp [isBlank] at reversed
    | first :: second :: more =>
        cases shape
        simp at unseparatedToo
  · rfl

/-- What stands before a component is nothing or ends with a separator. -/
theorem before_separated (front : List (List Char)) :
    (before front).reverse = [] ∨ ∃ others, (before front).reverse = '/' :: others := by
  rcases List.eq_nil_or_concat front with rfl | ⟨others, last, rfl⟩
  · exact .inl rfl
  · exact .inr ⟨(before others ++ last).reverse, by simp [before]⟩

/-- Without its blank pieces a path ends with its last component. -/
theorem Divides.dropTrailing_eq
    {path name : List Char}
    {front blanks : List (List Char)}
    (divides : Divides path front name blanks) :
    RecordingPath.dropTrailing path.reverse = name.reverse ++ (before front).reverse := by
  have turned : path.reverse =
      (behind blanks).reverse ++ (name.reverse ++ (before front).reverse) := by
    rw [divides.path_eq]
    simp
  rw [turned, dropTrailing_behind divides.trailing,
    dropTrailing_named divides.named divides.separator_notMem (before_separated front)]

/-- Without its blank pieces a path is its directory and its last component. -/
theorem Divides.trunk_eq
    {path name : List Char}
    {front blanks : List (List Char)}
    (divides : Divides path front name blanks) :
    RecordingPath.trunk path = directory path ++ name := by
  rw [RecordingPath.trunk, divides.dropTrailing_eq, divides.directory_eq]
  simp

/-- The last component is found from the end of the path. -/
theorem Divides.lastComponent_eq
    {path name : List Char}
    {front blanks : List (List Char)}
    (divides : Divides path front name blanks) :
    RecordingPath.lastComponent path = name := by
  have plain : ∀ character ∈ name.reverse, (character != '/') = true := by
    intro character member
    rw [bne_iff_ne]
    rintro rfl
    exact divides.separator_notMem (List.mem_reverse.mp member)
  rw [RecordingPath.lastComponent, divides.dropTrailing_eq,
    List.takeWhile_append_of_pos plain]
  rcases before_separated front with empty | ⟨others, separated⟩
  · simp [empty]
  · simp [separated]

/-- What is found at the end of a path of blank pieces is a blank piece. -/
theorem lastComponent_of_blank
    {path : List Char}
    (allBlank : ∀ piece ∈ pieces path, isBlank piece = true) :
    isBlank (RecordingPath.lastComponent path) = true := by
  have whole : path = ['/'].intercalate (pieces path) := by
    rw [pieces, List.intercalate_splitOn]
  cases shape : pieces path with
  | nil => exact absurd shape (List.splitOn_ne_nil '/' path)
  | cons first others =>
      rw [shape] at allBlank
      obtain ⟨blankFirst, blankOthers⟩ := List.forall_mem_cons.mp allBlank
      have parts := intercalate_eq [] others first
      rw [List.nil_append, ← shape, ← whole] at parts
      have turned : path.reverse = (behind others).reverse ++ first.reverse := by
        rw [parts]
        simp [before]
      rw [RecordingPath.lastComponent, turned, dropTrailing_behind blankOthers,
        reverse_of_blank blankFirst]
      rcases isBlank_iff.mp blankFirst with rfl | rfl <;> rfl

/-- A path is searched for its file name from the end with the same result. -/
theorem recordingFileName?_eq (path : List Char) :
    RecordingPath.fileName? path = fileName? path := by
  unfold RecordingPath.fileName?
  rcases exists_divides path with allBlank | ⟨front, name, blanks, divides⟩
  · rw [fileName?_of_blank allBlank]
    rcases isBlank_iff.mp (lastComponent_of_blank allBlank) with empty | dot
    · simp [empty]
    · simp [dot]
  · rw [divides.lastComponent_eq, divides.fileName?_eq]
    have named := divides.named
    simp only [isBlank, Bool.or_eq_false_iff, decide_eq_false_iff_not] at named
    simp [named]

/-! ## Naming recordings -/

/-- Separators and components `.` behind a file name. -/
inductive Trailing : List Char → Prop where
  | nothing : Trailing []
  | separator {rest : List Char} (others : Trailing rest) : Trailing ('/' :: rest)
  | current {rest : List Char} (others : Trailing rest) : Trailing ('/' :: '.' :: rest)

/-- Blank pieces behind a file name are separators and dots. -/
theorem trailing_behind
    {blanks : List (List Char)}
    (trailing : ∀ piece ∈ blanks, isBlank piece = true) :
    Trailing (behind blanks) := by
  induction blanks with
  | nil =>
      exact .nothing
  | cons blank others inductionHypothesis =>
      obtain ⟨blankFirst, blankOthers⟩ := List.forall_mem_cons.mp trailing
      rcases isBlank_iff.mp blankFirst with rfl | rfl
      · exact .separator (inductionHypothesis blankOthers)
      · exact .current (inductionHypothesis blankOthers)

/-- A path whose last component is a file name without an extension. -/
structure Bare
    (path : List Char)
    (front : List (List Char))
    (name : List Char)
    (blanks : List (List Char)) :
    Prop where
  divides : Divides path front name blanks
  notParent : name ≠ ['.', '.']
  plain : splitName name = (name, none)

/-- The name of a recording whose file name is `name`. -/
def recordingName (name : List Char) : List Char :=
  name ++ RecordingPath.extension

theorem extension_eq :
    RecordingPath.extension = '.' :: "ardrone".toList := by
  decide

/-- Naming follows the extension of the path, as its components give it. -/
theorem normalize_eq (path : List Char) :
    RecordingPath.normalize path =
      if (extension? path).isSome then path else withExtension path "ardrone".toList := by
  rw [RecordingPath.normalize, recordingFileName?_eq]
  rcases exists_divides path with allBlank | ⟨front, name, blanks, divides⟩
  · simp [withExtension, stem?, fileName?_of_blank allBlank]
  · by_cases parent : name = ['.', '.']
    · simp [withExtension, stem?, divides.fileName?_eq, parent]
    · have named : fileName? path = some name := by
        rw [divides.fileName?_eq, if_neg parent]
      simp only [named, extension?, Option.bind_some, withExtension, stem?, Option.map_some,
        hasExtension_eq parent]
      rcases splitName_cases parent with ⟨extended, -⟩ | ⟨plain, -⟩
      · simp only [extended, if_true]
      · simp only [plain, Option.isSome_none, Bool.false_eq_true, if_false, divides.trunk_eq,
          extension_eq]

/-- A path with a file name and without an extension is bare. -/
theorem exists_bare_of_fileName?
    {path name : List Char}
    (named : fileName? path = some name)
    (unextended : extension? path = none) :
    ∃ front blanks, Bare path front name blanks := by
  rcases exists_divides path with allBlank | ⟨front, last, blanks, divides⟩
  · rw [fileName?_of_blank allBlank] at named
    cases named
  · have found := divides.fileName?_eq
    rw [named] at found
    split at found
    · cases found
    · rename_i notParent
      cases found
      rw [extension?, named, Option.bind_some] at unextended
      rcases splitName_cases notParent with ⟨extended, -⟩ | ⟨plain, -⟩
      · rw [unextended] at extended
        cases extended
      · exact ⟨front, blanks, divides, notParent, plain⟩

namespace Bare

variable {path name : List Char} {front blanks : List (List Char)}

/-- The file name of a bare path is its last component. -/
theorem fileName?_eq (bare : Bare path front name blanks) :
    fileName? path = some name := by
  rw [bare.divides.fileName?_eq, if_neg bare.notParent]

/-- A bare path is named by its directory and its file name with the extension of recordings. -/
theorem normalize_eq (bare : Bare path front name blanks) :
    RecordingPath.normalize path = directory path ++ recordingName name := by
  rw [Path.normalize_eq, extension?, bare.fileName?_eq, Option.bind_some, bare.plain,
    withExtension, stem?, bare.fileName?_eq, Option.map_some, bare.plain, recordingName,
    extension_eq, ← List.append_assoc]
  rfl

/-- A named path has the pieces that it had, the last of them with the extension. -/
theorem divides_normalize (bare : Bare path front name blanks) :
    Divides (RecordingPath.normalize path) front (recordingName name) [] where
  pieces := by
    have whole : RecordingPath.normalize path =
        ['/'].intercalate (front ++ [recordingName name]) := by
      rw [bare.normalize_eq, bare.divides.directory_eq, intercalate_eq]
      simp [behind]
    rw [whole]
    apply pieces_intercalate (by simp)
    intro piece member
    rcases List.mem_append.mp member with inFront | last
    · have member : piece ∈ Path.pieces path := by
        simp [bare.divides.pieces, inFront]
      exact separator_notMem_of_mem_pieces member
    · rw [List.mem_singleton.mp last, recordingName, List.mem_append, not_or]
      exact ⟨bare.divides.separator_notMem, by decide⟩
  named := by
    have long : 2 ≤ (recordingName name).length := by
      rw [recordingName, List.length_append, extension_eq]
      simp
    cases blank : isBlank (recordingName name) with
    | false => rfl
    | true => rcases isBlank_iff.mp blank with short | short <;> simp [short] at long
  trailing := by
    simp

theorem name_ne_nil (bare : Bare path front name blanks) :
    name ≠ [] := by
  rintro rfl
  exact absurd bare.divides.named (by decide)

/-- The name of a recording divides into the file name and the extension of recordings. -/
theorem splitName_recordingName (bare : Bare path front name blanks) :
    splitName (recordingName name) = (name, some "ardrone".toList) := by
  have long : recordingName name ≠ ['.', '.'] := by
    intro same
    have lengths := congrArg List.length same
    rw [recordingName, List.length_append, extension_eq] at lengths
    simp at lengths
  have dotted :
      atLastDot? (name ++ '.' :: "ardrone".toList) = some (name, "ardrone".toList) :=
    atLastDot?_eq_some (by decide)
  rw [splitName, if_neg long, recordingName, extension_eq, dotted]
  cases name with
  | nil => exact absurd rfl bare.name_ne_nil
  | cons first others => rfl

/-- A bare path that is named has the name of the recording as its file name. -/
theorem fileName?_normalize (bare : Bare path front name blanks) :
    fileName? (RecordingPath.normalize path) = some (recordingName name) := by
  have split := bare.splitName_recordingName
  rw [bare.divides_normalize.fileName?_eq, if_neg]
  intro parent
  rw [parent] at split
  cases congrArg Prod.snd split

/-- A bare path that is named has the extension of recordings. -/
theorem extension?_normalize (bare : Bare path front name blanks) :
    extension? (RecordingPath.normalize path) = some "ardrone".toList := by
  rw [extension?, bare.fileName?_normalize, Option.bind_some, bare.splitName_recordingName]

end Bare

/-- What naming makes of a path. -/
structure Names (path named : List Char) : Prop where
  /-- A path with an extension stays as it is; any other gets that of recordings. -/
  rule :
    named =
      if (extension? path).isSome then path else withExtension path "ardrone".toList
  unnamed : fileName? path = none → named = path
  extended : (extension? path).isSome = true → named = path
  /-- Without an extension, the path ends with its file name and the extension of recordings. -/
  added :
    ∀ name,
      fileName? path = some name →
      extension? path = none →
      ∃ rest,
        Trailing rest ∧
          path = directory path ++ name ++ rest ∧
          named = directory path ++ name ++ ".ardrone".toList
  hasExtension : (fileName? path).isSome = true → (extension? named).isSome = true
  directory : directory named = directory path
  /-- The file name is the one of the path, or has it as its stem. -/
  fileName :
    ∀ name,
      fileName? path = some name →
      fileName? named = some name ∨
        fileName? named = some (name ++ ".ardrone".toList) ∧ stem? named = some name

/-- A path without a file name is left as it is. -/
theorem normalize_of_unnamed
    {path : List Char}
    (unnamed : fileName? path = none) :
    RecordingPath.normalize path = path := by
  simp [normalize_eq, extension?, withExtension, stem?, unnamed]

/-- A path with an extension is left as it is. -/
theorem normalize_of_extended
    {path : List Char}
    (extended : (extension? path).isSome = true) :
    RecordingPath.normalize path = path := by
  rw [normalize_eq, if_pos extended]

/-- A path has no file name, or one with an extension, or one without. -/
theorem path_cases (path : List Char) :
    fileName? path = none ∨
      (extension? path).isSome = true ∨
      ∃ front name blanks, Bare path front name blanks := by
  cases named : fileName? path with
  | none => exact .inl rfl
  | some name =>
      cases extended : extension? path with
      | some extension => exact .inr (.inl rfl)
      | none =>
          obtain ⟨front, blanks, bare⟩ := exists_bare_of_fileName? named extended
          exact .inr (.inr ⟨front, name, blanks, bare⟩)

/--
Naming gives every path the extension of recordings where it has none, and changes nothing else.
-/
theorem names_normalize (path : List Char) :
    Names path (RecordingPath.normalize path) where
  rule := normalize_eq path
  unnamed := normalize_of_unnamed
  extended := normalize_of_extended
  added := by
    intro name named unextended
    obtain ⟨front, blanks, bare⟩ := exists_bare_of_fileName? named unextended
    refine ⟨behind blanks, trailing_behind bare.divides.trailing, ?_, ?_⟩
    · rw [bare.divides.directory_eq]
      exact bare.divides.path_eq
    · rw [bare.normalize_eq, recordingName, ← List.append_assoc]
      rfl
  hasExtension := by
    intro some
    rcases path_cases path with unnamed | extended | ⟨front, name, blanks, bare⟩
    · rw [unnamed] at some
      cases some
    · rw [normalize_of_extended extended]
      exact extended
    · rw [bare.extension?_normalize]
      rfl
  directory := by
    rcases path_cases path with unnamed | extended | ⟨front, name, blanks, bare⟩
    · rw [normalize_of_unnamed unnamed]
    · rw [normalize_of_extended extended]
    · rw [bare.divides_normalize.directory_eq, bare.divides.directory_eq]
  fileName := by
    intro name named
    rcases path_cases path with unnamed | extended | ⟨front, last, blanks, bare⟩
    · rw [unnamed] at named
      cases named
    · rw [normalize_of_extended extended]
      exact .inl named
    · rw [bare.fileName?_eq] at named
      cases named
      refine .inr ⟨bare.fileName?_normalize, ?_⟩
      rw [stem?, bare.fileName?_normalize, Option.map_some, bare.splitName_recordingName]

/-- A path that was named keeps its name. -/
theorem normalize_normalize (path : List Char) :
    RecordingPath.normalize (RecordingPath.normalize path) = RecordingPath.normalize path := by
  rcases path_cases path with unnamed | extended | ⟨front, name, blanks, bare⟩
  · rw [normalize_of_unnamed unnamed, normalize_of_unnamed unnamed]
  · rw [normalize_of_extended extended, normalize_of_extended extended]
  · apply normalize_of_extended
    rw [bare.extension?_normalize]
    rfl

/--
A recording is named once and for all: a path without a file name or with an extension is left
alone, any other ends with its file name and the extension of recordings afterwards, and a path that
was named is left alone.
-/
theorem recordingPath_names_once (path : String) :
    Names path.toList (recordingPath path).toList ∧
      recordingPath (recordingPath path) = recordingPath path := by
  have named : (recordingPath path).toList = RecordingPath.normalize path.toList :=
    String.toList_ofList
  constructor
  · rw [named]
    exact names_normalize path.toList
  · rw [recordingPath, named, normalize_normalize, recordingPath]

example : recordingPath "logs.d/.first/./" = "logs.d/.first.ardrone" := by
  decide

example : recordingPath "logs/../x." = "logs/../x." := by
  decide

end Path

end DroneSession
