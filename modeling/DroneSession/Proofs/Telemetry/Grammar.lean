import DroneSession.Proofs.LittleEndian
import DroneSession.Telemetry.Wire

namespace DroneSession

/-!
# The grammar of navigation packets

Which bytes are a packet is said here by concatenation alone: a header, complete options and a rest
that is too short for an option or starts with the checksum of everything before it.  The decoder
reads by offsets from the front; it accepts exactly these bytes, and the record it gives is made of
the header and of the last demo option.
-/

namespace Wire

/-- An option as it is written: a tag, and a payload whose length gives the declared size. -/
structure Block where
  tag : UInt16
  payload : Bytes
  deriving Repr, DecidableEq

namespace Block

/-- The bytes of an option. -/
def bytes (block : Block) : Bytes :=
  encodeOption block.tag block.payload

/-- The size fits its field. -/
def Sized (block : Block) : Prop :=
  optionHeaderSize + block.payload.length < UInt16.size

/-- An option that may stand before the rest of a packet. -/
structure Admissible (block : Block) : Prop where
  sized : block.Sized
  unchecked : block.tag ≠ checksumTag
  long : block.tag = demoTag → demoSize ≤ block.payload.length

end Block

/-- What is written where an option was found. -/
def PacketOption.block (item : PacketOption) : Block where
  tag := item.tag
  payload := item.payload

/-- The header that announces a record. -/
def header (record : NavigationRecord) : Bytes :=
  Bytes.ofWord32 magic
    ++ Bytes.ofWord32 record.status.bits
    ++ Bytes.ofWord32 record.sequence
    ++ Bytes.ofWord32 record.visionDefined

/-- The words of a demo option, and anything behind them. -/
def Demo.StandsIn
    (demo : Demo)
    (payload : Bytes) :
    Prop :=
  ∃ (control : UInt32) (more : Bytes),
    demo.control = ControlState.ofWord control ∧
    payload =
      Bytes.ofWord32 control
        ++ Bytes.ofWord32 demo.battery
        ++ Bytes.ofWord32 demo.theta.bits
        ++ Bytes.ofWord32 demo.phi.bits
        ++ Bytes.ofWord32 demo.psi.bits
        ++ Bytes.ofWord32 demo.altitude.toUInt32
        ++ Bytes.ofWord32 demo.vx.bits
        ++ Bytes.ofWord32 demo.vy.bits
        ++ Bytes.ofWord32 demo.vz.bits
        ++ Bytes.ofWord32 demo.frameIndex
        ++ more

/-- A payload that starts with the sum of the bytes before its option. -/
def Certifies
    (before payload : Bytes) :
    Prop :=
  ∃ more, payload = Bytes.ofWord32 before.sum ++ more

/-- A rest that ends a packet: no room for an option, or a checksum and whatever follows it. -/
def Closes
    (before rest : Bytes) :
    Prop :=
  rest.length < optionHeaderSize ∨
    ∃ (payload ignored : Bytes),
      rest = (Block.mk checksumTag payload).bytes ++ ignored ∧
      (Block.mk checksumTag payload).Sized ∧
      Certifies before payload

/-- The last demo option among some options. -/
def lastDemo? (blocks : List Block) : Option Block :=
  (blocks.filter (fun block => block.tag = demoTag)).getLast?

/-- A packet of the grammar: how it splits, and the record that stands in it. -/
structure Layout
    (packet : Bytes)
    (record : NavigationRecord)
    (blocks : List Block)
    (newest : Block)
    (rest : Bytes) :
    Prop where
  size : leastSize ≤ packet.length
  parts : packet = header record ++ blocks.flatMap Block.bytes ++ rest
  admissible : ∀ block ∈ blocks, block.Admissible
  closed : Closes (header record ++ blocks.flatMap Block.bytes) rest
  last : lastDemo? blocks = some newest
  carried : (demoOf record).StandsIn newest.payload

/-- A packet of the grammar that carries a record. -/
def Carries
    (packet : Bytes)
    (record : NavigationRecord) :
    Prop :=
  ∃ (blocks : List Block) (newest : Block) (rest : Bytes),
    Layout packet record blocks newest rest

/-! ## One option -/

theorem demoTag_ne_checksumTag : demoTag ≠ checksumTag := by
  decide

/-- An option takes a header and its payload. -/
theorem Block.length_bytes (block : Block) :
    block.bytes.length = optionHeaderSize + block.payload.length := by
  simp only [Block.bytes, encodeOption, Bytes.ofWord16, List.length_append, Bytes.length_encode,
    optionHeaderSize]

/-- A sized option is its tag and its size as words, and its payload. -/
theorem Block.bytes_eq
    {block : Block}
    {size : UInt16}
    (declared : size.toNat = optionHeaderSize + block.payload.length) :
    block.bytes = Bytes.ofWord16 block.tag ++ (Bytes.ofWord16 size ++ block.payload) := by
  rw [Block.bytes, encodeOption, ← declared, ← Bytes.ofWord16, List.append_assoc]

/-- An option stands at an offset exactly if its words and its payload are read there. -/
theorem drop_eq_bytes_append_iff
    {packet after : Bytes}
    {offset : Nat}
    {block : Block}
    (sized : block.Sized) :
    packet.drop offset = block.bytes ++ after ↔
      offset + optionHeaderSize + block.payload.length ≤ packet.length ∧
      packet.word16 offset = block.tag ∧
      (packet.word16 (offset + 2)).toNat = optionHeaderSize + block.payload.length ∧
      (packet.drop (offset + optionHeaderSize)).take block.payload.length = block.payload ∧
      packet.drop (offset + (optionHeaderSize + block.payload.length)) = after := by
  have declared :
      (UInt16.ofNat (optionHeaderSize + block.payload.length)).toNat =
        optionHeaderSize + block.payload.length :=
    UInt16.toNat_ofNat_of_lt' sized
  rw [Block.bytes_eq declared, List.append_assoc, List.append_assoc,
    Bytes.drop_eq_ofWord16_append_iff, Bytes.drop_eq_ofWord16_append_iff,
    Bytes.eq_append_iff, ← UInt16.toNat_inj, ← UInt16.toNat_inj (b := UInt16.ofNat _), declared,
    List.length_drop, List.drop_drop]
  have behind : offset + 2 + 2 + block.payload.length =
      offset + (optionHeaderSize + block.payload.length) := by
    simp only [optionHeaderSize]
    omega
  rw [behind]
  simp only [optionHeaderSize]
  constructor
  · rintro ⟨_, tag, _, size, _, payload, rest⟩
    exact ⟨by omega, tag, size, payload, rest⟩
  · rintro ⟨_, tag, size, payload, rest⟩
    exact ⟨by omega, tag, by omega, size, by omega, payload, rest⟩

/-- There is no option exactly where there is no room for the header of one. -/
theorem optionAt?_eq_none_iff
    {packet : Bytes}
    {offset : Nat} :
    optionAt? packet offset = .ok none ↔ packet.length < offset + optionHeaderSize := by
  unfold optionAt?
  constructor
  · intro found
    split at found
    · simp only at found
      split at found
      · cases found
      · split at found <;> cases found
    · omega
  · intro short
    rw [if_neg (by omega)]

/-- An option that was found is written at its offset. -/
theorem optionAt?_sound
    {packet : Bytes}
    {offset : Nat}
    {item : PacketOption}
    (found : optionAt? packet offset = .ok (some item)) :
    item.offset = offset ∧
      item.block.Sized ∧
      item.finish = offset + item.block.bytes.length ∧
      packet.drop offset = item.block.bytes ++ packet.drop item.finish := by
  unfold optionAt? at found
  split at found
  · simp only at found
    split at found
    · cases found
    · split at found
      · cases found
      · rename_i room large fits
        cases found
        have sizeLess := (packet.word16 (offset + 2)).toNat_lt
        generalize declared : (packet.word16 (offset + 2)).toNat = size at *
        have length :
            ((packet.drop (offset + optionHeaderSize)).take (size - optionHeaderSize)).length =
              size - optionHeaderSize := by
          rw [List.length_take, List.length_drop]
          omega
        have whole : optionHeaderSize + (size - optionHeaderSize) = size := by
          omega
        have sized : (Block.mk (packet.word16 offset)
            ((packet.drop (offset + optionHeaderSize)).take (size - optionHeaderSize))).Sized := by
          rw [Block.Sized, length, whole]
          exact sizeLess
        refine ⟨rfl, sized, ?_, ?_⟩
        · rw [Block.length_bytes, PacketOption.block, length, whole, PacketOption.finish]
        · rw [PacketOption.block, drop_eq_bytes_append_iff sized, length, whole]
          exact ⟨by omega, rfl, declared, rfl, rfl⟩
  · cases found

/-- An option that is written at an offset is found there. -/
theorem optionAt?_complete
    {packet after : Bytes}
    {offset : Nat}
    {block : Block}
    (sized : block.Sized)
    (written : packet.drop offset = block.bytes ++ after) :
    optionAt? packet offset = .ok (some
      { tag := block.tag
        offset := offset
        size := optionHeaderSize + block.payload.length
        payload := block.payload }) := by
  rw [drop_eq_bytes_append_iff sized] at written
  obtain ⟨room, tag, size, payload, -⟩ := written
  simp only [optionAt?, tag, size]
  rw [if_pos (by omega), if_neg (by omega), if_neg (by omega), Nat.add_sub_cancel_left, payload]

/-! ## The demo option and the checksum option -/

/-- A payload is read as a demo exactly if the words of the demo stand in it. -/
theorem Demo.ofPayload_eq_ok_iff
    {payload : Bytes}
    {demo : Demo} :
    Demo.ofPayload payload = .ok demo ↔ demo.StandsIn payload := by
  unfold Demo.ofPayload Demo.StandsIn
  simp only [List.append_assoc, @Bytes.eq_ofWord32_append_iff payload,
    Bytes.drop_eq_ofWord32_append_iff, Nat.reduceAdd]
  constructor
  · intro read
    split at read
    · cases read
    · rename_i long
      cases read
      simp only [demoSize] at long
      refine ⟨payload.word32 0, payload.drop 40, rfl, ?_⟩
      simp only [UInt32.toUInt32_toInt32, true_and, and_true]
      omega
  · rintro ⟨control, more, state, _, rfl, _, battery, _, theta, _, phi, _, psi, _, altitude,
      _, vx, _, vy, _, vz, _, frameIndex, -⟩
    have long : ¬ payload.length < demoSize := by
      simp only [demoSize]
      omega
    rw [if_neg long, ← state, battery, theta, phi, psi, altitude, vx, vy, vz, frameIndex,
      Int32.toInt32_toUInt32]

/-- A payload certifies a packet exactly if its first word is the sum of what comes before it. -/
theorem certifies_iff
    {before payload : Bytes} :
    Certifies before payload ↔ 4 ≤ payload.length ∧ payload.word32 0 = before.sum := by
  simp only [Certifies, Bytes.eq_ofWord32_append_iff]
  constructor
  · rintro ⟨more, long, sum, -⟩
    exact ⟨long, sum⟩
  · rintro ⟨long, sum⟩
    exact ⟨payload.drop 4, long, sum, rfl⟩

/-- A checksum option is accepted exactly if its payload certifies the bytes before it. -/
theorem verify_eq_ok_iff
    {packet : Bytes}
    {item : PacketOption} :
    verify packet item = .ok () ↔ Certifies (packet.take item.offset) item.payload := by
  have readable :
      item.payload.field? 0 4 =
        if 4 ≤ item.payload.length then some (item.payload.field 0 4) else none := by
    have whole : min 4 item.payload.length = 4 ↔ 4 ≤ item.payload.length := by
      omega
    simp only [Bytes.field?, Bytes.field, List.drop_zero, List.length_take, whole]
  rw [certifies_iff]
  unfold verify
  rw [readable]
  by_cases long : 4 ≤ item.payload.length
  · rw [if_pos long]
    simp only [Bytes.word32]
    split <;> simp [*]
  · rw [if_neg long]
    simp [long]

/-! ## The options of a packet -/

/-- What reading some options makes of the demo that was known before them. -/
def Settles
    (known : Option Demo)
    (blocks : List Block)
    (result : Option Demo) :
    Prop :=
  match lastDemo? blocks with
  | none => result = known
  | some newest => ∃ demo : Demo, demo.StandsIn newest.payload ∧ result = some demo

/-- A demo option is one exactly if it has room for its words. -/
theorem Demo.exists_standsIn_iff
    {payload : Bytes} :
    (∃ demo : Demo, demo.StandsIn payload) ↔ demoSize ≤ payload.length := by
  simp only [← Demo.ofPayload_eq_ok_iff, Demo.ofPayload]
  by_cases short : payload.length < demoSize
  · simp only [if_pos short, reduceCtorEq, exists_false, false_iff]
    omega
  · simp only [if_neg short, Except.ok.injEq, exists_eq', true_iff]
    omega

/-- At most one demo stands in a payload. -/
theorem Demo.StandsIn.unique
    {first second : Demo}
    {payload : Bytes}
    (firstStands : first.StandsIn payload)
    (secondStands : second.StandsIn payload) :
    first = second := by
  rw [← Demo.ofPayload_eq_ok_iff] at firstStands secondStands
  rw [firstStands] at secondStands
  exact Except.ok.inj secondStands

theorem settles_cons_of_other
    {known result : Option Demo}
    {block : Block}
    {blocks : List Block}
    (other : block.tag ≠ demoTag) :
    Settles known (block :: blocks) result ↔ Settles known blocks result := by
  have same : lastDemo? (block :: blocks) = lastDemo? blocks := by
    simp [lastDemo?, other]
  rw [Settles, same, Settles]

/-- A demo option is the last one unless another one follows. -/
theorem lastDemo?_cons_of_demo
    {block : Block}
    {blocks : List Block}
    (isDemo : block.tag = demoTag) :
    lastDemo? (block :: blocks) = some ((lastDemo? blocks).getD block) := by
  simp [lastDemo?, isDemo, List.getLast?_cons]

/-- A demo option replaces the demo that was known. -/
theorem settles_cons_of_demo
    {known result : Option Demo}
    {first : Demo}
    {block : Block}
    {blocks : List Block}
    (isDemo : block.tag = demoTag)
    (stands : first.StandsIn block.payload) :
    Settles known (block :: blocks) result ↔ Settles (some first) blocks result := by
  rw [Settles, lastDemo?_cons_of_demo isDemo, Settles]
  cases lastDemo? blocks with
  | none =>
      constructor
      · rintro ⟨demo, demoStands, rfl⟩
        rw [stands.unique demoStands]
      · rintro rfl
        exact ⟨first, stands, rfl⟩
  | some newest =>
      exact Iff.rfl

/-- How a packet goes on from an offset, and what demo is known at its end. -/
structure Continues
    (packet : Bytes)
    (offset : Nat)
    (known : Option Demo)
    (blocks : List Block)
    (rest : Bytes)
    (result : Option Demo) :
    Prop where
  parts : packet.drop offset = blocks.flatMap Block.bytes ++ rest
  admissible : ∀ block ∈ blocks, block.Admissible
  closed : Closes (packet.take offset ++ blocks.flatMap Block.bytes) rest
  settles : Settles known blocks result

/-- An admissible option in front of a continuation makes a longer continuation. -/
theorem Continues.cons_iff
    {packet rest : Bytes}
    {offset finish : Nat}
    {known next result : Option Demo}
    {block : Block}
    {blocks : List Block}
    (admissible : block.Admissible)
    (written : packet.drop offset = block.bytes ++ packet.drop finish)
    (passed : finish = offset + block.bytes.length)
    (settles : Settles known (block :: blocks) result ↔ Settles next blocks result) :
    Continues packet offset known (block :: blocks) rest result ↔
      Continues packet finish next blocks rest result := by
  have before : packet.take finish = packet.take offset ++ block.bytes := by
    rw [passed]
    exact Bytes.take_add_of_drop written
  constructor
  · intro ⟨parts, allAdmissible, closed, settled⟩
    rw [written, List.flatMap_cons, List.append_assoc] at parts
    refine ⟨List.append_cancel_left parts, ?_, ?_, settles.mp settled⟩
    · intro later member
      exact allAdmissible later (List.mem_cons_of_mem block member)
    · rw [List.flatMap_cons, ← List.append_assoc] at closed
      rw [before]
      exact closed
  · intro ⟨parts, laterAdmissible, closed, settled⟩
    refine ⟨?_, ?_, ?_, settles.mpr settled⟩
    · rw [written, parts, List.flatMap_cons, List.append_assoc]
    · intro later member
      rcases List.mem_cons.mp member with rfl | member
      · exact admissible
      · exact laterAdmissible later member
    · rw [List.flatMap_cons, ← List.append_assoc, ← before]
      exact closed

/-- A packet stops where a rest that closes it begins, with the demo that is known there. -/
theorem Continues.stop_iff
    {packet rest : Bytes}
    {offset : Nat}
    {known result : Option Demo} :
    Continues packet offset known [] rest result ↔
      packet.drop offset = rest ∧ Closes (packet.take offset) rest ∧ result = known := by
  constructor
  · intro ⟨parts, _, closed, settled⟩
    simp only [List.flatMap_nil, List.nil_append, List.append_nil] at parts closed
    exact ⟨parts, closed, settled⟩
  · intro ⟨parts, closed, settled⟩
    refine ⟨parts, ?_, ?_, settled⟩
    · intro block member
      cases member
    · simpa only [List.flatMap_nil, List.append_nil] using closed

/-- Options that were read are options of the grammar. -/
theorem readOptions_sound
    {packet : Bytes}
    {offset : Nat}
    {known result : Option Demo}
    (read : readOptions packet offset known = .ok result) :
    ∃ (blocks : List Block) (rest : Bytes),
      Continues packet offset known blocks rest result := by
  -- The recursion of the reader is the list of options; a checksum or a short rest ends it.
  fun_induction readOptions packet offset known with
  | case1 => cases read
  | case2 offset known short =>
      rw [optionAt?_eq_none_iff] at short
      have room : (packet.drop offset).length < optionHeaderSize := by
        simp only [optionHeaderSize] at *
        rw [List.length_drop]
        omega
      exact ⟨[], packet.drop offset,
        Continues.stop_iff.mpr ⟨rfl, .inl room, (Except.ok.inj read).symm⟩⟩
  | case3 => cases read
  | case4 offset known item found isDemo newest newestRead inductionHypothesis =>
      obtain ⟨-, sized, passed, written⟩ := optionAt?_sound found
      have stands : newest.StandsIn item.payload := Demo.ofPayload_eq_ok_iff.mp newestRead
      have admissible : item.block.Admissible := by
        refine ⟨sized, ?_, ?_⟩
        · change item.tag ≠ checksumTag
          rw [isDemo]
          exact demoTag_ne_checksumTag
        · intro _
          exact Demo.exists_standsIn_iff.mp ⟨newest, stands⟩
      obtain ⟨blocks, rest, continues⟩ := inductionHypothesis read
      refine ⟨item.block :: blocks, rest, ?_⟩
      have settles : Settles known (item.block :: blocks) result ↔
          Settles (some newest) blocks result :=
        settles_cons_of_demo isDemo stands
      exact (Continues.cons_iff admissible written passed settles).mpr continues
  | case5 => cases read
  | case6 offset known item found notDemo isChecksum verified =>
      obtain ⟨located, sized, passed, written⟩ := optionAt?_sound found
      have certifies := verify_eq_ok_iff.mp verified
      rw [located] at certifies
      have shape : item.block = Block.mk checksumTag item.payload := by
        rw [PacketOption.block, isChecksum]
      rw [shape] at written sized
      exact ⟨[], packet.drop offset, Continues.stop_iff.mpr
        ⟨rfl, .inr ⟨item.payload, packet.drop item.finish, written, sized, certifies⟩,
          (Except.ok.inj read).symm⟩⟩
  | case7 offset known item found notDemo notChecksum inductionHypothesis =>
      obtain ⟨-, sized, passed, written⟩ := optionAt?_sound found
      have admissible : item.block.Admissible :=
        ⟨sized, notChecksum, fun isDemo => absurd isDemo notDemo⟩
      obtain ⟨blocks, rest, continues⟩ := inductionHypothesis read
      exact ⟨item.block :: blocks, rest, (Continues.cons_iff admissible written passed
        (settles_cons_of_other notDemo)).mpr continues⟩

/-- One round of the reader, by the option that it finds. -/
theorem readOptions_eq
    (packet : Bytes)
    (offset : Nat)
    (known : Option Demo) :
    readOptions packet offset known =
      match optionAt? packet offset with
      | .error fault => .error fault
      | .ok none => .ok known
      | .ok (some item) =>
          if item.tag = demoTag then
            match Demo.ofPayload item.payload with
            | .error fault => .error fault
            | .ok newest => readOptions packet item.finish (some newest)
          else if item.tag = checksumTag then
            match verify packet item with
            | .error fault => .error fault
            | .ok () => .ok known
          else
            readOptions packet item.finish known := by
  rw [readOptions]
  split
  · rename_i fault same
    exact same ▸ rfl
  · rename_i same
    exact same ▸ rfl
  · rename_i item same
    exact same ▸ rfl

/-- Options of the grammar are read. -/
theorem readOptions_complete
    {packet rest : Bytes}
    {offset : Nat}
    {known result : Option Demo}
    {blocks : List Block}
    (continues : Continues packet offset known blocks rest result) :
    readOptions packet offset known = .ok result := by
  induction blocks generalizing offset known with
  | nil =>
      obtain ⟨parts, closed, rfl⟩ := Continues.stop_iff.mp continues
      rcases closed with short | ⟨payload, ignored, restParts, sized, certifies⟩
      · have none : optionAt? packet offset = .ok none := by
          rw [← parts, List.length_drop] at short
          rw [optionAt?_eq_none_iff]
          omega
        rw [readOptions_eq, none]
      · rw [restParts] at parts
        have found := optionAt?_complete sized parts
        rw [readOptions_eq, found]
        simp only [demoTag_ne_checksumTag.symm, if_false, if_true]
        rw [verify_eq_ok_iff.mpr certifies]
  | cons block blocks inductionHypothesis =>
      have admissible := continues.admissible block List.mem_cons_self
      have parts := continues.parts
      rw [List.flatMap_cons, List.append_assoc] at parts
      have found := optionAt?_complete admissible.sized parts
      rw [← Block.length_bytes] at found
      have behind := Bytes.drop_add_of_drop parts
      rw [← behind] at parts
      by_cases isDemo : block.tag = demoTag
      · obtain ⟨first, stands⟩ := Demo.exists_standsIn_iff.mpr (admissible.long isDemo)
        have settles : Settles known (block :: blocks) result ↔
            Settles (some first) blocks result :=
          settles_cons_of_demo isDemo stands
        have read := Demo.ofPayload_eq_ok_iff.mpr stands
        rw [readOptions_eq, found]
        simp only [isDemo, if_true, read]
        exact inductionHypothesis
          ((Continues.cons_iff admissible parts rfl settles).mp continues)
      · have settles : Settles known (block :: blocks) result ↔ Settles known blocks result :=
          settles_cons_of_other isDemo
        rw [readOptions_eq, found]
        simp only [isDemo, if_false, admissible.unchecked]
        exact inductionHypothesis
          ((Continues.cons_iff admissible parts rfl settles).mp continues)

/-! ## Whole packets -/

/-- A packet starts with the header of a record exactly if its words are those of the record. -/
theorem eq_header_append_iff
    {packet rest : Bytes}
    {record : NavigationRecord} :
    packet = header record ++ rest ↔
      headerSize ≤ packet.length ∧
      packet.word32 0 = magic ∧
      packet.word32 4 = record.status.bits ∧
      packet.word32 8 = record.sequence ∧
      packet.word32 12 = record.visionDefined ∧
      packet.drop headerSize = rest := by
  simp only [header, List.append_assoc, @Bytes.eq_ofWord32_append_iff packet,
    Bytes.drop_eq_ofWord32_append_iff, Nat.reduceAdd, headerSize]
  constructor
  · rintro ⟨_, first, _, status, _, sequence, _, vision, remainder⟩
    exact ⟨by omega, first, status, sequence, vision, remainder⟩
  · rintro ⟨_, first, status, sequence, vision, remainder⟩
    exact ⟨by omega, first, by omega, status, by omega, sequence, by omega, vision, remainder⟩

/-- Assembling takes the header from the packet and everything else from the demo. -/
theorem assemble_eq_iff
    {packet : Bytes}
    {demo : Demo}
    {record : NavigationRecord} :
    assemble packet demo = record ↔
      packet.word32 4 = record.status.bits ∧
      packet.word32 8 = record.sequence ∧
      packet.word32 12 = record.visionDefined ∧
      demo = demoOf record := by
  constructor
  · rintro rfl
    exact ⟨rfl, rfl, rfl, rfl⟩
  · rintro ⟨status, sequence, vision, rfl⟩
    rw [assemble, status, sequence, vision]
    rfl

/-- A packet is accepted exactly if its header and its options are, and it has a demo. -/
theorem decode_eq_ok_iff
    {packet : Bytes}
    {record : NavigationRecord} :
    decode packet = .ok record ↔
      leastSize ≤ packet.length ∧
      packet.word32 0 = magic ∧
      ∃ demo, readOptions packet headerSize none = .ok (some demo) ∧
        assemble packet demo = record := by
  unfold decode
  by_cases short : packet.length < leastSize
  · rw [if_pos short]
    simp only [reduceCtorEq, false_iff, not_and]
    intro long
    omega
  · rw [if_neg short]
    by_cases known : packet.word32 0 = magic
    · rw [if_neg (not_not_intro known)]
      split <;> simp_all
    · rw [if_pos known]
      simp [known]

/-- Options settle a demo exactly if the last demo option among them holds it. -/
theorem settles_none_iff
    {blocks : List Block}
    {demo : Demo} :
    Settles none blocks (some demo) ↔
      ∃ newest, lastDemo? blocks = some newest ∧ demo.StandsIn newest.payload := by
  unfold Settles
  cases lastDemo? blocks with
  | none => simp
  | some newest => simp

theorem length_header (record : NavigationRecord) :
    (header record).length = headerSize := by
  simp only [header, Bytes.ofWord32, List.length_append, Bytes.length_encode, headerSize]

/-- Behind its header a packet of the grammar goes on with its options. -/
theorem layout_iff
    {packet rest : Bytes}
    {record : NavigationRecord}
    {blocks : List Block}
    {newest : Block}
    (announced : packet = header record ++ packet.drop headerSize) :
    Layout packet record blocks newest rest ↔
      leastSize ≤ packet.length ∧
      lastDemo? blocks = some newest ∧
      (demoOf record).StandsIn newest.payload ∧
      Continues packet headerSize none blocks rest (some (demoOf record)) := by
  have start : packet.take headerSize = header record := by
    rw [announced, List.take_left' (length_header record)]
  constructor
  · intro layout
    have parts := layout.parts
    rw [announced, List.append_assoc] at parts
    have closed := layout.closed
    rw [← start] at closed
    exact ⟨layout.size, layout.last, layout.carried, List.append_cancel_left parts,
      layout.admissible, closed, settles_none_iff.mpr ⟨newest, layout.last, layout.carried⟩⟩
  · rintro ⟨size, last, carried, parts, admissible, closed, -⟩
    rw [start] at closed
    refine ⟨size, ?_, admissible, closed, last, carried⟩
    rw [List.append_assoc, ← parts]
    exact announced

/-- The decoder gives a record exactly for the packets that carry it. -/
theorem decode_eq_ok_iff_carries
    {packet : Bytes}
    {record : NavigationRecord} :
    decode packet = .ok record ↔ Carries packet record := by
  rw [decode_eq_ok_iff]
  constructor
  · rintro ⟨size, first, demo, read, assembled⟩
    obtain ⟨status, sequence, vision, rfl⟩ := assemble_eq_iff.mp assembled
    obtain ⟨blocks, rest, continues⟩ := readOptions_sound read
    obtain ⟨newest, last, carried⟩ := settles_none_iff.mp continues.settles
    have long : headerSize ≤ packet.length := by
      simp only [leastSize, headerSize] at *
      omega
    have announced : packet = header record ++ packet.drop headerSize :=
      eq_header_append_iff.mpr ⟨long, first, status, sequence, vision, rfl⟩
    exact ⟨blocks, newest, rest, (layout_iff announced).mpr ⟨size, last, carried, continues⟩⟩
  · rintro ⟨blocks, newest, rest, layout⟩
    have parts := layout.parts
    rw [List.append_assoc] at parts
    obtain ⟨-, first, status, sequence, vision, behind⟩ := eq_header_append_iff.mp parts
    rw [← behind] at parts
    obtain ⟨size, -, -, continues⟩ := (layout_iff parts).mp layout
    exact ⟨size, first, demoOf record, readOptions_complete continues,
      assemble_eq_iff.mpr ⟨status, sequence, vision, rfl⟩⟩

/--
The decoder accepts exactly the packets of the grammar, with the record that stands in them, and
refuses everything else as a malformed packet.
-/
theorem decode_accepts_exactly_grammar (packet : Bytes) :
    (∀ record, decode packet = .ok record ↔ Carries packet record) ∧
    ((∀ record, ¬ Carries packet record) ↔
      ∃ (fault : Fault) (context details : String),
        decode packet = .error fault ∧ fault.toError = .malformedPacket context details) := by
  have accepts : ∀ record, decode packet = .ok record ↔ Carries packet record :=
    fun _ => decode_eq_ok_iff_carries
  refine ⟨accepts, ?_⟩
  simp only [← accepts]
  cases decode packet with
  | error fault =>
      simp [Fault.toError]
  | ok record =>
      simp

end Wire

end DroneSession
