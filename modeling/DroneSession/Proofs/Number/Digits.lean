import DroneSession.Number.Literal

namespace DroneSession

/-!
# Whole numbers read back

The digits of a number, in any base up to sixteen and with any spelling that the reader knows, read
as that number; zeros in front of them change nothing.
-/

namespace Number

/-- The value of digits, the most significant first, behind a value that was read already. -/
def valueFrom
    (base value : Nat)
    (digits : List Nat) :
    Nat :=
  digits.foldl (fun value digit => value * base + digit) value

theorem valueFrom_zeros
    (base zeros : Nat) :
    valueFrom base 0 (List.replicate zeros 0) = 0 := by
  induction zeros with
  | zero => rfl
  | succ zeros inductionHypothesis =>
      have step :
          valueFrom base 0 (List.replicate (zeros + 1) 0) =
            valueFrom base (0 * base + 0) (List.replicate zeros 0) :=
        rfl
      rw [step, Nat.zero_mul, inductionHypothesis]

/-- Full blocks do not change what is read. -/
theorem naturalFrom?_eq_some
    {base : Nat}
    {text : List Char}
    {digits : List Nat}
    (spelled : text.map digitValue? = digits.map some)
    (small : ∀ digit ∈ digits, digit < base)
    (front weight block : Nat) :
    naturalFrom? base front weight block text =
      some (valueFrom base (front * weight + block) digits) := by
  induction text generalizing digits front weight block with
  | nil =>
      rw [List.map_nil] at spelled
      rw [List.map_eq_nil_iff.mp spelled.symm]
      rfl
  | cons character text inductionHypothesis =>
      cases digits with
      | nil => cases spelled
      | cons digit digits =>
          rw [List.map_cons, List.map_cons, List.cons.injEq] at spelled
          have smallDigit : ¬ base ≤ digit :=
            Nat.not_le.mpr (small digit List.mem_cons_self)
          have later := fun front weight block =>
            inductionHypothesis spelled.2
              (fun other member => small other (List.mem_cons_of_mem _ member))
              front weight block
          have next :
              valueFrom base (front * weight + block) (digit :: digits) =
                valueFrom base ((front * weight + block) * base + digit) digits :=
            rfl
          have shifted :
              front * (weight * base) + (block * base + digit) =
                (front * weight + block) * base + digit := by
            rw [Nat.add_mul, Nat.mul_assoc, Nat.add_assoc]
          simp only [naturalFrom?, spelled.1, smallDigit, if_false, later, next, shifted, ite_self]

/-- Only digits are read as a part of a number. -/
theorem isSome_digitValue?_of_naturalFrom?
    {base front weight block value : Nat}
    {text : List Char}
    (read : naturalFrom? base front weight block text = some value) :
    ∀ character ∈ text, (digitValue? character).isSome = true := by
  induction text generalizing front weight block with
  | nil =>
      intro character member
      cases member
  | cons first text inductionHypothesis =>
      simp only [naturalFrom?] at read
      cases valued : digitValue? first with
      | none =>
          rw [valued] at read
          cases read
      | some digit =>
          have readLater :
              ∃ front weight block, naturalFrom? base front weight block text = some value := by
            simp only [valued] at read
            split at read
            · cases read
            · split at read
              · exact ⟨_, _, _, read⟩
              · exact ⟨_, _, _, read⟩
          obtain ⟨_, _, _, readLater⟩ := readLater
          intro character member
          rcases List.mem_cons.mp member with rfl | later
          · rw [valued]
            rfl
          · exact inductionHypothesis readLater character later

/-- A text that reads as a number consists of digits. -/
theorem isSome_digitValue?_of_natural?
    {base value : Nat}
    {text : List Char}
    (read : natural? base text = some value) :
    ∀ character ∈ text, (digitValue? character).isSome = true := by
  rw [natural?] at read
  split at read
  · cases read
  · exact isSome_digitValue?_of_naturalFrom? read

section

variable {base : Nat} {spell : Char → Char}

/-- The digits of a number have it as their value. -/
theorem exists_digits
    (large : 1 < base)
    (spells : ∀ digit < base, digitValue? (spell digit.digitChar) = some digit)
    (value : Nat) :
    ∃ digits,
      ((Nat.toDigits base value).map spell).map digitValue? = digits.map some ∧
      (∀ digit ∈ digits, digit < base) ∧
      valueFrom base 0 digits = value := by
  induction value using Nat.strongRecOn with
  | ind value inductionHypothesis =>
      by_cases single : value < base
      · refine ⟨[value], ?_, ?_, ?_⟩
        · rw [Nat.toDigits_of_lt_base single]
          simp only [List.map_cons, List.map_nil, spells value single]
        · intro digit member
          rwa [List.mem_singleton.mp member]
        · simp [valueFrom]
      · have several : base ≤ value :=
          Nat.not_lt.mp single
        have less : value / base < value :=
          Nat.div_lt_self (by omega) large
        have remainder : value % base < base :=
          Nat.mod_lt value (by omega)
        obtain ⟨digits, spelled, small, valued⟩ := inductionHypothesis (value / base) less
        refine ⟨digits ++ [value % base], ?_, ?_, ?_⟩
        · rw [Nat.toDigits_of_base_le large several]
          simp only [List.map_append, List.map_cons, List.map_nil, spelled, spells _ remainder]
        · intro digit member
          rcases List.mem_append.mp member with earlier | last
          · exact small digit earlier
          · rwa [List.mem_singleton.mp last]
        · have appended :
              valueFrom base 0 (digits ++ [value % base]) =
                valueFrom base 0 digits * base + value % base := by
            rw [valueFrom, valueFrom, List.foldl_append]
            rfl
          rw [appended, valued, Nat.div_add_mod']

/-- A number reads back from its digits behind any number of zeros. -/
theorem natural?_toDigits
    (large : 1 < base)
    (spells : ∀ digit < base, digitValue? (spell digit.digitChar) = some digit)
    (zeros value : Nat) :
    natural? base ((List.replicate zeros '0' ++ Nat.toDigits base value).map spell) =
      some value := by
  obtain ⟨digits, spelled, small, valued⟩ := exists_digits large spells value
  have spelledAll :
      ((List.replicate zeros '0' ++ Nat.toDigits base value).map spell).map digitValue? =
        (List.replicate zeros 0 ++ digits).map some := by
    have zero : digitValue? (spell '0') = some 0 :=
      spells 0 (by omega)
    simp only [List.map_append, List.map_replicate, spelled, zero]
  have smallAll : ∀ digit ∈ List.replicate zeros 0 ++ digits, digit < base := by
    intro digit member
    rcases List.mem_append.mp member with zero | other
    · rw [List.eq_of_mem_replicate zero]
      omega
    · exact small digit other
  have valuedAll : valueFrom base 0 (List.replicate zeros 0 ++ digits) = value := by
    have split :
        valueFrom base 0 (List.replicate zeros 0 ++ digits) =
          valueFrom base (valueFrom base 0 (List.replicate zeros 0)) digits :=
      List.foldl_append
    rw [split, valueFrom_zeros, valued]
  have nonempty :
      ((List.replicate zeros '0' ++ Nat.toDigits base value).map spell).isEmpty = false := by
    rw [List.isEmpty_eq_false_iff]
    simp [Nat.toDigits_ne_nil]
  rw [natural?, nonempty, if_neg Bool.false_ne_true, naturalFrom?_eq_some spelledAll smallAll,
    Nat.zero_mul, Nat.zero_add, valuedAll]

end

/-- No zero stands in front of the digits of a positive number. -/
theorem head?_toDigits
    {value : Nat}
    (positive : 0 < value) :
    (Nat.toDigits 10 value).head? ≠ some '0' := by
  induction value using Nat.strongRecOn with
  | ind value inductionHypothesis =>
      by_cases single : value < 10
      · have spelled : ∀ digit < 10, 0 < digit → digit.digitChar ≠ '0' := by
          decide
        rw [Nat.toDigits_of_lt_base single]
        simpa using spelled value single positive
      · have several : 10 ≤ value :=
          Nat.not_lt.mp single
        have front :=
          inductionHypothesis (value / 10) (by omega) (Nat.div_pos several (by decide))
        rwa [Nat.toDigits_of_base_le (by decide) several, List.head?_append,
          Option.or_of_isSome (List.isSome_head?.mpr Nat.toDigits_ne_nil)]

end Number

end DroneSession
