import AssistiveTree.Proofs.Toml.Written
import AssistiveTree.Text.Shown
import AssistiveTree.Toml.Expression

/-!
# Written values are read back

A value at the end of a line is read back if its text is a written string, the
decimal digits of an integer in range or the name of a truth value.
-/

namespace AssistiveTree
namespace Toml

/-- Whether a text at the end of a line is read as a value. -/
def Value.WrittenAs (value : Value) (text : List Char) : Prop :=
  ∀ rest, readPlain? (text ++ '\n' :: rest) = some (value, '\n' :: rest)

/-- A run of characters ends before the first character of another kind. -/
theorem takeWhile_append_cons
    {kind : Char → Bool}
    {run : List Char}
    {stop : Char}
    (inside : ∀ character ∈ run, kind character = true)
    (outside : kind stop = false)
    (rest : List Char) :
    (run ++ stop :: rest).takeWhile kind = run ∧
      (run ++ stop :: rest).dropWhile kind = stop :: rest := by
  have leaves : ¬ kind stop = true := by simp [outside]
  constructor
  · rw [List.takeWhile_append_of_pos inside, List.takeWhile_cons_of_neg leaves,
      List.append_nil]
  · rw [List.dropWhile_append_of_pos inside, List.dropWhile_cons_of_neg leaves]

/-! ## Strings -/

/-- What is read as a string is read as a value. -/
theorem readPlain?_of_readString?
    {text rest : List Char}
    {string : String}
    (read : readString? text = some (string, rest)) :
    readPlain? text = some (.string string, rest) := by
  unfold readPlain?
  split
  · rw [read]
    rfl
  · rw [read]
    rfl
  · unfold readString? at read
    split at read <;> simp_all

/-- A written string is read back. -/
theorem Value.writtenAs_writeString (text : List Char) :
    (Value.string (String.ofList text)).WrittenAs (writeString text) :=
  fun rest => readPlain?_of_readString? (readString?_writeString text rest)

/-! ## Scalars -/

/-- Nothing is no scalar. -/
theorem scalar?_nil : scalar? [] = none := rfl

/-- A run of scalar characters is read as the value it stands for. -/
theorem Value.writtenAs_scalar
    {value : Value}
    {run : List Char}
    (characters : ∀ character ∈ run, isScalarChar character = true)
    (read : scalar? run = some value) :
    value.WrittenAs run := by
  intro rest
  obtain ⟨first, remaining⟩ :=
    takeWhile_append_cons characters (by rfl : isScalarChar '\n' = false) rest
  have scalar : readScalar? (run ++ '\n' :: rest) =
      some (value, '\n' :: rest) := by
    rw [readScalar?, first, remaining, read]
    rfl
  obtain ⟨character, others, rfl⟩ := List.exists_cons_of_ne_nil
    (l := run) (by rintro rfl; simp [scalar?_nil] at read)
  have bare := characters character List.mem_cons_self
  rw [List.cons_append, readPlain?, ← List.cons_append, scalar]
  all_goals
    rintro after same
    rw [(List.cons.inj same).1] at bare
    exact absurd bare (by decide)

/-! ## Integers -/

/-- Digits without underscores are read as they are. -/
theorem digitRun?_of_isDigit
    {digits : List Char}
    (some_digit : digits ≠ [])
    (areDigits : ∀ digit ∈ digits, digit.isDigit = true) :
    digitRun? Char.isDigit digits = some digits := by
  fun_induction digitRun? Char.isDigit digits with
  | case1 => contradiction
  | case2 digit => rfl
  | case3 digit notDigit => exact absurd (areDigits digit (by simp)) notDigit
  | case4 digit rest isDigit ih =>
      exact absurd (areDigits '_' (by simp)) (by decide)
  | case5 digit rest notDigit =>
      exact absurd (areDigits digit (by simp)) notDigit
  | case6 digit rest alone noUnderscore isDigit ih =>
      rw [ih (by rintro rfl; exact alone rfl)
        (fun other member => areDigits other (List.mem_cons_of_mem _ member)),
        Option.map_some]
  | case7 digit rest alone noUnderscore notDigit =>
      exact absurd (areDigits digit (by simp)) notDigit

/-- No character but digits occurs in the decimal digits of a number. -/
theorem isDigit_toDigits
    (number : Nat)
    {character : Char}
    (member : character ∈ Nat.toDigits 10 number) :
    character.isDigit = true :=
  Nat.isDigit_of_mem_toDigits (by decide) (by decide) member

/-- The first decimal digit of a positive number is not zero. -/
theorem head?_toDigits {number : Nat} (positive : 0 < number) :
    (Nat.toDigits 10 number).head? ≠ some '0' := by
  induction number using Nat.strongRecOn with
  | ind number ih =>
      rw [Nat.toDigits_eq_if (by decide)]
      split_ifs with small
      · have notZero : ∀ digit < 10, 0 < digit → digit.digitChar ≠ '0' := by
          decide
        simpa using notZero number small positive
      · have shorter := ih (number / 10) (by omega) (by omega)
        rw [List.head?_append_of_ne_nil _ Nat.toDigits_ne_nil]
        exact shorter

/-- The decimal digits of a number are read as decimal digits. -/
theorem decimalRun?_toDigits (number : Nat) :
    decimalRun? (Nat.toDigits 10 number) = some (Nat.toDigits 10 number) := by
  have digits : digitRun? Char.isDigit (Nat.toDigits 10 number) =
      some (Nat.toDigits 10 number) :=
    digitRun?_of_isDigit Nat.toDigits_ne_nil fun _ => isDigit_toDigits number
  have noLeadingZero : ¬ ((Nat.toDigits 10 number).head? = some '0' ∧
      Nat.toDigits 10 number ≠ ['0']) := by
    rintro ⟨zero, more⟩
    have positive : 0 < number := by
      refine Nat.pos_of_ne_zero ?_
      rintro rfl
      exact more (Nat.toDigits_zero 10)
    exact head?_toDigits positive zero
  rw [decimalRun?, digits, Option.bind_eq_bind, Option.bind_some,
    if_neg noLeadingZero]
  rfl

/-- The decimal digits of an integer in range are read as the integer. -/
theorem integerLiteral?_toDigits
    {number : Nat}
    (inRange : (number : Int) ≤ Int64.maxValue.toInt) :
    integerLiteral? (Nat.toDigits 10 number) = some (number : Int) := by
  have digit : ∀ character ∈ Nat.toDigits 10 number,
      character.isDigit = true := fun _ => isDigit_toDigits number
  have unsigned : splitSign (Nat.toDigits 10 number) =
      (false, Nat.toDigits 10 number) := by
    unfold splitSign
    split
    · next same => exact absurd (digit '-' (by simp [same])) (by decide)
    · next same => exact absurd (digit '+' (by simp [same])) (by decide)
    · rfl
  have fits : int64? (number : Int) = some (number : Int) :=
    if_pos ⟨Int.le_trans (by decide) (Int.natCast_nonneg number), inRange⟩
  unfold integerLiteral?
  split
  · next same => exact absurd (digit 'x' (by simp [same])) (by decide)
  · next same => exact absurd (digit 'o' (by simp [same])) (by decide)
  · next same => exact absurd (digit 'b' (by simp [same])) (by decide)
  · have size : Nat.ofDigitChars 10 (Nat.toDigits 10 number) 0 = number :=
      Nat.ofDigitChars_toDigits (by decide) (by decide)
    simp only [unsigned, decimalRun?_toDigits, Option.bind_eq_bind,
      Option.bind_some, size, Bool.false_eq_true, if_false, fits]

/-- Integers in range are written as decimal digits. -/
theorem Value.writtenAs_toDigits
    {number : Nat}
    (inRange : (number : Int) ≤ Int64.maxValue.toInt) :
    (Value.integer number).WrittenAs (Nat.toDigits 10 number) := by
  have noWord {word : List Char} (letter : Char)
      (member : letter ∈ word) (noDigit : letter.isDigit = false) :
      Nat.toDigits 10 number ≠ word := by
    rintro rfl
    simp [isDigit_toDigits number member] at noDigit
  refine writtenAs_scalar (fun digit member => ?_) ?_
  · simp [isScalarChar, Char.isAlphanum, isDigit_toDigits number member]
  · rw [scalar?, if_neg (noWord 't' (by decide) (by decide)),
      if_neg (noWord 'f' (by decide) (by decide)),
      integerLiteral?_toDigits inRange]

/-! ## Truth values -/

/-- Truth values are written by name. -/
theorem Value.writtenAs_ofBool (flag : Bool) :
    (Value.boolean flag).WrittenAs (Text.ofBool flag).toList := by
  cases flag <;>
    exact Value.writtenAs_scalar (List.all_eq_true.1 (by decide)) rfl

end Toml
end AssistiveTree
