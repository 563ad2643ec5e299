import AssistiveTree.Toml.Quoted
import AssistiveTree.Toml.Written
import Mathlib.Data.List.Infix

/-!
# Bodies of strings are read back

The text between the quotes of a string is read back up to the closing quotes:
with the escapes of a basic string where the form has them, and as it is where
the form has none. Before the closing quotes of a string over several lines,
quotes of the text may stand.
-/

namespace AssistiveTree
namespace Toml

/-! ## Characters -/

/-- Of the control characters, only the tab stands in comments and literal
strings. -/
theorem isText_iff (character : Char) :
    isText character = true ↔
      isControl character = false ∨ character = '\t' := by
  by_cases tab : character = '\t'
  · simp [isText, tab]
  · simp only [isText, isControl, tab, decide_false, Bool.false_or,
      Bool.and_eq_true, decide_eq_true_eq, Bool.or_eq_false_iff,
      decide_eq_false_iff_not, or_false]
    omega

/-- The code point of a control character is read back from its last two
digits. -/
theorem codePoint?_hexDigit
    {character : Char}
    (small : character.toNat < 128) :
    codePoint? ['0', '0', hexDigit (character.toNat / 16),
      hexDigit (character.toNat % 16)] = some character := by
  have all : ∀ point < 128,
      codePoint? ['0', '0', hexDigit (point / 16), hexDigit (point % 16)] =
        some (Char.ofNat point) := by decide
  rw [all _ small, Char.ofNat_toNat]

/-- A character of a basic string is written with a letter after a backslash,
with its code point or as it is. -/
theorem writeChar_cases (character : Char) :
    (∃ letter, escape? letter = some character ∧
      writeChar character = ['\\', letter]) ∨
    (∃ high low, codePoint? ['0', '0', high, low] = some character ∧
      writeChar character = ['\\', 'u', '0', '0', high, low]) ∨
    (isControl character = false ∧ character ≠ '\\' ∧
      writeChar character = [character]) := by
  unfold writeChar
  split_ifs with backspace tab lineFeed formFeed carriageReturn backslash
    control
  · exact .inl ⟨'b', by rw [backspace]; rfl, rfl⟩
  · exact .inl ⟨'t', by rw [tab]; rfl, rfl⟩
  · exact .inl ⟨'n', by rw [lineFeed]; rfl, rfl⟩
  · exact .inl ⟨'f', by rw [formFeed]; rfl, rfl⟩
  · exact .inl ⟨'r', by rw [carriageReturn]; rfl, rfl⟩
  · exact .inl ⟨'\\', by rw [backslash]; rfl, rfl⟩
  · have small : character.toNat < 128 := by
      simp only [isControl, Bool.or_eq_true, decide_eq_true_eq] at control
      omega
    exact .inr (.inl ⟨_, _, codePoint?_hexDigit small, rfl⟩)
  · exact .inr (.inr ⟨by simpa using control, backslash, rfl⟩)

/-- A written character starts with a backslash or with itself, and then it is
no control character. -/
theorem head?_writeChar (character : Char) (rest : List Char) :
    (writeChar character ++ rest).head? = some '\\' ∨
      isControl character = false ∧
        (writeChar character ++ rest).head? = some character := by
  obtain ⟨_, -, written⟩ | ⟨_, _, -, written⟩ | ⟨plain, -, written⟩ :=
    writeChar_cases character
  · exact .inl (by simp [written])
  · exact .inl (by simp [written])
  · exact .inr ⟨plain, by simp [written]⟩

/-- A letter with a meaning after a backslash starts no code point and no line
end. -/
theorem ne_of_escape?
    {letter character : Char}
    (escapes : escape? letter = some character) :
    ∀ other ∈ ['u', 'U', ' ', '\t', '\n', '\r'], letter ≠ other := by
  have meaningless :
      ∀ other ∈ ['u', 'U', ' ', '\t', '\n', '\r'], escape? other = none := by
    simp [escape?]
  rintro other member rfl
  rw [meaningless letter member] at escapes
  contradiction

/-- A text that starts with another character starts with no line end. -/
theorem readLineFeed?_eq_none
    {text : List Char}
    (noLineFeed : text.head? ≠ some '\n')
    (noReturn : text.head? ≠ some '\r') :
    readLineFeed? text = none := by
  fun_cases readLineFeed? text <;> simp_all

/-! ## Basic strings -/

@[simp]
theorem push?_some (character : Char) (text rest : List Char) :
    push? (some character) (some (text, rest)) =
      some (character :: text, rest) := rfl

/-- A letter after a backslash stands for its character. -/
theorem readBasic?_escape
    {letter character : Char}
    (escapes : escape? letter = some character)
    (rest : List Char) :
    readBasic? ('\\' :: letter :: rest) =
      push? (some character) (readBasic? rest) := by
  have notShort : letter ≠ 'u' := ne_of_escape? escapes 'u' (by decide)
  have notLong : letter ≠ 'U' := ne_of_escape? escapes 'U' (by decide)
  rw [readBasic?, escapes]
  -- None of the patterns before this one matches.
  all_goals
    intros
    contradiction

/-- A character of a text that needs no escape is read as it is. -/
theorem readBasic?_text
    {character : Char}
    (plain : isControl character = false)
    (noQuote : character ≠ '"')
    (noBackslash : character ≠ '\\')
    (rest : List Char) :
    readBasic? (character :: rest) =
      push? (some character) (readBasic? rest) := by
  have text : isText character = true := (isText_iff character).2 (.inl plain)
  rw [readBasic?, if_pos (by simp [text, noBackslash])]
  all_goals
    intros
    contradiction

/-- A written character is read back. -/
theorem readBasic?_writeChar
    {character : Char}
    (noQuote : character ≠ '"')
    (rest : List Char) :
    readBasic? (writeChar character ++ rest) =
      push? (some character) (readBasic? rest) := by
  obtain ⟨letter, escapes, written⟩ | ⟨high, low, point, written⟩ |
    ⟨plain, noBackslash, written⟩ := writeChar_cases character
  · rw [written]
    exact readBasic?_escape escapes rest
  · rw [written, ← point]
    simp [readBasic?]
  · rw [written]
    exact readBasic?_text plain noQuote noBackslash rest

/-- The body of a basic string is read back up to the closing quote. -/
theorem readBasic?_writeBasic (text rest : List Char) :
    readBasic? (writeBasic text ++ '"' :: rest) = some (text, rest) := by
  fun_induction writeBasic text with
  | case1 => rfl
  | case2 text ih =>
      have quote : escape? '"' = some '"' := rfl
      rw [List.cons_append, List.cons_append, readBasic?_escape quote, ih,
        push?_some]
  | case3 character text noQuote ih =>
      rw [List.append_assoc, readBasic?_writeChar (fun quote => noQuote quote),
        ih, push?_some]

/-- The body of a basic string starts with no quote. -/
theorem head?_writeBasic (text : List Char) :
    (writeBasic text).head? ≠ some '"' := by
  fun_cases writeBasic text with
  | case1 => simp
  | case2 text => simp
  | case3 character text noQuote =>
      obtain backslash | ⟨-, same⟩ :=
        head?_writeChar character (writeBasic text)
      · simp [backslash]
      · simpa [same] using noQuote

/-! ## Basic strings over several lines -/

/-- A letter after a backslash stands for its character. -/
theorem readLongBasicFrom?_escape
    {letter character : Char}
    (escapes : escape? letter = some character)
    (rest : List Char) :
    readLongBasicFrom? false ('\\' :: letter :: rest) =
      push? (some character) (readLongBasicFrom? false rest) := by
  have other := ne_of_escape? escapes
  have notShort : letter ≠ 'u' := other 'u' (by decide)
  have notLong : letter ≠ 'U' := other 'U' (by decide)
  have noSpace : isSpace letter = false := by
    simp [isSpace, other ' ' (by decide), other '\t' (by decide)]
  have goesOn : endsLine (letter :: rest) = false := by
    rw [endsLine, skipSpaces, List.dropWhile_cons_of_neg (by simp [noSpace]),
      readLineFeed?_eq_none (by simpa using other '\n' (by decide))
        (by simpa using other '\r' (by decide)), Option.isSome_none]
  rw [readLongBasicFrom?, escapes, goesOn, if_neg (by decide)]
  all_goals
    intros
    contradiction

/-- A character of a text that needs no escape is read as it is. -/
theorem readLongBasicFrom?_text
    {character : Char}
    (plain : isControl character = false)
    (noQuote : character ≠ '"')
    (noBackslash : character ≠ '\\')
    (rest : List Char) :
    readLongBasicFrom? false (character :: rest) =
      push? (some character) (readLongBasicFrom? false rest) := by
  have text : isText character = true := (isText_iff character).2 (.inl plain)
  have noReturn : character ≠ '\r' := by rintro rfl; simp [isControl] at plain
  have noLineFeed : character ≠ '\n' := by rintro rfl; simp [isControl] at plain
  rw [readLongBasicFrom?, if_neg (by simp),
    if_pos (by simp [text, noBackslash])]
  all_goals
    intros
    contradiction

/-- A quote that no two more quotes follow belongs to the text. -/
theorem readLongBasicFrom?_quote
    {rest : List Char}
    (alone : ¬ ['"', '"'] <+: rest) :
    readLongBasicFrom? false ('"' :: rest) =
      push? (some '"') (readLongBasicFrom? false rest) := by
  have text : isText '"' = true := rfl
  rw [readLongBasicFrom?]
  case x_2 => rintro after - rfl; simp at alone
  case x_3 => rintro after - rfl; simp at alone
  case x_4 => rintro after - rfl; simp at alone
  all_goals simp [text]

/-- A line feed belongs to the text. -/
theorem readLongBasicFrom?_lineFeed (rest : List Char) :
    readLongBasicFrom? false ('\n' :: rest) =
      push? (some '\n') (readLongBasicFrom? false rest) := by
  simp [readLongBasicFrom?]

/-- A written character is read back. -/
theorem readLongBasicFrom?_writeChar
    {character : Char}
    (noQuote : character ≠ '"')
    (rest : List Char) :
    readLongBasicFrom? false (writeChar character ++ rest) =
      push? (some character) (readLongBasicFrom? false rest) := by
  obtain ⟨letter, escapes, written⟩ | ⟨high, low, point, written⟩ |
    ⟨plain, noBackslash, written⟩ := writeChar_cases character
  · rw [written]
    exact readLongBasicFrom?_escape escapes rest
  · rw [written, ← point]
    simp [readLongBasicFrom?]
  · rw [written]
    exact readLongBasicFrom?_text plain noQuote noBackslash rest

/-- At the end of the text, the last three quotes close the string. -/
theorem readLongBasicFrom?_close
    {rest : List Char}
    (ends : rest.head? ≠ some '"') :
    readLongBasicFrom? false ('"' :: '"' :: '"' :: rest) = some ([], rest) ∧
      readLongBasicFrom? false ('"' :: '"' :: '"' :: '"' :: rest) =
        some (['"'], rest) := by
  constructor <;> rw [readLongBasicFrom?] <;> rintro after rfl <;> simp at ends

/-- A text is written from a backslash on, or from its first character on. This
is a line feed or no control character, and no quote after two quotes. -/
theorem head?_writeLongBasic
    (quotes : Nat)
    (first : Char)
    (text rest : List Char) :
    (writeLongBasic quotes (first :: text) ++ rest).head? = some '\\' ∨
      (writeLongBasic quotes (first :: text) ++ rest).head? = some first ∧
        (isControl first = false ∨ first = '\n') ∧
        (first = '"' → quotes ≠ 2) := by
  by_cases quote : first = '"'
  · rw [quote, writeLongBasic]
    split_ifs with full
    · exact .inl rfl
    · exact .inr ⟨rfl, .inl rfl, fun _ => full⟩
  by_cases lineFeed : first = '\n'
  · rw [lineFeed]
    exact .inr ⟨rfl, .inr rfl, by simp⟩
  have written : writeLongBasic quotes (first :: text) =
      writeChar first ++ writeLongBasic 0 text := by
    rw [writeLongBasic] <;> assumption
  rw [written, List.append_assoc]
  obtain backslash | ⟨plain, same⟩ := head?_writeChar first _
  · exact .inl backslash
  · exact .inr ⟨same, .inl plain, fun isQuote => absurd isQuote quote⟩

/-- Where one or two quotes were written before, no two follow, except for the
last two quotes of a text. -/
theorem not_quotes_prefix_writeLongBasic
    (quotes : Nat)
    {text : List Char}
    (few : quotes = 1 ∨ quotes = 2)
    (more : text ≠ [])
    (noPair : quotes = 1 → text ≠ ['"'])
    (rest : List Char) :
    ¬ ['"', '"'] <+: writeLongBasic quotes text ++ rest := by
  obtain ⟨first, after, rfl⟩ := List.exists_cons_of_ne_nil more
  rintro ⟨tail, both⟩
  have head : (writeLongBasic quotes (first :: after) ++ rest).head? =
      some '"' := by rw [← both]; rfl
  -- The first quote of two is the first character of the text, after one quote.
  obtain backslash | ⟨same, -, room⟩ :=
    head?_writeLongBasic quotes first after rest
  · simp [backslash] at head
  have quote : first = '"' := by simpa [same] using head
  have one : quotes = 1 := by have := room quote; omega
  subst quote one
  -- The second one would be the third in a row.
  have follow : (writeLongBasic 2 after ++ rest).head? = some '"' := by
    rw [writeLongBasic, if_neg (by decide)] at both
    have remaining := (List.cons.inj both).2
    exact congrArg List.head? remaining.symm
  obtain ⟨second, others, rfl⟩ := List.exists_cons_of_ne_nil
    (l := after) (by rintro rfl; exact noPair rfl rfl)
  obtain backslash | ⟨same, -, room⟩ :=
    head?_writeLongBasic 2 second others rest
  · simp [backslash] at follow
  · have quote : second = '"' := by simpa [same] using follow
    exact room quote rfl

/-- The body of a basic string that may span lines is read back up to the
closing quotes. -/
theorem readLongBasicFrom?_writeLongBasic
    (quotes : Nat)
    (text : List Char)
    {rest : List Char}
    (few : quotes ≤ 2)
    (ends : rest.head? ≠ some '"') :
    readLongBasicFrom? false
      (writeLongBasic quotes text ++ '"' :: '"' :: '"' :: rest) =
        some (text, rest) := by
  fun_induction writeLongBasic quotes text with
  | case1 quotes => exact (readLongBasicFrom?_close ends).1
  | case2 text ih =>
      have quote : escape? '"' = some '"' := rfl
      rw [List.cons_append, List.cons_append, readLongBasicFrom?_escape quote,
        ih (by omega), push?_some]
  | case3 quotes text room ih =>
      -- The last one or two quotes are read together with the closing ones.
      by_cases last : text = []
      · rw [last]
        exact (readLongBasicFrom?_close ends).2
      · by_cases pair : quotes = 0 ∧ text = ['"']
        · rw [pair.1, pair.2]
          rfl
        · have alone := not_quotes_prefix_writeLongBasic (quotes + 1)
            (by omega) last (fun one same => pair ⟨by omega, same⟩)
            ('"' :: '"' :: '"' :: rest)
          rw [List.cons_append, readLongBasicFrom?_quote alone, ih (by omega),
            push?_some]
  | case4 quotes text ih =>
      rw [List.cons_append, readLongBasicFrom?_lineFeed, ih (by omega),
        push?_some]
  | case5 quotes character text noQuote noLineFeed ih =>
      rw [List.append_assoc,
        readLongBasicFrom?_writeChar (fun quote => noQuote quote),
        ih (by omega), push?_some]

/-! ## Literal strings -/

/-- A text without apostrophes and control characters is read up to the closing
apostrophe. -/
theorem readLiteral?_text
    {text : List Char}
    (plain : ∀ character ∈ text, isText character = true)
    (clean : '\'' ∉ text)
    (rest : List Char) :
    readLiteral? (text ++ '\'' :: rest) = some (text, rest) := by
  induction text with
  | nil => rfl
  | cons character text ih =>
      have noQuote : character ≠ '\'' :=
        fun same => clean (same ▸ List.mem_cons_self)
      rw [List.cons_append, readLiteral?, if_pos (plain _ List.mem_cons_self),
        ih (fun other member => plain other (List.mem_cons_of_mem _ member))
          (fun member => clean (List.mem_cons_of_mem _ member)), push?_some]
      exact noQuote

/-- An apostrophe that no two more follow belongs to the text, and so does a
character other than an apostrophe. -/
theorem readLongLiteralFrom?_text
    {character : Char}
    {rest : List Char}
    (plain : isText character = true ∨ character = '\n')
    (alone : character = '\'' → ¬ ['\'', '\''] <+: rest) :
    readLongLiteralFrom? (character :: rest) =
      push? (some character) (readLongLiteralFrom? rest) := by
  have noReturn : character ≠ '\r' := by
    rintro rfl
    simp [isText] at plain
  rw [readLongLiteralFrom?, if_pos (by simpa using plain)]
  case x_1 => rintro after rfl rfl; exact alone rfl ⟨_, rfl⟩
  case x_2 => rintro after rfl rfl; exact alone rfl ⟨_, rfl⟩
  case x_3 => rintro after rfl rfl; exact alone rfl ⟨_, rfl⟩
  case x_4 => intro after isReturn; exact absurd isReturn noReturn

/-- At the end of the text, the last three apostrophes close the string. -/
theorem readLongLiteralFrom?_close
    {rest : List Char}
    (ends : rest.head? ≠ some '\'') :
    readLongLiteralFrom? ('\'' :: '\'' :: '\'' :: rest) = some ([], rest) ∧
      readLongLiteralFrom? ('\'' :: '\'' :: '\'' :: '\'' :: rest) =
        some (['\''], rest) := by
  constructor <;> rw [readLongLiteralFrom?] <;> rintro after rfl <;>
    simp at ends

/-- A text without three apostrophes in a row is read up to the closing ones. -/
theorem readLongLiteralFrom?_append
    {text rest : List Char}
    (plain : ∀ character ∈ text, isText character = true ∨ character = '\n')
    (few : ¬ ['\'', '\'', '\''] <:+: text)
    (ends : rest.head? ≠ some '\'') :
    readLongLiteralFrom? (text ++ '\'' :: '\'' :: '\'' :: rest) =
      some (text, rest) := by
  induction text with
  | nil => exact (readLongLiteralFrom?_close ends).1
  | cons character text ih =>
      by_cases last : character = '\'' ∧ text = []
      · rw [last.1, last.2]
        exact (readLongLiteralFrom?_close ends).2
      by_cases pair : character = '\'' ∧ text = ['\'']
      · rw [pair.1, pair.2]
        rfl
      have alone : character = '\'' →
          ¬ ['\'', '\''] <+: text ++ '\'' :: '\'' :: '\'' :: rest := by
        rintro rfl follow
        match text with
        | [] => exact last ⟨rfl, rfl⟩
        | [second] =>
            obtain ⟨rfl, -⟩ := List.cons_prefix_cons.1 follow
            exact pair ⟨rfl, rfl⟩
        | second :: third :: others =>
            obtain ⟨rfl, rfl⟩ : '\'' = second ∧ '\'' = third := by
              simpa [List.cons_prefix_cons] using follow
            exact few ⟨[], others, rfl⟩
      rw [List.cons_append,
        readLongLiteralFrom?_text (plain _ List.mem_cons_self) alone,
        ih (fun other member => plain other (List.mem_cons_of_mem _ member))
          (fun row => few (row.trans (List.infix_cons List.infix_rfl))),
        push?_some]

end Toml
end AssistiveTree
