import AssistiveTree.Proofs.Toml.Quoted

/-!
# Written strings are read back

A string may be written in any form that fits it, and is then read back up to
the end of the line. The form that is chosen always fits.
-/

namespace AssistiveTree
namespace Toml

/-! ## Runs -/

/-- The longest run is as long as the run that the text continues. -/
theorem le_longestRunFrom
    (character : Char)
    (run : Nat)
    (text : List Char) :
    run ≤ longestRunFrom character run text := by
  fun_induction longestRunFrom character run text with
  | case1 => exact le_rfl
  | case2 run text ih => omega
  | case3 run first text other ih => exact Nat.le_max_left _ _

/-- A run at the front of the text continues the run before it. -/
theorem longestRunFrom_replicate
    (character : Char)
    (run count : Nat)
    (text : List Char) :
    longestRunFrom character run (List.replicate count character ++ text) =
      longestRunFrom character (run + count) text := by
  induction count generalizing run with
  | zero => rfl
  | succ count ih =>
      rw [List.replicate_succ, List.cons_append, longestRunFrom, if_pos rfl, ih]
      congr 1
      omega

/-- A longer run before the text makes the longest run no shorter. -/
theorem longestRunFrom_mono
    {character : Char}
    {run more : Nat}
    (le : run ≤ more)
    (text : List Char) :
    longestRunFrom character run text ≤ longestRunFrom character more text := by
  induction text generalizing run more with
  | nil => exact le
  | cons first text ih =>
      rw [longestRunFrom, longestRunFrom]
      split_ifs
      · exact ih (by omega)
      · omega

/-- More text in front makes the longest run no shorter. -/
theorem longestRun_le_append
    (character : Char)
    (run : Nat)
    (before text : List Char) :
    longestRun character text ≤
      longestRunFrom character run (before ++ text) := by
  induction before generalizing run with
  | nil => exact longestRunFrom_mono (Nat.zero_le run) text
  | cons first before ih =>
      rw [List.cons_append, longestRunFrom]
      split_ifs
      · exact ih _
      · exact Nat.le_trans (ih 0) (Nat.le_max_right _ _)

/-- A run of a character is no longer than the longest one. -/
theorem le_longestRun
    {character : Char}
    {count : Nat}
    {text : List Char}
    (row : List.replicate count character <:+: text) :
    count ≤ longestRun character text := by
  obtain ⟨before, after, rfl⟩ := row
  rw [List.append_assoc]
  calc
    count ≤ 0 + count := by omega
    _ ≤ longestRunFrom character (0 + count) after := le_longestRunFrom ..
    _ = longestRun character (List.replicate count character ++ after) :=
      (longestRunFrom_replicate ..).symm
    _ ≤ longestRun character
          (before ++ (List.replicate count character ++ after)) :=
      longestRun_le_append ..

/-! ## Forms -/

/-- Whether a string can be written in a form. The basic forms have escapes for
what a literal string cannot hold. -/
def StringForm.Fits (text : List Char) : StringForm → Prop
  | .basic => True
  | .literal => (∀ character ∈ text, isText character = true) ∧ '\'' ∉ text
  | .longBasic => True
  | .longLiteral =>
      (∀ character ∈ text, isText character = true ∨ character = '\n') ∧
        ¬ ['\'', '\'', '\''] <:+: text

/-- The form that is chosen for a string fits it. -/
theorem StringForm.of_fits (text : List Char) :
    (StringForm.of text).Fits text := by
  unfold StringForm.of
  extract_lets controls backslash lines quotes apostrophes
  have text_of_controls :
      controls = false → ∀ character ∈ text,
        isText character = true ∨ character = '\n' := by
    intro none character member
    have shown := List.any_eq_false.1 none character member
    simp only [Bool.and_eq_true, decide_eq_true_eq, not_and, not_not] at shown
    rw [isText_iff]
    by_cases control : isControl character = true
    · by_cases tab : character = '\t'
      · exact .inl (.inr tab)
      · exact .inr (shown ⟨control, tab⟩)
    · exact .inl (.inl (by simpa using control))
  split_ifs with basic literal longBasic longLiteral hasLines
  · trivial
  · simp only [Bool.and_eq_true, Bool.not_eq_true', decide_eq_true_eq]
      at literal
    obtain ⟨⟨noControls, noApostrophes⟩, noLines⟩ := literal
    constructor
    · intro character member
      have noLineFeed : character ≠ '\n' := by
        simpa using List.any_eq_false.1 noLines character member
      exact (text_of_controls noControls character member).resolve_right
        noLineFeed
    · intro member
      obtain ⟨before, after, split⟩ := List.append_of_mem member
      have row : List.replicate 1 '\'' <:+: text :=
        ⟨before, after, by simp [split]⟩
      have long : 1 ≤ longestRun '\'' text := le_longestRun row
      omega
  · trivial
  · simp only [Bool.and_eq_true, Bool.not_eq_true', decide_eq_true_eq]
      at longLiteral
    refine ⟨text_of_controls longLiteral.1, fun row => ?_⟩
    have long : 3 ≤ longestRun '\'' text := le_longestRun row
    omega
  · trivial
  · trivial

/-! ## Opening quotes -/

/-- The line feed after the opening quotes is dropped again. -/
theorem dropLineFeed_openingLineFeed
    {text body : List Char}
    (lineFeed : body.head? = some '\n' → '\n' ∈ text)
    (noReturn : body.head? ≠ some '\r') :
    dropLineFeed (openingLineFeed text ++ body) = body := by
  unfold openingLineFeed
  split_ifs with lines
  · rfl
  · have noLineFeed : body.head? ≠ some '\n' := by
      intro starts
      simp [lineFeed starts] at lines
    rw [List.nil_append, dropLineFeed,
      readLineFeed?_eq_none noLineFeed noReturn, Option.getD_none]

/-- A body that does not start with the quote that closes it has no two quotes
at its front, even if it is empty. -/
theorem not_quotes_prefix_append
    {quote : Char}
    {body : List Char}
    (starts : body.head? ≠ some quote)
    (isQuote : quote ≠ '\n')
    (rest : List Char) :
    ¬ [quote, quote] <+: body ++ quote :: '\n' :: rest := by
  intro follow
  cases body with
  | nil =>
      have lineFeed : quote = '\n' := by
        simpa [List.cons_prefix_cons] using follow
      exact isQuote lineFeed
  | cons first body =>
      have first_eq : quote = first := (List.cons_prefix_cons.1 follow).1
      exact starts (by rw [first_eq, List.head?_cons])

/-- One quote opens a basic string on one line. -/
theorem readString?_basic
    {body : List Char}
    (single : ¬ ['"', '"'] <+: body) :
    readString? ('"' :: body) =
      (readBasic? body).map fun read => (String.ofList read.1, read.2) := by
  unfold readString?
  split
  · next after same =>
      obtain ⟨-, rfl⟩ := List.cons.inj same
      exact absurd ⟨after, rfl⟩ single
  · next same =>
      obtain ⟨-, rfl⟩ := List.cons.inj same
      rfl
  · next same => exact absurd (List.cons.inj same).1 (by decide)
  · next same => exact absurd (List.cons.inj same).1 (by decide)
  · next other _ _ => exact absurd rfl (other body)

/-- One apostrophe opens a literal string on one line. -/
theorem readString?_literal
    {body : List Char}
    (single : ¬ ['\'', '\''] <+: body) :
    readString? ('\'' :: body) =
      (readLiteral? body).map fun read => (String.ofList read.1, read.2) := by
  unfold readString?
  split
  · next same => exact absurd (List.cons.inj same).1 (by decide)
  · next same => exact absurd (List.cons.inj same).1 (by decide)
  · next after same =>
      obtain ⟨-, rfl⟩ := List.cons.inj same
      exact absurd ⟨after, rfl⟩ single
  · next same =>
      obtain ⟨-, rfl⟩ := List.cons.inj same
      rfl
  · next other => exact absurd rfl (other body)

/-- A basic string that may span lines is read back from its opening quotes
on. -/
theorem readLongBasic?_write
    (text rest : List Char)
    (ends : rest.head? ≠ some '"') :
    readLongBasic? (openingLineFeed text ++
      (writeLongBasic 0 text ++ '"' :: '"' :: '"' :: rest)) =
        some (text, rest) := by
  have dropped : dropLineFeed (openingLineFeed text ++
      (writeLongBasic 0 text ++ '"' :: '"' :: '"' :: rest)) =
      writeLongBasic 0 text ++ '"' :: '"' :: '"' :: rest := by
    cases text with
    | nil => rfl
    | cons first text =>
        obtain backslash | ⟨same, plain, -⟩ := head?_writeLongBasic 0 first text
          ('"' :: '"' :: '"' :: rest)
        · exact dropLineFeed_openingLineFeed (by simp [backslash])
            (by simp [backslash])
        · refine dropLineFeed_openingLineFeed (by simp_all) ?_
          rw [same]
          rintro isReturn
          obtain rfl := Option.some.inj isReturn
          exact absurd plain (by decide)
  rw [readLongBasic?, dropped,
    readLongBasicFrom?_writeLongBasic 0 text (by decide) ends]

/-- A literal string that may span lines is read back from its opening
apostrophes on. -/
theorem readLongLiteral?_write
    {text : List Char}
    (fits : StringForm.longLiteral.Fits text)
    (rest : List Char)
    (ends : rest.head? ≠ some '\'') :
    readLongLiteral? (openingLineFeed text ++
      (text ++ '\'' :: '\'' :: '\'' :: rest)) = some (text, rest) := by
  have dropped : dropLineFeed (openingLineFeed text ++
      (text ++ '\'' :: '\'' :: '\'' :: rest)) =
      text ++ '\'' :: '\'' :: '\'' :: rest := by
    cases text with
    | nil => rfl
    | cons first text =>
        refine dropLineFeed_openingLineFeed (by simp_all) ?_
        rintro isReturn
        obtain rfl : first = '\r' := by simpa using isReturn
        exact absurd (fits.1 _ List.mem_cons_self) (by decide)
  rw [readLongLiteral?, dropped, readLongLiteralFrom?_append fits.1 fits.2 ends]

/-- A string that is written in a form that fits it is read back up to the end
of the line. -/
theorem readString?_write
    {text : List Char}
    {form : StringForm}
    (fits : form.Fits text)
    (rest : List Char) :
    readString? (form.write text ++ '\n' :: rest) =
      some (String.ofList text, '\n' :: rest) := by
  cases form with
  | basic =>
      have single := not_quotes_prefix_append (head?_writeBasic text)
        (by decide) rest
      have read := readBasic?_writeBasic text ('\n' :: rest)
      simp [StringForm.write, readString?_basic single, read]
  | literal =>
      have starts : text.head? ≠ some '\'' :=
        fun starts => fits.2 (List.mem_of_head? starts)
      have single := not_quotes_prefix_append starts (by decide) rest
      have read := readLiteral?_text fits.1 fits.2 ('\n' :: rest)
      simp [StringForm.write, readString?_literal single, read]
  | longBasic =>
      have read := readLongBasic?_write text ('\n' :: rest) (by simp)
      simp [StringForm.write, readString?, read]
  | longLiteral =>
      have read := readLongLiteral?_write fits ('\n' :: rest) (by simp)
      simp [StringForm.write, readString?, read]

/-- A written string is read back up to the end of the line. -/
theorem readString?_writeString (text rest : List Char) :
    readString? (writeString text ++ '\n' :: rest) =
      some (String.ofList text, '\n' :: rest) :=
  readString?_write (StringForm.of_fits text) rest

end Toml
end AssistiveTree
