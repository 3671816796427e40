/-
This file shows that the text of a token is cut out again wherever the text behind it stands apart.
-/

import Mathlib.Data.List.Basic
import ScriptFrontend.Lexeme
import ScriptFrontend.Proofs.Tree.Outline

namespace ScriptFrontend

open Text

namespace Lexeme

/-- The token of a lexeme without its place. -/
def outline? (lexeme : Lexeme) : Option Token :=
  lexeme.kind?.map fun kind => ⟨kind, String.ofList lexeme.text, .unknown⟩

/-- The tokens of a text without their places. -/
def outlines (text : List Char) : List Token :=
  (scanFrom 0 text).filterMap outline?

theorem map_outline_token? (file : String) (lexeme : Lexeme) :
    (lexeme.token? file).map Token.outline = lexeme.outline? := by
  rw [token?, Option.map_map]
  rfl

/-- The place where a scan starts does not matter without places. -/
theorem filterMap_outline?_scanFrom (start other : Nat) (text : List Char) :
    (scanFrom start text).filterMap outline? = (scanFrom other text).filterMap outline? := by
  fun_induction scanFrom start text generalizing other with
  | case1 start => simp [scanFrom]
  | case2 start first rest form extent classified text ih =>
    rw [scanFrom, classified]
    dsimp only
    rw [List.filterMap_cons, List.filterMap_cons, ih]
    rfl

@[simp] theorem outlines_nil : outlines [] = [] := by
  simp [outlines, scanFrom]

/-- The first lexeme of a text is cut off, and the rest is scanned in the same way. -/
theorem outlines_cons {first : Char} {rest : List Char} {form : Form} {extent : Nat}
    (classified : classify first rest = (form, extent)) :
    outlines (first :: rest) =
      (outline? ⟨form, first :: rest.take extent, 0⟩).toList ++ outlines (rest.drop extent) := by
  rw [outlines, scanFrom, classified]
  dsimp only
  rw [List.filterMap_cons, outlines, filterMap_outline?_scanFrom _ 0]
  cases outline? ⟨form, first :: rest.take extent, 0⟩ <;> rfl

/-- A text spells a kind of token when it is a text that a pattern of this kind accepts. -/
inductive Spells : Token.Kind → List Char → Prop where
  | word {first : Char} {others : List Char} (start : isWordStart first = true)
      (parts : ∀ c ∈ others, isWordPart c = true) :
      Spells (Token.Kind.ofWord (String.ofList (first :: others))) (first :: others)
  | number {first : Char} {others : List Char} (start : first.isDigit = true)
      (digits : ∀ c ∈ others, c.isDigit = true) : Spells .integer (first :: others)
  | mark {kind : Token.Kind} {first : Char} {others : List Char}
      (listed : .mark kind first others ∈ patterns) : Spells kind (first :: others)

theorem take_length_takeWhile (condition : Char → Bool) (text : List Char) :
    text.take (text.takeWhile condition).length = text.takeWhile condition :=
  (List.prefix_iff_eq_take.1 (List.takeWhile_prefix condition)).symm

theorem drop_length_takeWhile (condition : Char → Bool) (text : List Char) :
    text.drop (text.takeWhile condition).length = text.dropWhile condition :=
  calc text.drop (text.takeWhile condition).length
    _ = (text.takeWhile condition ++ text.dropWhile condition).drop
        (text.takeWhile condition).length := by rw [List.takeWhile_append_dropWhile]
    _ = text.dropWhile condition := List.drop_left

/-- Texts are classified alike when every pattern accepts as much of the one as of the other. -/
theorem classify_congr {first : Char} {rest other : List Char}
    (same : ∀ pattern ∈ patterns, pattern.extent? first rest = pattern.extent? first other) :
    classify first rest = classify first other := by
  have found : ∀ pattern ∈ patterns,
      ((pattern.extent? first rest).map fun extent => (pattern.form, extent)) =
        (pattern.extent? first other).map fun extent => (pattern.form, extent) := by
    intro pattern listed
    rw [same pattern listed]
  rw [classify, classify, ← List.head?_filterMap, ← List.head?_filterMap, List.filterMap_congr found]

/-- A lexeme that is not illegal is of the form and the extent of a pattern. -/
theorem accepted_of_classify {first : Char} {rest : List Char} {form : Form} {extent : Nat}
    (classified : classify first rest = (form, extent)) :
    form = .illegal ∧ extent = 0 ∨
      ∃ pattern ∈ patterns, pattern.form = form ∧ pattern.extent? first rest = some extent := by
  rw [classify] at classified
  cases found : patterns.findSome? fun pattern =>
      (pattern.extent? first rest).map fun extent => (pattern.form, extent) with
  | none =>
    rw [found] at classified
    cases classified
    exact .inl ⟨rfl, rfl⟩
  | some pair =>
    rw [found] at classified
    obtain rfl : pair = (form, extent) := classified
    obtain ⟨pattern, listed, accepted⟩ := List.exists_of_findSome?_eq_some found
    obtain ⟨length, reach, same⟩ := Option.map_eq_some_iff.1 accepted
    cases same
    exact .inr ⟨pattern, listed, rfl, reach⟩

theorem extent_le_of_classify {first : Char} {rest : List Char} {form : Form} {extent : Nat}
    (classified : classify first rest = (form, extent)) : extent ≤ rest.length := by
  obtain ⟨-, rfl⟩ | ⟨pattern, -, -, reach⟩ := accepted_of_classify classified
  · exact Nat.zero_le _
  · cases pattern with
    | word | number | blank =>
      rw [Pattern.extent?] at reach
      split at reach
      · cases reach
        exact (List.takeWhile_prefix _).length_le
      · cases reach
    | mark kind initial others =>
      rw [Pattern.extent?] at reach
      split at reach
      · next matched =>
        cases reach
        exact (List.isPrefixOf_iff_prefix.1 matched.2).length_le
      · cases reach

/-- Every lexeme but a blank and an illegal character spells its kind. -/
theorem spells_of_classify {first : Char} {rest : List Char} {form : Form} {extent start : Nat}
    {kind : Token.Kind} (classified : classify first rest = (form, extent))
    (known : kind? ⟨form, first :: rest.take extent, start⟩ = some kind)
    (recognised : form ≠ .illegal) : Spells kind (first :: rest.take extent) := by
  obtain ⟨illegal, -⟩ | ⟨pattern, listed, rfl, reach⟩ := accepted_of_classify classified
  · exact absurd illegal recognised
  · cases pattern with
    | word =>
      rw [Pattern.extent?] at reach
      split at reach
      · next start =>
        cases reach
        cases known
        rw [take_length_takeWhile]
        exact .word start (List.all_eq_true.1 List.all_takeWhile)
      · cases reach
    | number =>
      rw [Pattern.extent?] at reach
      split at reach
      · next start =>
        cases reach
        cases known
        rw [take_length_takeWhile]
        exact .number start (List.all_eq_true.1 List.all_takeWhile)
      · cases reach
    | blank => cases known
    | mark kind initial others =>
      rw [Pattern.extent?] at reach
      split at reach
      · next matched =>
        cases reach
        cases known
        obtain ⟨rfl, front⟩ := matched
        rw [← List.prefix_iff_eq_take.1 (List.isPrefixOf_iff_prefix.1 front)]
        exact .mark listed
      · cases reach

theorem spells_of_mem_scanFrom {start : Nat} {text : List Char} {lexeme : Lexeme}
    {kind : Token.Kind} (member : lexeme ∈ scanFrom start text) (known : lexeme.kind? = some kind)
    (recognised : kind ≠ .illegal) : Spells kind lexeme.text := by
  fun_induction scanFrom start text with
  | case1 => cases member
  | case2 start first rest form extent classified text ih =>
    rcases List.mem_cons.1 member with rfl | later
    · apply spells_of_classify classified known
      rintro rfl
      exact recognised (Option.some.inj known).symm
    · exact ih later

/-- A text stands apart when no word, no number and no mark of two characters reaches into it. -/
def Apart (rest : List Char) : Prop :=
  ∀ c ∈ rest.head?, isWordPart c = false ∧ c ≠ '='

theorem apart_nil : Apart [] :=
  nofun

theorem apart_cons {c : Char} (rest : List Char) (noPart : isWordPart c = false) (noSign : c ≠ '=') :
    Apart (c :: rest) := by
  intro other here
  obtain rfl : c = other := Option.some.inj here
  exact ⟨noPart, noSign⟩

theorem takeWhile_append_of_apart {condition : Char → Bool} {others rest : List Char}
    (all : ∀ c ∈ others, condition c = true) (part : ∀ c, condition c = true → isWordPart c = true)
    (apart : Apart rest) : (others ++ rest).takeWhile condition = others := by
  rw [List.takeWhile_append_of_pos all]
  cases rest with
  | nil => simp
  | cons c rest =>
    have stops : ¬ condition c = true := by
      intro goesOn
      have noPart := (apart c rfl).1
      rw [part c goesOn] at noPart
      cases noPart
    simp [stops]

theorem isWordPart_of_isDigit {c : Char} (digit : c.isDigit = true) : isWordPart c = true := by
  simp [isWordPart, Char.isAlphanum, digit]

theorem code_of_isDigit {c : Char} (digit : c.isDigit = true) : 48 ≤ c.toNat ∧ c.toNat ≤ 57 := by
  simp only [Char.isDigit, Bool.and_eq_true, decide_eq_true_eq, ge_iff_le,
    UInt32.le_iff_toNat_le] at digit
  exact digit

theorem code_of_isWordStart {c : Char} (start : isWordStart c = true) :
    65 ≤ c.toNat ∧ c.toNat ≤ 122 := by
  change (decide (65 ≤ c.val ∧ c.val ≤ 90) || (97 ≤ c.val && c.val ≤ 122) || c == '_') = true
    at start
  simp only [Bool.or_eq_true, Bool.and_eq_true, decide_eq_true_eq, beq_iff_eq,
    UInt32.le_iff_toNat_le] at start
  change ((65 ≤ c.toNat ∧ c.toNat ≤ 90) ∨ (97 ≤ c.toNat ∧ c.toNat ≤ 122)) ∨ c = '_' at start
  rcases start with (upper | lower) | rfl
  · omega
  · omega
  · decide

theorem code_of_isBlank {c : Char} (blank : isBlank c = true) :
    c.toNat ≤ 32 ∨ 133 ≤ c.toNat := by
  simp only [isBlank, Bool.or_eq_true, Bool.and_eq_true, decide_eq_true_eq, beq_iff_eq] at blank
  omega

/-- Letters, digits and blanks are different characters. -/
theorem isWordStart_of_isDigit {c : Char} (digit : c.isDigit = true) : isWordStart c = false := by
  have code := code_of_isDigit digit
  refine Bool.eq_false_iff.2 fun start => ?_
  have letter := code_of_isWordStart start
  omega

theorem isWordStart_of_isBlank {c : Char} (blank : isBlank c = true) : isWordStart c = false := by
  have code := code_of_isBlank blank
  refine Bool.eq_false_iff.2 fun start => ?_
  have letter := code_of_isWordStart start
  omega

theorem isDigit_of_isBlank {c : Char} (blank : isBlank c = true) : c.isDigit = false := by
  have code := code_of_isBlank blank
  refine Bool.eq_false_iff.2 fun digit => ?_
  have number := code_of_isDigit digit
  omega

/-- A word takes in all the letters and digits that follow its first letter. -/
theorem classify_letter {first : Char} (rest : List Char) (start : isWordStart first = true) :
    classify first rest = (.word, (rest.takeWhile isWordPart).length) := by
  simp [classify, patterns, Pattern.extent?, start, Pattern.form]

theorem classify_digit {first : Char} (rest : List Char) (digit : first.isDigit = true) :
    classify first rest = (.number, (rest.takeWhile Char.isDigit).length) := by
  simp [classify, patterns, Pattern.extent?, isWordStart_of_isDigit digit, digit, Pattern.form]

theorem classify_word {first : Char} {others rest : List Char} (start : isWordStart first = true)
    (parts : ∀ c ∈ others, isWordPart c = true) (apart : Apart rest) :
    classify first (others ++ rest) = (.word, others.length) := by
  rw [classify_letter _ start, takeWhile_append_of_apart parts (fun _ part => part) apart]

theorem classify_number {first : Char} {others rest : List Char} (start : first.isDigit = true)
    (digits : ∀ c ∈ others, c.isDigit = true) (apart : Apart rest) :
    classify first (others ++ rest) = (.number, others.length) := by
  rw [classify_digit _ start, takeWhile_append_of_apart digits (fun _ => isWordPart_of_isDigit) apart]

theorem classify_blank {c : Char} (rest : List Char) (blank : isBlank c = true) :
    classify c rest = (.blank, (rest.takeWhile isBlank).length) := by
  simp [classify, patterns, Pattern.extent?, isWordStart_of_isBlank blank, isDigit_of_isBlank blank,
    blank, Pattern.form]

/-- A sign of equality glues only onto the marks that have a longer form. -/
theorem classify_mark {kind : Token.Kind} {first : Char} {others rest : List Char}
    (listed : .mark kind first others ∈ patterns) (noSign : ∀ c ∈ rest.head?, c ≠ '=') :
    classify first (others ++ rest) = (.mark kind, others.length) := by
  have alone : ¬ ['='] <+: rest := by
    rintro ⟨others, rfl⟩
    exact noSign '=' rfl rfl
  simp only [patterns, List.mem_cons, List.not_mem_nil, or_false, Pattern.mark.injEq, reduceCtorEq,
    false_or] at listed
  rcases listed with ⟨rfl, rfl, rfl⟩ | ⟨rfl, rfl, rfl⟩ | ⟨rfl, rfl, rfl⟩ | ⟨rfl, rfl, rfl⟩ |
    ⟨rfl, rfl, rfl⟩ | ⟨rfl, rfl, rfl⟩ | ⟨rfl, rfl, rfl⟩ | ⟨rfl, rfl, rfl⟩ | ⟨rfl, rfl, rfl⟩ |
    ⟨rfl, rfl, rfl⟩ | ⟨rfl, rfl, rfl⟩ | ⟨rfl, rfl, rfl⟩ | ⟨rfl, rfl, rfl⟩ | ⟨rfl, rfl, rfl⟩ |
    ⟨rfl, rfl, rfl⟩ | ⟨rfl, rfl, rfl⟩
  all_goals first
    | rfl
    | simp [classify, patterns, Pattern.extent?, isWordStart, isBlank, alone, Pattern.form]

/-- These marks have no longer form, so any text may follow them. -/
theorem classify_plain {kind : Token.Kind} {first : Char} (rest : List Char)
    (listed : .mark kind first [] ∈ patterns) (plain : kind ∉ [.not, .assignment]) :
    classify first rest = (.mark kind, 0) := by
  simp only [patterns, List.mem_cons, List.not_mem_nil, or_false, Pattern.mark.injEq, reduceCtorEq,
    false_or, and_false, and_true] at listed
  rcases listed with ⟨rfl, rfl⟩ | ⟨rfl, rfl⟩ | ⟨rfl, rfl⟩ | ⟨rfl, rfl⟩ | ⟨rfl, rfl⟩ | ⟨rfl, rfl⟩ |
    ⟨rfl, rfl⟩ | ⟨rfl, rfl⟩ | ⟨rfl, rfl⟩ | ⟨rfl, rfl⟩ | ⟨rfl, rfl⟩ | ⟨rfl, rfl⟩ | ⟨rfl, rfl⟩ |
    ⟨rfl, rfl⟩
  all_goals first
    | rfl
    | simp at plain

/-- The text of a token is cut off where the rest stands apart. -/
theorem outlines_append {kind : Token.Kind} {text rest : List Char} (spells : Spells kind text)
    (apart : Apart rest) :
    outlines (text ++ rest) = ⟨kind, String.ofList text, .unknown⟩ :: outlines rest := by
  cases spells with
  | @word first others start parts =>
    rw [List.cons_append, outlines_cons (classify_word start parts apart)]
    simp [outline?, kind?]
  | @number first others start digits =>
    rw [List.cons_append, outlines_cons (classify_number start digits apart)]
    simp [outline?, kind?]
  | @mark kind first others listed =>
    rw [List.cons_append, outlines_cons (classify_mark listed fun c here => (apart c here).2)]
    simp [outline?, kind?]

theorem outlines_append_mark {kind : Token.Kind} {first : Char} {others rest : List Char}
    (listed : .mark kind first others ∈ patterns) (noSign : ∀ c ∈ rest.head?, c ≠ '=') :
    outlines (first :: others ++ rest) =
      ⟨kind, String.ofList (first :: others), .unknown⟩ :: outlines rest := by
  rw [List.cons_append, outlines_cons (classify_mark listed noSign)]
  simp [outline?, kind?]

theorem outlines_plain {kind : Token.Kind} {first : Char} (rest : List Char)
    (listed : .mark kind first [] ∈ patterns) (plain : kind ∉ [.not, .assignment]) :
    outlines (first :: rest) = ⟨kind, String.ofList [first], .unknown⟩ :: outlines rest := by
  rw [outlines_cons (classify_plain rest listed plain)]
  simp [outline?, kind?]

/-- Blanks leave no trace. -/
theorem outlines_blank {c : Char} (rest : List Char) (blank : isBlank c = true) :
    outlines (c :: rest) = outlines rest := by
  have skip {c : Char} (rest : List Char) (blank : isBlank c = true) :
      outlines (c :: rest) = outlines (rest.dropWhile isBlank) := by
    rw [outlines_cons (classify_blank rest blank), drop_length_takeWhile]
    rfl
  rw [skip rest blank]
  cases rest with
  | nil => rfl
  | cons next rest =>
    by_cases again : isBlank next = true
    · rw [List.dropWhile_cons_of_pos again, skip rest again]
    · rw [List.dropWhile_cons_of_neg again]

end Lexeme

end ScriptFrontend
