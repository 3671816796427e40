/-
This file shows that the blanks between the words of a script do not change its tokens.
-/

import ScriptFrontend.Proofs.Lexeme.Tiling

namespace ScriptFrontend

open Text

namespace Lexeme

theorem outlines_append_blank {gap : List Char} (blank : ∀ c ∈ gap, isBlank c = true)
    (rest : List Char) : outlines (gap ++ rest) = outlines rest := by
  induction gap with
  | nil => rfl
  | cons c gap ih =>
    obtain ⟨first, others⟩ := List.forall_mem_cons.1 blank
    rw [List.cons_append, outlines_blank _ first, ih others]

/-- Blanks stand apart from every token. -/
theorem apart_of_blank {gap : List Char} (blank : ∀ c ∈ gap, isBlank c = true) : Apart gap := by
  intro c here
  have white := blank c (List.mem_of_mem_head? here)
  constructor
  · refine Bool.eq_false_iff.2 fun part => ?_
    rw [isBlank_eq_false_of_isWordPart part] at white
    cases white
  · rintro rfl
    exact absurd white (by decide)

theorem Apart.append {text : List Char} (apart : Apart text) (nonempty : text ≠ [])
    (rest : List Char) : Apart (text ++ rest) := by
  obtain ⟨c, others, rfl⟩ := List.exists_cons_of_ne_nil nonempty
  exact apart

/-- Every mark has a form of one character, or another mark has it. -/
theorem alone_patterns : ∀ pattern ∈ patterns,
    (match pattern with
    | .mark _ first _ => patterns.any fun
      | .mark _ initial others => initial == first && others.isEmpty
      | _ => false
    | _ => true) = true := by
  decide

/-- Whether any pattern accepts a text depends on its first character only. -/
theorem refuses_of_refuses {first : Char} {rest : List Char}
    (refuses : ∀ pattern ∈ patterns, pattern.extent? first rest = none) (other : List Char) :
    ∀ pattern ∈ patterns, pattern.extent? first other = none := by
  intro pattern listed
  have refused := refuses pattern listed
  cases pattern with
  | word | number | blank => simpa [Pattern.extent?] using refused
  | mark kind initial others =>
    obtain ⟨single, alone, shape⟩ := List.any_eq_true.1 (alone_patterns _ listed)
    have refusedAlone := refuses single alone
    cases single with
    | word | number | blank => cases shape
    | mark kindAlone initialAlone othersAlone =>
      obtain ⟨same, nothing⟩ : initialAlone = initial ∧ othersAlone = [] := by simpa using shape
      subst same nothing
      have differs : first ≠ initialAlone := by simpa [Pattern.extent?] using refusedAlone
      rw [Pattern.extent?, if_neg fun matched => differs matched.1]

theorem refuses_of_illegal {first : Char} {rest : List Char} {extent : Nat}
    (classified : classify first rest = (.illegal, extent)) :
    ∀ pattern ∈ patterns, pattern.extent? first rest = none := by
  rw [classify] at classified
  cases found : patterns.findSome? fun pattern =>
      (pattern.extent? first rest).map fun extent => (pattern.form, extent) with
  | none =>
    intro pattern listed
    exact Option.map_eq_none_iff.1 (List.findSome?_eq_none_iff.1 found pattern listed)
  | some pair =>
    rw [found] at classified
    obtain ⟨pattern, -, accepted⟩ := List.exists_of_findSome?_eq_some found
    obtain ⟨length, -, same⟩ := Option.map_eq_some_iff.1 accepted
    rw [← same] at classified
    cases pattern <;> cases classified

/-- An illegal character is illegal in front of any text. -/
theorem classify_illegal {first : Char} {rest : List Char} {extent : Nat}
    (classified : classify first rest = (.illegal, extent)) (other : List Char) :
    classify first other = (.illegal, 0) := by
  have refuses := refuses_of_refuses (refuses_of_illegal classified) other
  rw [classify, List.findSome?_eq_none_iff.2 fun pattern listed =>
    Option.map_eq_none_iff.2 (refuses pattern listed)]
  rfl

/-- A lexeme that is a token is cut off again wherever the rest stands apart. -/
theorem outlines_append_of_mem_scanFrom {start : Nat} {text : List Char} {lexeme : Lexeme}
    {token : Token} (member : lexeme ∈ scanFrom start text) (known : lexeme.outline? = some token)
    {rest : List Char} (apart : Apart rest) :
    outlines (lexeme.text ++ rest) = token :: outlines rest := by
  fun_induction scanFrom start text with
  | case1 => cases member
  | case2 start first others form extent classified text ih =>
    obtain rfl | later := List.mem_cons.1 member
    · obtain ⟨kind, found, rfl⟩ := Option.map_eq_some_iff.1 known
      by_cases illegal : form = .illegal
      · subst illegal
        obtain rfl := extent_eq_zero_of_illegal classified
        obtain rfl := Option.some.inj found
        change outlines (first :: rest) = _
        rw [outlines_cons (classify_illegal classified rest)]
        rfl
      · exact outlines_append (spells_of_classify classified found illegal) apart
    · exact ih later

end Lexeme

/-- A layout has blanks to write in front of some words, between any two of them and behind. -/
structure Layout where
  lead : List Char
  gap : Nat → List Char
  trail : List Char
  lead_blank : ∀ c ∈ lead, isBlank c = true
  gap_blank : ∀ index, ∀ c ∈ gap index, isBlank c = true
  gap_ne_nil : ∀ index, gap index ≠ []
  trail_blank : ∀ c ∈ trail, isBlank c = true

namespace Layout

/-- The words are written with the gaps from an index on between them, and the trail at the end. -/
def writeFrom (layout : Layout) (index : Nat) : List String → List Char
  | [] => layout.trail
  | [word] => word.toList ++ layout.trail
  | word :: next :: words =>
    word.toList ++ (layout.gap index ++ layout.writeFrom (index + 1) (next :: words))

def write (layout : Layout) (words : List String) : String :=
  String.ofList (layout.lead ++ layout.writeFrom 0 words)

/-- There is one space between any two words. -/
instance : Inhabited Layout where
  default := {
    lead := []
    gap _ := [' ']
    trail := []
    lead_blank := List.forall_mem_nil _
    gap_blank _ := List.forall_mem_singleton.2 rfl
    gap_ne_nil _ := List.cons_ne_nil _ _
    trail_blank := List.forall_mem_nil _ }

theorem outlines_writeFrom (layout : Layout) {tokens : List Token}
    (cut : ∀ token ∈ tokens, ∀ rest, Lexeme.Apart rest →
      Lexeme.outlines (token.text.toList ++ rest) = token.outline :: Lexeme.outlines rest)
    (index : Nat) :
    Lexeme.outlines (layout.writeFrom index (tokens.map Token.text)) = tokens.map Token.outline := by
  have ending : Lexeme.outlines layout.trail = [] := by
    have dropped := Lexeme.outlines_append_blank layout.trail_blank []
    rwa [List.append_nil, Lexeme.outlines_nil] at dropped
  induction tokens generalizing index with
  | nil => exact ending
  | cons token others ih =>
    obtain ⟨first, later⟩ := List.forall_mem_cons.1 cut
    cases others with
    | nil =>
      change Lexeme.outlines (token.text.toList ++ layout.trail) = [token.outline]
      rw [first _ (Lexeme.apart_of_blank layout.trail_blank), ending]
    | cons next others =>
      have apart := (Lexeme.apart_of_blank (layout.gap_blank index)).append
        (layout.gap_ne_nil index)
      change Lexeme.outlines (token.text.toList ++ (layout.gap index ++
        layout.writeFrom (index + 1) ((next :: others).map Token.text))) = _
      rw [first _ (apart _), Lexeme.outlines_append_blank (layout.gap_blank index), ih later]
      rfl

end Layout

theorem map_outline_tokenize (source file : String) :
    (tokenize source file).map Token.outline =
      Lexeme.outlines source.toList ++ [Token.endAt .unknown] := by
  rw [tokenize, List.map_append, ← beforeEnd_tokenize, map_outline_beforeEnd]
  rfl

/-- The words of a script in any layout are cut into the same tokens, but for their places. -/
theorem map_outline_tokenize_write (source file other : String) (layout : Layout) :
    (tokenize (layout.write ((beforeEnd (tokenize source file)).map Token.text)) other).map
        Token.outline =
      (tokenize source file).map Token.outline := by
  have cut : ∀ token ∈ beforeEnd (tokenize source file), ∀ rest, Lexeme.Apart rest →
      Lexeme.outlines (token.text.toList ++ rest) = token.outline :: Lexeme.outlines rest := by
    intro token member rest apart
    rw [beforeEnd_tokenize] at member
    obtain ⟨lexeme, scanned, known⟩ := List.mem_filterMap.1 member
    obtain ⟨kind, found, rfl⟩ := Option.map_eq_some_iff.1 known
    have outlined : lexeme.outline? = some ⟨kind, String.ofList lexeme.text, .unknown⟩ := by
      rw [Lexeme.outline?, found]
      rfl
    rw [String.toList_ofList]
    exact Lexeme.outlines_append_of_mem_scanFrom scanned outlined apart
  rw [map_outline_tokenize, map_outline_tokenize, Layout.write, String.toList_ofList,
    Lexeme.outlines_append_blank layout.lead_blank, layout.outlines_writeFrom cut,
    map_outline_beforeEnd]

example : (default : Layout).write ["let", "é", "==", "1"] = "let é == 1" := by decide

end ScriptFrontend
