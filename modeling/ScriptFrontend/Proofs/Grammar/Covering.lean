/-
This file shows which closing braces have a partner in front of them.
-/

import ScriptFrontend.Proofs.Grammar.Derivation
import ScriptFrontend.Proofs.Grammar.Sealing

namespace ScriptFrontend

/-- Tokens are covered when none of their prefixes closes more braces than it opens. -/
def Covered (tokens : List Token) : Prop :=
  ∀ front, front <+: tokens →
    Token.countKind .closeCurly front ≤ Token.countKind .openCurly front

namespace Covered

variable {tokens first second inside : List Token} {opening closing : Token}

theorem of_absent (absent : ∀ token ∈ tokens, token.kind ≠ .closeCurly) : Covered tokens := by
  intro front begins
  rw [Token.countKind_eq_zero fun token member => absent token (begins.subset member)]
  exact Nat.zero_le _

theorem nil : Covered [] :=
  of_absent (List.forall_mem_nil _)

theorem append (left : Covered first) (right : Covered second) : Covered (first ++ second) := by
  intro front begins
  obtain within | beyond := List.prefix_or_prefix_of_prefix begins (List.prefix_append first second)
  · exact left front within
  · obtain ⟨part, rfl⟩ := beyond
    have whole := left first (List.prefix_refl first)
    have more := right part ((List.prefix_append_right_inj first).1 begins)
    rw [Token.countKind_append, Token.countKind_append]
    omega

/-- A closing brace is covered by an opening brace in front. -/
theorem braces (opens : opening.kind = .openCurly) (covered : Covered inside) :
    Covered (opening :: (inside ++ [closing])) := by
  intro front begins
  obtain rfl | ⟨part, rfl, within⟩ := List.prefix_cons_iff.1 begins
  · exact Nat.le_refl _
  · have first : opening.kind ≠ .closeCurly := by
      rw [opens]
      decide
    rw [Token.countKind_cons, Token.countKind_cons, if_pos opens, if_neg first]
    obtain rfl | inner := List.prefix_concat_iff.1 within
    · have whole := covered inside (List.prefix_refl inside)
      have last : Token.countKind .closeCurly [closing] ≤ 1 := List.countP_le_length
      rw [Token.countKind_append, Token.countKind_append]
      omega
    · have bound := covered part inner
      omega

/-- Covered tokens that stand in front of others do not take in a closing brace without a partner. -/
theorem exists_left {ahead rest : List Token} (covered : Covered tokens)
    (balances : Balances 0 inside) (closes : closing.kind = .closeCurly)
    (split : inside ++ closing :: rest = tokens ++ ahead) :
    ∃ left, inside = tokens ++ left ∧ ahead = left ++ closing :: rest := by
  obtain ⟨left, rfl, same⟩ | ⟨part, rfl, same⟩ := List.append_eq_append_iff.1 split
  · cases left with
    | nil =>
      rw [List.append_nil]
      exact ⟨[], (List.append_nil inside).symm, same.symm⟩
    | cons first others =>
      obtain ⟨rfl, -⟩ := List.cons_eq_cons.1 same
      have bound := covered (inside ++ [closing]) ⟨others, by simp⟩
      have total := balances.total
      rw [Token.countKind_append, Token.countKind_append] at bound
      simp [Token.countKind, closes] at bound total
      omega
  · exact ⟨part, rfl, same⟩

end Covered

/-- Two pairs of brackets have the same shape when they open or when they close alike. -/
theorem Token.Kind.Encloses.alike {opening closing first last : Token.Kind}
    (encloses : opening.Encloses closing) (shape : first.Encloses last) :
    (closing = last ↔ opening = first) ∧ opening ≠ last ∧ first ∈ brackets ∧ last ∈ brackets := by
  cases encloses <;> cases shape <;> decide

namespace Bracketed

variable {tokens : List Token} {first last : Token.Kind}

/-- Tokens with matching brackets close as many brackets of a shape as they open. -/
theorem countKind_eq (shape : first.Encloses last) (bracketed : Bracketed tokens) :
    Token.countKind last tokens = Token.countKind first tokens := by
  obtain ⟨-, -, opens, closes⟩ := shape.alike shape
  induction bracketed with
  | nil => rfl
  | @plain token rest plain _ ih =>
    have other (kind : Token.Kind) (bracket : kind ∈ Token.Kind.brackets) : token.kind ≠ kind :=
      fun same => plain (by rwa [same])
    rw [Token.countKind_cons, Token.countKind_cons, if_neg (other _ opens),
      if_neg (other _ closes), ih]
  | @pair opening closing inside rest encloses _ _ within others =>
    obtain ⟨same, opened, -, -⟩ := encloses.alike shape
    have closed : closing.kind ≠ first := fun wrong => (shape.alike encloses).2.1 wrong.symm
    simp only [Token.countKind_cons, Token.countKind_append, within, others, same, if_neg opened,
      if_neg closed]
    omega

/-- No bracket closes in front of its partner. -/
theorem countKind_le (shape : first.Encloses last) (bracketed : Bracketed tokens) :
    ∀ front, front <+: tokens → Token.countKind last front ≤ Token.countKind first front := by
  obtain ⟨-, -, -, closes⟩ := shape.alike shape
  induction bracketed with
  | nil =>
    intro front begins
    rw [List.prefix_nil.1 begins]
    exact Nat.le_refl _
  | @plain token rest plain _ ih =>
    intro front begins
    obtain rfl | ⟨part, rfl, within⟩ := List.prefix_cons_iff.1 begins
    · exact Nat.le_refl _
    · have other : token.kind ≠ last := fun same => plain (by rwa [same])
      have bound := ih part within
      rw [Token.countKind_cons, Token.countKind_cons, if_neg other]
      omega
  | @pair opening closing inside rest encloses _ _ within others =>
    intro front begins
    obtain ⟨same, opened, -, -⟩ := encloses.alike shape
    obtain rfl | ⟨part, rfl, onward⟩ := List.prefix_cons_iff.1 begins
    · exact Nat.le_refl _
    · rw [Token.countKind_cons, Token.countKind_cons, if_neg opened]
      obtain inner | beyond :=
        List.prefix_or_prefix_of_prefix onward (List.prefix_append inside (closing :: rest))
      · have bound := within part inner
        omega
      · obtain ⟨more, rfl⟩ := beyond
        have whole := within inside (List.prefix_refl inside)
        have last := (List.prefix_append_right_inj inside).1 onward
        obtain rfl | ⟨behind, rfl, final⟩ := List.prefix_cons_iff.1 last
        · rw [List.append_nil]
          omega
        · have bound := others behind final
          simp only [Token.countKind_cons, Token.countKind_append, same]
          omega

/-- Whether brackets match depends on the kinds of the tokens only. -/
theorem of_map_kind {others : List Token} (bracketed : Bracketed tokens)
    (same : others.map Token.kind = tokens.map Token.kind) : Bracketed others := by
  induction bracketed generalizing others with
  | nil =>
    rw [List.map_eq_nil_iff.1 same]
    exact .nil
  | plain plain _ ih =>
    obtain ⟨token, rest, rfl, kind, later⟩ := List.map_eq_cons_iff.1 same
    exact .plain (by rwa [kind]) (ih later)
  | pair encloses _ _ within others =>
    rw [List.map_cons, List.map_append, List.map_cons] at same
    obtain ⟨opening, more, rfl, opens, later⟩ := List.map_eq_cons_iff.1 same
    obtain ⟨inside, behind, rfl, inner, last⟩ := List.map_eq_append_iff.1 later
    obtain ⟨closing, rest, rfl, closes, final⟩ := List.map_eq_cons_iff.1 last
    exact .pair (by rwa [opens, closes]) (within inner) (others final)

/-- Parentheses do not open in front of tokens that close none of them. -/
theorem opens_eq_nil {opens front back : List Token}
    (opening : ∀ token ∈ opens, token.kind = .openParen) (bracketed : Bracketed (opens ++ front))
    (matched : Bracketed (front ++ back)) : opens = [] := by
  have total := bracketed.countKind_eq .paren
  have bound := matched.countKind_le .paren front (List.prefix_append front back)
  have count := Token.countKind_eq_length opening
  have other : Token.countKind .closeParen opens = 0 :=
    Token.countKind_eq_zero fun token member => by simp [opening token member]
  rw [Token.countKind_append, Token.countKind_append] at total
  exact List.length_eq_zero_iff.1 (by omega)

theorem closes_eq_nil {closes : List Token} (closing : ∀ token ∈ closes, token.kind = .closeParen)
    (bracketed : Bracketed (tokens ++ closes)) (matched : Bracketed tokens) : closes = [] := by
  have total := bracketed.countKind_eq .paren
  have inner := matched.countKind_eq .paren
  have count := Token.countKind_eq_length closing
  have other : Token.countKind .openParen closes = 0 :=
    Token.countKind_eq_zero fun token member => by simp [closing token member]
  rw [Token.countKind_append, Token.countKind_append] at total
  exact List.length_eq_zero_iff.1 (by omega)

end Bracketed

/-- A closing brace whose own opening brace is the first token is the partner of that brace. -/
theorem Balances.behind_eq_nil {opening closing last : Token} {inside before behind : List Token}
    (balances : Balances 0 inside) (split : inside ++ [closing] = before ++ last :: behind)
    (opens : opening.kind = .openCurly) (closes : last.kind = .closeCurly)
    (bracketed : Bracketed (opening :: (before ++ [last]))) :
    behind = [] := by
  obtain rfl | ⟨others, final, rfl⟩ := List.eq_nil_or_concat behind
  · rfl
  · have joined : inside ++ [closing] = before ++ [last] ++ others ++ [final] := by
      rw [split, List.concat_eq_append]
      simp
    have same : inside = before ++ [last] ++ others := (List.append_inj' joined rfl).1
    have bound := balances.covered (before ++ [last]) ⟨others, same.symm⟩
    have matched := bracketed.countKind_eq .curly
    simp [Token.countKind_cons, opens, closes] at bound matched
    omega

end ScriptFrontend
