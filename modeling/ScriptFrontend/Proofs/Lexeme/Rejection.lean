/-
This file shows that the characters that begin no token are told with their places.
-/

import Mathlib.Data.List.Forall2
import ScriptFrontend.Proofs.Lexeme.Tiling
import ScriptFrontend.Script

namespace ScriptFrontend

open Text

/-- The illegal token is a single character of the source, and the event tells of this character and
counts the bytes in front of it. -/
def Event.Rejects (source file : String) (event : Event) (token : Token) : Prop :=
  ∃ before character after, source.toList = before ++ character :: after ∧
    event = .illegalCharacter character file (byteLength before) ∧
    token = ⟨.illegal, String.singleton character,
      Span.ofBytes (byteLength before) (byteLength before + character.utf8Size) file⟩

namespace Lexeme

/-- No text spells an illegal token. -/
theorem Spells.recognised {kind : Token.Kind} {text : List Char} (spells : Spells kind text) :
    kind ≠ .illegal := by
  rintro rfl
  obtain ⟨first, others, -, listed⟩ := spells.mark_of_kind (by decide) rfl (by decide)
  simp [patterns] at listed

/-- An illegal lexeme is a single character. -/
theorem rejects_of_classify {source : String} (file : String) {before rest : List Char}
    {first : Char} {extent : Nat} (classified : classify first rest = (.illegal, extent))
    (split : source.toList = before ++ first :: rest) :
    ∃ event token, event? file ⟨.illegal, first :: rest.take extent, byteLength before⟩ = some event ∧
      token? file ⟨.illegal, first :: rest.take extent, byteLength before⟩ = some token ∧
        event.Rejects source file token := by
  rw [extent_eq_zero_of_illegal classified]
  exact ⟨_, _, rfl, rfl, before, first, rest, split, rfl, rfl⟩

/-- A lexeme that is not illegal is no illegal token, and no event tells of it. -/
theorem recognised_of_classify (file : String) (start : Nat) {first : Char} {rest : List Char}
    {form : Form} {extent : Nat} (classified : classify first rest = (form, extent))
    (other : form ≠ .illegal) :
    event? file ⟨form, first :: rest.take extent, start⟩ = none ∧
      ∀ token ∈ token? file ⟨form, first :: rest.take extent, start⟩, token.kind ≠ .illegal := by
  constructor
  · cases form with
    | illegal => exact absurd rfl other
    | _ => rfl
  · intro token made
    obtain ⟨kind, known, rfl⟩ := Option.map_eq_some_iff.1 made
    exact (spells_of_classify classified known other).recognised

theorem forall₂_rejects {source file : String} (start : Nat) (text : List Char) :
    ∀ before, byteLength before = start → source.toList = before ++ text →
      List.Forall₂ (Event.Rejects source file) ((scanFrom start text).filterMap (event? file))
        (((scanFrom start text).filterMap (token? file)).filter (·.kind = .illegal)) := by
  fun_induction scanFrom start text with
  | case1 => exact fun _ _ _ => .nil
  | case2 start first rest form extent classified text ih =>
    intro before begins split
    have behind : source.toList = before ++ text ++ rest.drop extent := by simp [split, text]
    have others := ih (before ++ text) (by rw [byteLength_append, begins]) behind
    by_cases illegal : form = .illegal
    · subst illegal
      subst begins
      obtain ⟨event, token, told, made, rejects⟩ := rejects_of_classify file classified split
      have kind : token.kind = .illegal := by
        obtain ⟨_, _, _, -, -, rfl⟩ := rejects
        rfl
      rw [List.filterMap_cons_some told, List.filterMap_cons_some made,
        List.filter_cons_of_pos (by simpa using kind)]
      exact .cons rejects others
    · obtain ⟨silent, recognised⟩ := recognised_of_classify file start classified illegal
      rw [List.filterMap_cons_none silent]
      cases made : token? file ⟨form, text, start⟩ with
      | none => rwa [List.filterMap_cons_none made]
      | some token =>
        rw [List.filterMap_cons_some made,
          List.filter_cons_of_neg (by simpa using recognised token made)]
        exact others

end Lexeme

/-- The characters that begin no token are told in the order of the illegal tokens. -/
theorem forall₂_rejects_tokenize (source file : String) :
    List.Forall₂ (Event.Rejects source file) ((Lexeme.scan source).filterMap (Lexeme.event? file))
      ((tokenize source file).filter (·.kind = .illegal)) := by
  have scanned := @Lexeme.forall₂_rejects source file 0 source.toList [] rfl rfl
  rw [tokenize, List.filter_append]
  rwa [List.filter_cons_of_neg (by simp), List.filter_nil, List.append_nil]

end ScriptFrontend
