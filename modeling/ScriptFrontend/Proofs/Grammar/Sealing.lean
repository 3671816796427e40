/-
This file describes tokens that leave no brace open and end with a semicolon.
-/

import ScriptFrontend.Token

namespace ScriptFrontend

def Token.countKind (kind : Token.Kind) (tokens : List Token) : Nat :=
  tokens.countP fun token => token.kind = kind

namespace Token

@[simp] theorem countKind_append (kind : Token.Kind) (first second : List Token) :
    countKind kind (first ++ second) = countKind kind first + countKind kind second :=
  List.countP_append

theorem countKind_cons (kind : Token.Kind) (token : Token) (others : List Token) :
    countKind kind (token :: others) =
      countKind kind others + if token.kind = kind then 1 else 0 := by
  simp [countKind, List.countP_cons]

theorem countKind_eq_zero {kind : Token.Kind} {tokens : List Token}
    (absent : ∀ token ∈ tokens, token.kind ≠ kind) : countKind kind tokens = 0 :=
  List.countP_eq_zero.2 fun token member => by simpa using absent token member

theorem countKind_eq_length {kind : Token.Kind} {tokens : List Token}
    (all : ∀ token ∈ tokens, token.kind = kind) : countKind kind tokens = tokens.length :=
  List.countP_eq_length.2 fun token member => by simpa using all token member

end Token

/-- With a number of braces open before them, the tokens balance when none of their prefixes closes
more braces than there are to close and all of them together leave no brace open. -/
structure Balances (depth : Nat) (tokens : List Token) : Prop where
  covered : ∀ front, front <+: tokens →
    Token.countKind .closeCurly front ≤ depth + Token.countKind .openCurly front
  total : Token.countKind .closeCurly tokens = depth + Token.countKind .openCurly tokens

/-- The tokens do not reach beyond their end for any of the open blocks. There are at least as many
open braces as open blocks, because braces may be skipped, but only a brace opens a block. -/
structure Sealed (blocks : Nat) (tokens : List Token) : Prop where
  balances : ∃ depth, blocks ≤ depth ∧ Balances depth tokens
  present : ∀ token ∈ tokens, token.kind ≠ .endOfInput
  ended : ∀ last, tokens.getLast? = some last → last.kind = .semicolon

/-- The prefixes of a list are what it has up to each length. -/
theorem balances_iff_take {depth : Nat} {tokens : List Token} :
    Balances depth tokens ↔
      (∀ count, count < tokens.length + 1 →
          Token.countKind .closeCurly (tokens.take count) ≤
            depth + Token.countKind .openCurly (tokens.take count)) ∧
        Token.countKind .closeCurly tokens = depth + Token.countKind .openCurly tokens := by
  constructor
  · intro balances
    exact ⟨fun count _ => balances.covered _ (List.take_prefix count tokens), balances.total⟩
  · rintro ⟨covered, total⟩
    refine ⟨?_, total⟩
    intro front begins
    have bounded := begins.length_le
    rw [List.prefix_iff_eq_take.1 begins]
    exact covered front.length (by omega)

instance (depth : Nat) (tokens : List Token) : Decidable (Balances depth tokens) :=
  decidable_of_iff _ balances_iff_take.symm

namespace Balances

variable {depth : Nat} {token : Token} {others : List Token}

/-- The depth after a token balances the tokens behind it. -/
theorem tail {inner : Nat} (balances : Balances depth (token :: others))
    (moved : inner + Token.countKind .closeCurly [token] =
      depth + Token.countKind .openCurly [token]) : Balances inner others := by
  have split (kind : Token.Kind) (tokens : List Token) : Token.countKind kind (token :: tokens) =
      Token.countKind kind [token] + Token.countKind kind tokens :=
    Token.countKind_append kind [token] tokens
  constructor
  · intro front begins
    have covered := balances.covered (token :: front) ((List.prefix_cons_inj token).2 begins)
    rw [split .closeCurly front, split .openCurly front] at covered
    omega
  · have total := balances.total
    rw [split .closeCurly others, split .openCurly others] at total
    omega

theorem opened (balances : Balances depth (token :: others)) (opens : token.kind = .openCurly) :
    Balances (depth + 1) others := by
  apply balances.tail
  simp [Token.countKind, opens]

theorem closed (balances : Balances depth (token :: others)) (closes : token.kind = .closeCurly) :
    ∃ outer, depth = outer + 1 ∧ Balances outer others := by
  have covered := balances.covered [token] ((List.prefix_cons_inj token).2 (List.nil_prefix))
  simp [Token.countKind, closes] at covered
  obtain ⟨outer, above⟩ := Nat.exists_eq_add_of_lt covered
  refine ⟨outer, by omega, balances.tail ?_⟩
  simp [Token.countKind, closes]
  omega

theorem passed (balances : Balances depth (token :: others)) (opens : token.kind ≠ .openCurly)
    (closes : token.kind ≠ .closeCurly) : Balances depth others := by
  apply balances.tail
  simp [Token.countKind, opens, closes]

theorem depth_eq_zero (balances : Balances depth []) : depth = 0 := by
  have total := balances.total
  simp [Token.countKind] at total
  omega

end Balances

namespace Sealed

variable {blocks : Nat} {token : Token} {others tokens : List Token}

theorem of_balances (balances : Balances 0 tokens)
    (present : ∀ token ∈ tokens, token.kind ≠ .endOfInput)
    (ended : ∀ last, tokens.getLast? = some last → last.kind = .semicolon) : Sealed 0 tokens :=
  ⟨⟨0, Nat.le_refl 0, balances⟩, present, ended⟩

theorem outer (sealing : Sealed (blocks + 1) tokens) : Sealed blocks tokens := by
  obtain ⟨depth, enough, balances⟩ := sealing.balances
  exact ⟨⟨depth, by omega, balances⟩, sealing.present, sealing.ended⟩

theorem ne_nil (sealing : Sealed (blocks + 1) tokens) : tokens ≠ [] := by
  intro nothing
  obtain ⟨depth, enough, balances⟩ := sealing.balances
  rw [nothing] at balances
  have none := balances.depth_eq_zero
  omega

/-- Only a semicolon is the last token. -/
theorem others_ne_nil (sealing : Sealed blocks (token :: others)) (more : token.kind ≠ .semicolon) :
    others ≠ [] := by
  intro nothing
  rw [nothing] at sealing
  exact more (sealing.ended token rfl)

theorem tail {inner depth : Nat} (sealing : Sealed blocks (token :: others)) (enough : inner ≤ depth)
    (balances : Balances depth others) : Sealed inner others := by
  refine ⟨⟨depth, enough, balances⟩, ?_, ?_⟩
  · intro other member
    exact sealing.present other (List.mem_cons_of_mem token member)
  · intro last found
    apply sealing.ended last
    rw [List.getLast?_cons, found]
    rfl

theorem opened (sealing : Sealed blocks (token :: others)) (opens : token.kind = .openCurly) :
    Sealed (blocks + 1) others := by
  obtain ⟨depth, enough, balances⟩ := sealing.balances
  exact sealing.tail (by omega) (balances.opened opens)

/-- A closing brace closes a block if there is one. -/
theorem closed (sealing : Sealed blocks (token :: others)) (closes : token.kind = .closeCurly) :
    Sealed (blocks - 1) others := by
  obtain ⟨depth, enough, balances⟩ := sealing.balances
  obtain ⟨outer, above, balancesOn⟩ := balances.closed closes
  exact sealing.tail (by omega) balancesOn

/-- Any other token closes no block, and an opening brace may be skipped. -/
theorem passed (sealing : Sealed blocks (token :: others)) (closes : token.kind ≠ .closeCurly) :
    Sealed blocks others := by
  by_cases opens : token.kind = .openCurly
  · exact (sealing.opened opens).outer
  · obtain ⟨depth, enough, balances⟩ := sealing.balances
    exact sealing.tail enough (balances.passed opens closes)

end Sealed

end ScriptFrontend
