/-
This file shows how an expression grows while a climb takes its operators, and how lists are read.
-/

import ScriptFrontend.Proofs.Grammar.Operators
import ScriptFrontend.Proofs.Reading.Passage

namespace ScriptFrontend

namespace Rule

/-- With enough room the deeper rule reads the tokens as the tree and climbs on from it, and without
it the rule overflows. The rule takes one level for itself. -/
structure GrowsInto (limit need room : Nat) (power : BindingPower) (state : State)
    (tokens : List Token) (tree : Expression) : Prop where
  grows : need ≤ room → ∃ deeper after, room = deeper + 1 ∧ Passes state tokens after ∧
    (Nested.within limit room).expression power state =
      climbOn (Nested.within limit deeper) power tree after
  overflows : room < need → Overflows limit ((Nested.within limit room).expression power state)

section Growth

variable {limit need otherNeed room : Nat} {power strength : BindingPower} {state : State}
  {tokens others : List Token} {tree left : Expression} {rule : FollowingRule}

theorem forward_climbOn (limit room : Nat) (power : BindingPower) (left : Expression) :
    Forward Expression (climbOn (Nested.within limit room) power left) :=
  forward_closed.bind forward_closed.unread fun rounds =>
    forward_closed.climb (forward_closed.within limit room) power rounds left

theorem GrowsInto.of_opening (positive : 0 < need)
    (opens : ∀ deeper, Settles limit need (deeper + 1) (opening (Nested.within limit deeper)) state
      tokens tree) : GrowsInto limit need room power state tokens tree := by
  cases room with
  | zero => exact ⟨fun enough => by omega, fun _ => overflows_tooDeep limit state⟩
  | succ deeper =>
    constructor
    · intro enough
      obtain ⟨after, passes, read⟩ := (opens deeper).reads enough
      refine ⟨deeper, after, rfl, passes, ?_⟩
      rw [Nested.within_succ_expression, expression_eq, bind_apply, read]
    · intro less
      exact ((opens deeper).overflows less).bind (forward_climbOn limit deeper power)

/-- The climb takes an operator that binds tighter than its power. -/
theorem GrowsInto.extend (grown : GrowsInto limit need room power state tokens left)
    (dispatched : ∀ after, Passes state tokens after →
      RuleTable.standard.following after.current.kind = some (strength, rule))
    (tight : power < strength)
    (rest : ∀ deeper after, Passes state tokens after → Settles limit otherNeed (deeper + 1)
      (following (Nested.within limit deeper) strength left rule) after others tree) :
    GrowsInto limit (max need otherNeed) room power state (tokens ++ others) tree := by
  have climbs (deeper : Nat) (after : State) (passes : Passes state tokens after) :
      climbOn (Nested.within limit deeper) power left after =
        (following (Nested.within limit deeper) strength left rule >>=
          climbOn (Nested.within limit deeper) power) after := by
    rw [climbOn_apply (Nested.steady_within limit deeper), dispatched after passes]
    exact if_pos tight
  constructor
  · intro enough
    obtain ⟨deeper, middle, rfl, passes, read⟩ := grown.grows (by omega)
    obtain ⟨after, passesOn, readOn⟩ := (rest deeper middle passes).reads (by omega)
    refine ⟨deeper, after, rfl, passes.trans passesOn, ?_⟩
    rw [read, climbs deeper middle passes, bind_apply, readOn]
  · intro less
    by_cases enough : need ≤ room
    · obtain ⟨deeper, middle, rfl, passes, read⟩ := grown.grows enough
      rw [read, climbs deeper middle passes]
      exact ((rest deeper middle passes).overflows (by omega)).bind
        (forward_climbOn limit deeper power)
    · exact grown.overflows (by omega)

/-- The climb stops at an operator that binds no tighter than its power. -/
theorem GrowsInto.stop (grown : GrowsInto limit need room power state tokens tree)
    (loose : ∀ after, Passes state tokens after → ¬ power < after.current.kind.strength) :
    Settles limit need room ((Nested.within limit room).expression power) state tokens tree := by
  refine ⟨?_, grown.overflows⟩
  intro enough
  obtain ⟨deeper, after, rfl, passes, read⟩ := grown.grows enough
  refine ⟨after, passes, ?_⟩
  rw [read, climbOn_apply (Nested.steady_within limit deeper)]
  cases dispatched : RuleTable.standard.following after.current.kind with
  | none => rfl
  | some found =>
    obtain ⟨strength, rule⟩ := found
    have weak := loose after passes
    rw [RuleTable.strength_of_following dispatched] at weak
    exact if_neg weak

theorem opening_of_leading {inner : Nested} {rule : LeadingRule}
    (dispatched : RuleTable.standard.leading state.current.kind = some rule) :
    opening inner state = leading inner rule state := by
  rw [opening_apply, dispatched]

/-- A leading rule that settles makes an expression grow. -/
theorem GrowsInto.of_leading {token : Token} {rule : LeadingRule} {next : Token.Kind}
    (positive : 0 < need) (faces : state.Faces (token :: others) next)
    (kind : token.kind ∈ rule.kinds)
    (leads : ∀ deeper, Settles limit need (deeper + 1) (leading (Nested.within limit deeper) rule)
      state (token :: others) tree) :
    GrowsInto limit need room power state (token :: others) tree := by
  have dispatched : RuleTable.standard.leading state.current.kind = some rule := by
    rw [faces.current]
    exact RuleTable.leading_eq_some_iff.2 kind
  apply GrowsInto.of_opening positive
  intro deeper
  exact .of_eq (opening_of_leading dispatched) (.refl state) (leads deeper)

end Growth

section Lists

variable {α : Type} {limit need room : Nat} {item : Rule α} {state : State} {tokens : List Token}
  {values : List α} {kind : Token.Kind}

theorem listed_of_closeParen (closes : state.current.kind = .closeParen) :
    listed item state = .ok [] state := by
  rw [listed, bind_apply, current_apply]
  dsimp only
  rw [if_pos closes, pure_apply]

theorem listed_of_ne_closeParen (present : state.current.kind ≠ .closeParen) :
    listed item state = separated item state := by
  rw [listed, bind_apply, current_apply]
  dsimp only
  rw [if_neg present]
  rfl

theorem forward_more (forward : Forward α item) (first : α) (found : Bool) :
    Forward (List α)
      (if found then do return first :: (← separated item) else pure [first]) := by
  split
  · exact forward_closed.bind (forward_closed.bind forward_closed.unread fun rounds =>
      forward_closed.separatedIn forward rounds) fun _ => forward_closed.pure _
  · exact forward_closed.pure [first]

/-- A list of items is read up to the closing parenthesis that comes after its tokens. -/
structure Lists (limit need room : Nat) (item : Rule α) (tokens : List Token) (values : List α) :
    Prop where
  listed : ∀ {state : State}, state.Faces tokens .closeParen →
    Settles limit need room (Rule.listed item) state tokens values
  separated : values ≠ [] → ∀ {state : State}, state.Faces tokens .closeParen →
    Settles limit need room (Rule.separated item) state tokens values

namespace Lists

variable {value : α} {token : Token} {rest : List Token}

theorem nil : Lists limit 0 room item [] [] :=
  ⟨fun faces => .of_reads (.refl _) (listed_of_closeParen faces.current_kind),
    fun present => absurd rfl present⟩

theorem of_separated (present : token.kind ≠ .closeParen)
    (all : ∀ {state : State}, state.Faces (token :: rest) .closeParen →
      Settles limit need room (Rule.separated item) state (token :: rest) values) :
    Lists limit need room item (token :: rest) values where
  listed {state} faces := by
    have more : state.current.kind ≠ .closeParen := by rwa [faces.current]
    exact .of_eq (listed_of_ne_closeParen more) (.refl state) (all faces)
  separated _ _ faces := all faces

theorem last (forward : Forward α item) (present : token.kind ≠ .closeParen)
    (first : ∀ {state : State}, state.Faces (token :: rest) .closeParen →
      Settles limit need room item state (token :: rest) value) :
    Lists limit need room item (token :: rest) [value] := by
  apply of_separated present
  intro state faces
  rw [separated_eq forward]
  apply (first faces).last
  · intro _
    exact forward_bind (forward_closed.skipOptional .comma) (forward_more forward _)
  · intro after passes
    have last : after.current.kind ≠ .comma := by
      rw [passes.current_kind faces]
      decide
    exact .skipNothing last (.pure _ _)

theorem more {others : List α} {comma : Token} {otherNeed : Nat} {otherTokens : List Token}
    (forward : Forward α item) (present : token.kind ≠ .closeParen)
    (separator : comma.kind = .comma) (nonempty : others ≠ [])
    (first : ∀ {state : State}, state.Faces (token :: rest) .comma →
      Settles limit need room item state (token :: rest) value)
    (lists : Lists limit otherNeed room item otherTokens others) :
    Lists limit (max need otherNeed) room item (token :: rest ++ comma :: otherTokens)
      (value :: others) := by
  apply of_separated present
  intro state faces
  rw [separated_eq forward]
  have whole : state.Faces ((token :: rest) ++ comma :: otherTokens) .closeParen := faces
  have before := whole.take
  rw [separator] at before
  apply (first before).bind
  · intro _
    exact forward_bind (forward_closed.skipOptional .comma) (forward_more forward _)
  · intro after passes
    have ahead := passes.faces whole
    apply Settles.skipOptional ahead separator
    exact (lists.separated nonempty ahead.advance).last (fun _ => forward_closed.pure _)
      fun _ _ => .pure _ _

end Lists

theorem Lists.parenthesized {closing : Token}
    (lists : Lists limit need room item tokens values)
    (faces : state.Faces (tokens ++ [closing]) kind) (closes : closing.kind = .closeParen) :
    Settles limit need room (Rule.parenthesized item) state (tokens ++ [closing]) values := by
  have ahead := faces.take
  rw [closes] at ahead
  apply Settles.cast _ (Nat.max_zero need)
  apply (lists.listed ahead).bind
  · intro _
    exact forward_closed.bind (forward_closed.expect .closeParen) fun _ => forward_closed.pure _
  · intro after passes
    exact .expect (passes.faces faces) closes (.pure _ _)

end Lists

end Rule

end ScriptFrontend
