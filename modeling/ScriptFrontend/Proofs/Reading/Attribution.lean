/-
This file attributes the failures of a reading to tokens in the order of the script.
-/

import Mathlib.Data.List.Forall2
import Mathlib.Data.List.Pairwise
import ScriptFrontend.Proofs.Lexeme.Tokenization
import ScriptFrontend.Proofs.Reading.Invariance
import ScriptFrontend.Proofs.Reading.Placement
import ScriptFrontend.Script

namespace ScriptFrontend

open Text

/-- Every failure blames the token at its index. The indices never fall, and they grow before the
bound, which none of them exceeds. -/
structure Attribution (buffer : List Token) (bound : Nat) (failures : List Diagnostic)
    (indices : List Nat) : Prop where
  blames : List.Forall₂ (fun failure index => ∃ token, buffer[index]? = some token ∧
    failure.Blames token) failures indices
  ordered : indices.Pairwise fun earlier later =>
    earlier ≤ later ∧ (earlier < bound → earlier < later)
  bounded : ∀ index ∈ indices, index ≤ bound

namespace Attribution

variable {buffer : List Token} {bound : Nat} {failures : List Diagnostic} {indices : List Nat}

theorem nil : Attribution buffer bound [] [] :=
  ⟨.nil, .nil, List.forall_mem_nil _⟩

theorem concat (attribution : Attribution buffer bound failures indices) {failure : Diagnostic}
    {index : Nat} {token : Token} (found : buffer[index]? = some token)
    (blames : failure.Blames token)
    (later : ∀ earlier ∈ indices, earlier ≤ index ∧ (earlier < bound → earlier < index))
    (bounded : index ≤ bound) :
    Attribution buffer bound (failures ++ [failure]) (indices ++ [index]) where
  blames := List.rel_append attribution.blames (.cons ⟨token, found, blames⟩ .nil)
  ordered := by
    rw [List.pairwise_append]
    refine ⟨attribution.ordered, List.pairwise_singleton _ _, ?_⟩
    intro earlier member last here
    rw [List.mem_singleton.1 here]
    exact later earlier member
  bounded := by
    intro other member
    obtain before | here := List.mem_append.1 member
    · exact attribution.bounded other before
    · rwa [List.mem_singleton.1 here]

end Attribution

namespace Rule

/-- The failures of a state are attributed to tokens that are not ahead. Only a token that ends the
statements may be blamed while it is the current one. -/
structure Located (buffer : List Token) (bound : Nat) (closing : Token.Kind) (state : State) :
    Prop where
  stands : state.cursor.StandsIn buffer
  ends : state.cursor.endIndex = bound
  attributed : ∃ indices, Attribution buffer bound state.errors.toList indices ∧
    (∀ index ∈ indices, index ≤ state.cursor.index) ∧
      (¬ endsStatements closing state.current.kind → ∀ index ∈ indices, index < state.cursor.index)

namespace Located

variable {buffer : List Token} {bound : Nat} {closing : Token.Kind} {state : State}

theorem ofTokens (tokens : List Token) (file : String) :
    Located (withEnd tokens file) (beforeEnd tokens).length .endOfInput
      (State.ofTokens tokens file) :=
  ⟨Cursor.standsIn_ofTokens tokens file, Cursor.endIndex_ofTokens tokens file, [], .nil, nofun,
    fun _ => nofun⟩

/-- Behind a token nothing that was blamed before is ahead. -/
theorem advance (located : Located buffer bound closing state) (other : Token.Kind)
    (present : state.current.kind ≠ .endOfInput) :
    Located buffer bound other state.advance := by
  obtain ⟨indices, attribution, passed, -⟩ := located.attributed
  have moved : state.advance.cursor.index = state.cursor.index + 1 :=
    Cursor.index_advance (Cursor.ahead_ne_nil_of_kind present)
  have behind : ∀ index ∈ indices, index < state.advance.cursor.index := by
    intro index member
    have before := passed index member
    omega
  exact ⟨located.stands.advance, (Cursor.endIndex_advance present).trans located.ends, indices,
    attribution, fun index member => Nat.le_of_lt (behind index member), fun _ => behind⟩

/-- A recorded failure comes behind those before it. -/
theorem concat (located : Located buffer bound .endOfInput state) {failure : Diagnostic}
    (blames : failure.Blames state.current) :
    ∃ indices, Attribution buffer bound (state.record failure).errors.toList indices ∧
      ∀ index ∈ indices, index ≤ state.cursor.index := by
  obtain ⟨indices, attribution, passed, strictly⟩ := located.attributed
  have inside : state.cursor.index ≤ bound := located.ends ▸ state.cursor.index_le_endIndex
  have recorded : (state.record failure).errors.toList = state.errors.toList ++ [failure] :=
    Array.toList_push
  refine ⟨indices ++ [state.cursor.index], ?_, ?_⟩
  · rw [recorded]
    apply attribution.concat located.stands.getElem?_index blames _ inside
    intro earlier member
    refine ⟨passed earlier member, fun before => ?_⟩
    -- At the end of the input the index is the bound, which the earlier one has not reached.
    by_cases ended : state.current.kind = .endOfInput
    · have last : ¬ state.cursor.index < state.cursor.endIndex :=
        fun more => Cursor.index_lt_endIndex.1 more ended
      rw [located.ends] at last
      omega
    · exact strictly (fun ends => ended (ends.elim id id)) earlier member
  · intro index member
    obtain before | here := List.mem_append.1 member
    · exact passed index before
    · exact Nat.le_of_eq (List.mem_singleton.1 here)

end Located

theorem located_invariant (buffer : List Token) (bound : Nat) :
    Invariant (Located buffer bound .endOfInput) (Located buffer bound) where
  note _ located := ⟨located.stands, located.ends, located.attributed⟩
  take located present := located.advance .endOfInput present
  pause := by
    intro state closing located
    obtain ⟨indices, attribution, passed, strictly⟩ := located.attributed
    refine ⟨located.stands, located.ends, indices, attribution, passed, fun goesOn => strictly ?_⟩
    exact fun ends => goesOn (.inl (ends.elim id id))
  resume := by
    intro state closing located other
    obtain ⟨indices, attribution, passed, strictly⟩ := located.attributed
    refine ⟨located.stands, located.ends, indices, attribution, passed, fun goesOn => strictly ?_⟩
    exact fun ends => ends.elim (fun ended => goesOn (.inl ended)) other
  fail := by
    -- The index that is added is passed by what is skipped, unless that ends the statements.
    intro origin state failure closing begun goesOn located blames _
    have present : origin.current.kind ≠ .endOfInput := fun ended => goesOn (.inl ended)
    have sameEnd : (state.record failure).cursor.endIndex = origin.cursor.endIndex :=
      located.ends.trans begun.ends.symm
    obtain ⟨indices, attribution, passed⟩ := located.concat blames
    have onward := State.Reaches.resynchronize origin.cursor.index closing (state.record failure)
    have further : state.cursor.index ≤ _ := onward.index_le
    constructor
    · exact onward.standsIn located.stands
    · rw [State.endIndex_resynchronize present sameEnd]
      exact located.ends
    · refine ⟨indices, ?_, ?_, ?_⟩
      · rwa [State.errors_resynchronize]
      · intro index member
        exact Nat.le_trans (passed index member) further
      · intro continues index member
        exact Nat.lt_of_le_of_lt (passed index member)
          (State.index_lt_resynchronize present sameEnd continues)
  close := by
    intro state located closes
    apply located.advance
    rw [closes]
    decide

theorem worded_invariant :
    Invariant (fun state => ∀ failure ∈ state.errors.toList, failure.Worded)
      fun _ state => ∀ failure ∈ state.errors.toList, failure.Worded where
  note _ here := here
  take here _ := here
  pause _ here := here
  resume here _ := here
  fail := by
    intro origin state failure closing _ _ here _ worded
    rw [State.errors_resynchronize]
    change ∀ other ∈ (state.errors.push failure).toList, other.Worded
    rw [Array.toList_push]
    exact List.forall_mem_append.2 ⟨here, List.forall_mem_singleton.2 worded⟩
  close here _ := here

end Rule

/-- Failures are reported in the order of the tokens that they blame, and only the end of the input
is blamed more than once. -/
theorem exists_attribution (tokens : List Token) (file : String) (limit : Nat) :
    ∃ indices, Attribution (withEnd tokens file) (beforeEnd tokens).length
      (readTokens tokens file limit).errors indices := by
  have located := (Rule.located_invariant (withEnd tokens file) (beforeEnd tokens).length)
    |>.statementsUntil limit limit .endOfInput (Rule.Located.ofTokens tokens file)
  obtain ⟨indices, attribution, -⟩ := located.attributed
  exact ⟨indices, attribution⟩

theorem Attribution.exists_blamed {buffer : List Token} {bound : Nat} {failures : List Diagnostic}
    {indices : List Nat} (attribution : Attribution buffer bound failures indices)
    {failure : Diagnostic} (member : failure ∈ failures) :
    ∃ token ∈ buffer, failure.Blames token := by
  obtain ⟨length, blames⟩ := List.forall₂_iff_get.1 attribution.blames
  obtain ⟨place, inside, rfl⟩ := List.getElem_of_mem member
  obtain ⟨token, found, blamed⟩ := blames place inside (length ▸ inside)
  exact ⟨token, List.mem_of_getElem? found, blamed⟩

/-- Where the tokens start one behind the other, so are the failures that blame them found, and two
of them are found together only where the first end mark starts. -/
theorem Attribution.pairwise_offset {buffer : List Token} {bound stop : Nat}
    {failures : List Diagnostic} {indices : List Nat}
    (attribution : Attribution buffer bound failures indices)
    (increasing : buffer.Pairwise fun earlier later =>
      earlier.span.start.offset.toNat < later.span.start.offset.toNat)
    (ending : ∀ token, buffer[bound]? = some token → token.span.start.offset.toNat = stop) :
    failures.Pairwise fun earlier later =>
      earlier.position.offset.toNat ≤ later.position.offset.toNat ∧
        (earlier.position.offset = later.position.offset →
          earlier.position.offset.toNat = stop) := by
  obtain ⟨length, blames⟩ := List.forall₂_iff_get.1 attribution.blames
  rw [List.pairwise_iff_get]
  intro first second below
  have inside : first.val < indices.length := length ▸ first.isLt
  have insideToo : second.val < indices.length := length ▸ second.isLt
  obtain ⟨token, found, position, -⟩ := blames first first.isLt inside
  obtain ⟨other, foundOther, positionOther, -⟩ := blames second second.isLt insideToo
  have ordered := List.pairwise_iff_get.1 attribution.ordered ⟨first, inside⟩ ⟨second, insideToo⟩
    below
  have bounded := attribution.bounded _ (List.get_mem indices ⟨first, inside⟩)
  generalize indices.get ⟨first, inside⟩ = index at found ordered bounded
  generalize indices.get ⟨second, insideToo⟩ = otherIndex at foundOther ordered
  rw [position, positionOther]
  obtain apart | same := Nat.lt_or_eq_of_le ordered.1
  · obtain ⟨present, rfl⟩ := List.getElem?_eq_some_iff.1 found
    obtain ⟨presentToo, rfl⟩ := List.getElem?_eq_some_iff.1 foundOther
    have grows := List.pairwise_iff_getElem.1 increasing _ _ present presentToo apart
    refine ⟨Nat.le_of_lt grows, fun equal => ?_⟩
    rw [equal] at grows
    exact absurd grows (Nat.lt_irrefl _)
  · subst same
    have last : index = bound := by
      have repeated := mt ordered.2 (Nat.lt_irrefl index)
      omega
    rw [found] at foundOther
    obtain rfl := Option.some.inj foundOther
    subst last
    exact ⟨Nat.le_refl _, fun _ => ending token found⟩

theorem worded_readTokens (tokens : List Token) (file : String) (limit : Nat) :
    ∀ failure ∈ (readTokens tokens file limit).errors, failure.Worded :=
  Rule.worded_invariant.statementsUntil limit limit .endOfInput (List.forall_mem_nil _)

theorem withEnd_tokenize (source file other : String) :
    withEnd (tokenize source file) other = tokenize source file := by
  rw [withEnd, tokenize, List.getLast?_concat]
  exact if_pos rfl

/-- The failures of a script are reported in the order of the script, and only those at its end are
found at the same place. -/
theorem pairwise_offset_readScript {source : String}
    (small : byteLength source.toList < UInt32.size) (file : String) (limit : Nat) :
    (readScript source file limit).errors.Pairwise fun earlier later =>
      earlier.position.offset.toNat ≤ later.position.offset.toNat ∧
        (earlier.position.offset = later.position.offset →
          earlier.position.offset.toNat = byteLength source.toList) := by
  obtain ⟨indices, attribution⟩ := exists_attribution (tokenize source file) file limit
  rw [withEnd_tokenize] at attribution
  apply attribution.pairwise_offset (pairwise_offset_tokenize file small)
  intro token found
  rw [beforeEnd_tokenize, tokenize, List.getElem?_concat_length] at found
  obtain rfl := Option.some.inj found
  exact Position.ofByte_offset file small

/-- Every failure blames a token, in the order of the tokens, and no token before the end of the
input twice. Hence the places of the failures of a script never fall, and only its end is the place
of more than one. -/
theorem errors_in_order :
    (∀ (tokens : List Token) (file : String) (limit : Nat), ∃ indices,
      Attribution (withEnd tokens file) (beforeEnd tokens).length
        (readTokens tokens file limit).errors indices) ∧
    ∀ (source file : String) (limit : Nat), byteLength source.toList < UInt32.size →
      (readScript source file limit).errors.Pairwise fun earlier later =>
        earlier.position.offset.toNat ≤ later.position.offset.toNat ∧
          (earlier.position.offset = later.position.offset →
            earlier.position.offset.toNat = byteLength source.toList) :=
  ⟨exists_attribution, fun _ file limit small => pairwise_offset_readScript small file limit⟩

/-- Two functions that are not closed both blame the end of the script. -/
def unclosedScript : String :=
  "fn() \x7b fn() \x7b 1"

theorem errors_unclosedScript :
    byteLength unclosedScript.toList < UInt32.size ∧
      (readScript unclosedScript "unclosed" 8).errors.map (fun failure => failure.position.offset) =
          [15, 15] ∧
        (readScript unclosedScript "unclosed" 8).errors.Pairwise fun earlier later =>
          earlier.position.offset.toNat ≤ later.position.offset.toNat ∧
            (earlier.position.offset = later.position.offset →
              earlier.position.offset.toNat = byteLength unclosedScript.toList) := by
  have small : byteLength unclosedScript.toList < UInt32.size := by decide
  exact ⟨small, by decide +kernel, errors_in_order.2 unclosedScript "unclosed" 8 small⟩

end ScriptFrontend
