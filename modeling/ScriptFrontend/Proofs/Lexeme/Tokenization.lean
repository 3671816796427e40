/-
This file shows that the tokens of a script spell their kinds and start one behind the other.
-/

import ScriptFrontend.Proofs.Grammar.Derivation
import ScriptFrontend.Proofs.Lexeme.Rereading

namespace ScriptFrontend

open Text Lexeme

theorem exists_lexeme_of_mem {source file : String} {token : Token}
    (member : token ∈ (Lexeme.scan source).filterMap (Lexeme.token? file)) :
    ∃ lexeme ∈ Lexeme.scan source, ∃ kind, lexeme.kind? = some kind ∧ token.kind = kind ∧
      token.text = String.ofList lexeme.text := by
  obtain ⟨lexeme, scanned, known⟩ := List.mem_filterMap.1 member
  obtain ⟨kind, found, rfl⟩ := Option.map_eq_some_iff.1 known
  exact ⟨lexeme, scanned, kind, found, rfl, rfl⟩

/-- The tokens of a text that are no end marks and not illegal spell their kinds. -/
theorem spelled_of_mem_tokenize {source file : String} {token : Token}
    (member : token ∈ tokenize source file) (admitted : token.Admitted) : token.Spelled := by
  rcases List.mem_append.1 member with scanned | last
  · obtain ⟨lexeme, found, kind, known, rfl, text⟩ := exists_lexeme_of_mem scanned
    have spells := spells_of_mem_scanFrom found known admitted.recognised
    rwa [Token.Spelled, text, String.toList_ofList]
  · rw [List.mem_singleton] at last
    rw [last] at admitted
    exact absurd rfl admitted.present

/-- No text spells the end mark. -/
theorem Lexeme.Spells.present {kind : Token.Kind} {text : List Char} (spells : Spells kind text) :
    kind ≠ .endOfInput := by
  rintro rfl
  obtain ⟨first, others, -, listed⟩ := spells.mark_of_kind (by decide) rfl (by decide)
  simp [patterns] at listed

theorem present_of_mem_scan {source file : String} {token : Token}
    (member : token ∈ (Lexeme.scan source).filterMap (Lexeme.token? file)) :
    token.kind ≠ .endOfInput := by
  obtain ⟨lexeme, found, kind, known, rfl, -⟩ := exists_lexeme_of_mem member
  intro ended
  rw [ended] at known
  exact (spells_of_mem_scanFrom found known (by decide)).present rfl

theorem beforeEnd_tokenize (source file : String) :
    beforeEnd (tokenize source file) = (Lexeme.scan source).filterMap (Lexeme.token? file) := by
  apply beforeEnd_append fun token => present_of_mem_scan
  intro token here
  obtain rfl := Option.some.inj here
  rfl

/-- The tokens of a text before the end mark have the outlines of its lexemes. -/
theorem map_outline_beforeEnd (source file : String) :
    (beforeEnd (tokenize source file)).map Token.outline = outlines source.toList := by
  rw [beforeEnd_tokenize, List.map_filterMap]
  simp only [map_outline_token?]
  rfl

/-- A lexeme starts inside of the text that it is cut from. -/
theorem Lexeme.start_of_mem_scanFrom {start : Nat} {text : List Char} {lexeme : Lexeme}
    (member : lexeme ∈ scanFrom start text) :
    start ≤ lexeme.start ∧ lexeme.start < start + byteLength text := by
  fun_induction scanFrom start text with
  | case1 => cases member
  | case2 start first rest form extent classified text ih =>
    have positive := first.utf8Size_pos
    have split : byteLength rest =
        byteLength (rest.take extent) + byteLength (rest.drop extent) := by
      rw [← byteLength_append, List.take_append_drop]
    have size : byteLength text = first.utf8Size + byteLength (rest.take extent) := rfl
    rw [byteLength_cons]
    obtain rfl | later := List.mem_cons.1 member
    · dsimp only
      omega
    · have bounds := ih later
      omega

theorem Lexeme.pairwise_start_scanFrom (start : Nat) (text : List Char) :
    (scanFrom start text).Pairwise fun earlier later => earlier.start < later.start := by
  fun_induction scanFrom start text with
  | case1 => exact .nil
  | case2 start first rest form extent classified text ih =>
    refine .cons ?_ ih
    intro later member
    have positive := first.utf8Size_pos
    have bounds := start_of_mem_scanFrom member
    have size : byteLength text = first.utf8Size + byteLength (rest.take extent) := rfl
    dsimp only
    omega

/-- Where the offsets do not wrap around, they grow from token to token. -/
theorem pairwise_offset_tokenize {source : String} (file : String)
    (small : byteLength source.toList < UInt32.size) :
    (tokenize source file).Pairwise fun earlier later =>
      earlier.span.start.offset.toNat < later.span.start.offset.toNat := by
  have offset {lexeme : Lexeme} {token : Token} (scanned : lexeme ∈ Lexeme.scan source)
      (known : lexeme.token? file = some token) :
      token.span.start.offset.toNat = lexeme.start := by
    obtain ⟨kind, found, rfl⟩ := Option.map_eq_some_iff.1 known
    have inside := start_of_mem_scanFrom scanned
    exact Position.ofByte_offset file (by omega)
  rw [tokenize, List.pairwise_append]
  refine ⟨?_, List.pairwise_singleton _ _, ?_⟩
  · rw [List.pairwise_filterMap]
    apply (pairwise_start_scanFrom 0 source.toList).imp_of_mem
    intro earlier later first second before token known other knownToo
    rwa [offset first known, offset second knownToo]
  · intro token member last here
    obtain ⟨lexeme, scanned, known⟩ := List.mem_filterMap.1 member
    have inside := start_of_mem_scanFrom scanned
    have stop : last.span.start.offset.toNat = byteLength source.toList := by
      rw [List.mem_singleton.1 here]
      exact Position.ofByte_offset file small
    rw [offset scanned known, stop]
    omega

end ScriptFrontend
