/-
This file shows that a text is cut into tokens on both sides of a blank independently.
-/

import ScriptFrontend.Proofs.Lexeme.Layout

namespace ScriptFrontend

open Text

/-- A position moves on by a number of bytes, and its offset wraps around at 32 bits. -/
def Position.shift (count : Nat) (position : Position) : Position :=
  { position with offset := position.offset + UInt32.ofNat count }

/-- The same token stands a number of bytes further on. -/
def Token.shift (count : Nat) (token : Token) : Token :=
  { token with span := ⟨token.span.start.shift count, token.span.stop.shift count⟩ }

theorem Position.ofByte_add (byte count : Nat) (file : String) :
    Position.ofByte (byte + count) file = (Position.ofByte byte file).shift count := by
  rw [Position.ofByte, UInt32.ofNat_add]
  rfl

namespace Lexeme

theorem takeWhile_append_of_head {condition : Char → Bool} {tail : List Char}
    (stops : ∀ c ∈ tail.head?, condition c = false) (text : List Char) :
    (text ++ tail).takeWhile condition = text.takeWhile condition := by
  have nothing : tail.takeWhile condition = [] := by
    cases tail with
    | nil => rfl
    | cons c tail => exact List.takeWhile_cons_of_neg (by simp [stops c rfl])
  induction text with
  | nil => exact nothing
  | cons c text ih => rw [List.cons_append, List.takeWhile_cons, List.takeWhile_cons, ih]

theorem prefix_append_iff_of_head {others tail : List Char}
    (foreign : ∀ c ∈ tail.head?, c ∉ others) (text : List Char) :
    others <+: text ++ tail ↔ others <+: text := by
  refine ⟨fun front => ?_, fun front => front.trans (List.prefix_append text tail)⟩
  rcases List.prefix_or_prefix_of_prefix front (List.prefix_append text tail) with within | beyond
  · exact within
  · obtain ⟨more, rfl⟩ := beyond
    have inside : more <+: tail := (List.prefix_append_right_inj text).1 front
    cases more with
    | nil => simp
    | cons c more =>
      obtain ⟨rest, rfl⟩ := inside
      exact absurd (List.mem_append_right text List.mem_cons_self) (foreign c rfl)

/-- No pattern looks across a blank that it does not begin with. -/
theorem extent?_append {first : Char} {tail : List Char} {pattern : Pattern}
    (listed : pattern ∈ patterns) (solid : isBlank first = false)
    (blank : ∀ c ∈ tail.head?, isBlank c = true) (rest : List Char) :
    pattern.extent? first (rest ++ tail) = pattern.extent? first rest := by
  cases pattern with
  | word =>
    have stops : ∀ c ∈ tail.head?, isWordPart c = false := by
      intro c here
      refine Bool.eq_false_iff.2 fun part => ?_
      have white := blank c here
      rw [isBlank_eq_false_of_isWordPart part] at white
      cases white
    rw [Pattern.extent?, Pattern.extent?, takeWhile_append_of_head stops]
  | number =>
    have stops : ∀ c ∈ tail.head?, c.isDigit = false :=
      fun c here => isDigit_of_isBlank (blank c here)
    rw [Pattern.extent?, Pattern.extent?, takeWhile_append_of_head stops]
  | blank => simp [Pattern.extent?, solid]
  | mark kind initial others =>
    have foreign : ∀ c ∈ tail.head?, c ∉ others := by
      intro c here member
      have white := blank c here
      rw [(Spells.mark listed).solid c (List.mem_cons_of_mem initial member)] at white
      cases white
    simp only [Pattern.extent?, List.isPrefixOf_iff_prefix, prefix_append_iff_of_head foreign]

theorem classify_append {first : Char} {tail : List Char} (solid : isBlank first = false)
    (blank : ∀ c ∈ tail.head?, isBlank c = true) (rest : List Char) :
    classify first (rest ++ tail) = classify first rest :=
  classify_congr fun _ listed => extent?_append listed solid blank rest

/-- The tokens of a text that starts at the given byte. -/
def tokensFrom (file : String) (start : Nat) (text : List Char) : List Token :=
  (scanFrom start text).filterMap (token? file)

theorem tokensFrom_cons {first : Char} {rest : List Char} {form : Form} {extent : Nat}
    (classified : classify first rest = (form, extent)) (file : String) (start : Nat) :
    tokensFrom file start (first :: rest) =
      (token? file ⟨form, first :: rest.take extent, start⟩).toList ++
        tokensFrom file (start + byteLength (first :: rest.take extent)) (rest.drop extent) := by
  rw [tokensFrom, scanFrom, classified]
  dsimp only
  rw [List.filterMap_cons]
  cases token? file ⟨form, first :: rest.take extent, start⟩ <;> rfl

/-- A scan that begins with a blank may as well begin behind it. -/
theorem tokensFrom_blank {c : Char} (blank : isBlank c = true) (file : String) (start : Nat)
    (rest : List Char) :
    tokensFrom file start (c :: rest) = tokensFrom file (start + c.utf8Size) rest := by
  have skip {c : Char} (blank : isBlank c = true) (start : Nat) (rest : List Char) :
      tokensFrom file start (c :: rest) =
        tokensFrom file (start + c.utf8Size + byteLength (rest.takeWhile isBlank))
          (rest.dropWhile isBlank) := by
    rw [tokensFrom_cons (classify_blank rest blank), drop_length_takeWhile, take_length_takeWhile,
      byteLength_cons, ← Nat.add_assoc]
    rfl
  rw [skip blank]
  cases rest with
  | nil => rfl
  | cons next rest =>
    by_cases again : isBlank next = true
    · rw [List.dropWhile_cons_of_pos again, List.takeWhile_cons_of_pos again, skip again,
        byteLength_cons, ← Nat.add_assoc]
    · rw [List.dropWhile_cons_of_neg again, List.takeWhile_cons_of_neg again]
      rfl

theorem tokensFrom_gap {gap : List Char} (blank : ∀ c ∈ gap, isBlank c = true) (file : String)
    (start : Nat) (rest : List Char) :
    tokensFrom file start (gap ++ rest) = tokensFrom file (start + byteLength gap) rest := by
  induction gap generalizing start with
  | nil => rfl
  | cons c gap ih =>
    obtain ⟨first, others⟩ := List.forall_mem_cons.1 blank
    rw [List.cons_append, tokensFrom_blank first, ih others, byteLength_cons, Nat.add_assoc]

/-- The scan of a text does not depend on what comes behind it from a blank on. -/
theorem tokensFrom_append {tail : List Char} (blank : ∀ c ∈ tail.head?, isBlank c = true)
    (file : String) (start : Nat) (text : List Char) :
    tokensFrom file start (text ++ tail) =
      tokensFrom file start text ++ tokensFrom file (start + byteLength text) tail := by
  induction length : text.length using Nat.strongRecOn generalizing text start with
  | ind length ih =>
    cases text with
    | nil => simp [tokensFrom, scanFrom]
    | cons first rest =>
      subst length
      by_cases white : isBlank first = true
      · rw [List.cons_append, tokensFrom_blank white, tokensFrom_blank white,
          ih rest.length (by simp) _ rest rfl, byteLength_cons, Nat.add_assoc]
      · cases classified : classify first rest with
        | mk form extent =>
          have inside := extent_le_of_classify classified
          have longer := classified
          rw [← classify_append (Bool.eq_false_iff.2 white) blank] at longer
          have whole : byteLength (first :: rest) =
              byteLength (first :: rest.take extent) + byteLength (rest.drop extent) := by
            rw [← byteLength_append, List.cons_append, List.take_append_drop]
          have shorter : (rest.drop extent).length < (first :: rest).length := by
            rw [List.length_drop, List.length_cons]
            omega
          rw [List.cons_append, tokensFrom_cons longer, tokensFrom_cons classified,
            List.take_append_of_le_length inside, List.drop_append_of_le_length inside,
            ih _ shorter _ _ rfl, whole, List.append_assoc, Nat.add_assoc]

/-- A scan that begins a number of bytes further on finds the same tokens there. -/
theorem tokensFrom_add (file : String) (start count : Nat) (text : List Char) :
    tokensFrom file (start + count) text =
      (tokensFrom file start text).map (Token.shift count) := by
  have moved (form : Form) (text : List Char) (start : Nat) :
      token? file ⟨form, text, start + count⟩ =
        (token? file ⟨form, text, start⟩).map (Token.shift count) := by
    rw [token?, token?, Option.map_map]
    refine congrArg (fun make => (kind? ⟨form, text, start⟩).map make) (funext fun kind => ?_)
    simp only [Function.comp_apply, Token.shift, Span.ofBytes, stop, Nat.add_right_comm _ count,
      Position.ofByte_add _ count]
  fun_induction scanFrom start text with
  | case1 start => simp [tokensFrom, scanFrom]
  | case2 start first rest form extent classified text ih =>
    rw [tokensFrom_cons classified, tokensFrom_cons classified, List.map_append, ← ih, moved,
      Nat.add_right_comm]
    cases token? file ⟨form, text, start⟩ <;> rfl

end Lexeme

theorem dropLast_tokenize (source file : String) :
    (tokenize source file).dropLast = Lexeme.tokensFrom file 0 source.toList :=
  List.dropLast_concat

/-- Blanks between two texts keep their tokens apart, and the tokens of the second text stand behind
the first text and the blanks. -/
theorem tokenize_append_blank (first second file : String) {gap : String} (nonempty : gap ≠ "")
    (blank : ∀ c ∈ gap.toList, isBlank c = true) :
    tokenize (first ++ gap ++ second) file =
      (tokenize first file).dropLast ++
        (tokenize second file).map (Token.shift (byteLength (first ++ gap).toList)) := by
  have seam : ∀ c ∈ (gap.toList ++ second.toList).head?, isBlank c = true := by
    intro c here
    rw [List.head?_append_of_ne_nil _ (by simpa using nonempty)] at here
    exact blank c (List.mem_of_mem_head? here)
  have tokens : Lexeme.tokensFrom file 0 (first ++ gap ++ second).toList =
      (tokenize first file).dropLast ++
        (Lexeme.tokensFrom file 0 second.toList).map
          (Token.shift (byteLength (first ++ gap).toList)) := by
    rw [dropLast_tokenize, String.toList_append, String.toList_append, List.append_assoc,
      Lexeme.tokensFrom_append seam, Lexeme.tokensFrom_gap blank, byteLength_append, Nat.add_assoc,
      Lexeme.tokensFrom_add]
  have ending : Token.endAt (Position.ofByte (byteLength (first ++ gap ++ second).toList) file) =
      (Token.endAt (Position.ofByte (byteLength second.toList) file)).shift
        (byteLength (first ++ gap).toList) := by
    rw [String.toList_append, byteLength_append, Nat.add_comm, Position.ofByte_add]
    rfl
  change Lexeme.tokensFrom file 0 (first ++ gap ++ second).toList ++ [_] = _
  rw [tokens, ending, List.append_assoc, ← List.map_singleton, ← List.map_append]
  rfl

theorem tokenize_append_newline : " \n" ≠ "" ∧ (∀ c ∈ " \n".toList, isBlank c = true) ∧
    tokenize ("é=" ++ " \n" ++ "= 1") defaultFile =
      (tokenize "é=" defaultFile).dropLast ++
        (tokenize "= 1" defaultFile).map (Token.shift (byteLength ("é=" ++ " \n").toList)) :=
  ⟨by decide, List.all_eq_true.1 (by decide),
    tokenize_append_blank "é=" "= 1" defaultFile (by decide) (List.all_eq_true.1 (by decide))⟩

end ScriptFrontend
