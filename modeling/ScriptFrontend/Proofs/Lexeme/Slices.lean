/-
This file shows that a slice of a text from one token to another has the same tokens alone.
-/

import ScriptFrontend.Proofs.Lexeme.Layout

namespace ScriptFrontend

open Text

/-- The elements that a function keeps come from a middle part of a list that begins and ends with
two of them. -/
theorem List.exists_middle_of_filterMap {α β : Type} {keep : α → Option β} {all : List α}
    {kept : List β} (same : all.filterMap keep = kept) (present : kept ≠ []) :
    ∃ front middle back first last, all = front ++ (middle ++ back) ∧
      middle.filterMap keep = kept ∧ middle.head? = some first ∧ keep first = kept.head? ∧
      middle.getLast? = some last ∧ keep last = kept.getLast? := by
  obtain ⟨head, others, rfl⟩ := List.exists_cons_of_ne_nil present
  obtain ⟨front, first, rest, rfl, -, found, behind⟩ := List.filterMap_eq_cons_iff.1 same
  obtain rfl | ⟨inner, final, rfl⟩ := List.eq_nil_or_concat others
  · refine ⟨front, [first], rest, first, first, rfl, ?_, rfl, found, rfl, found⟩
    simp [found]
  · rw [List.concat_eq_append] at behind ⊢
    obtain ⟨between, ending, rfl, keptBetween, keptEnding⟩ := List.filterMap_eq_append_iff.1 behind
    obtain ⟨skipped, last, back, rfl, skips, foundLast, nothing⟩ :=
      List.filterMap_eq_cons_iff.1 keptEnding
    refine ⟨front, first :: (between ++ skipped ++ [last]), back, first, last, by simp, ?_, rfl,
      found, ?_, ?_⟩
    · simp [found, keptBetween, List.filterMap_eq_nil_iff.2 skips, foundLast]
    · rw [List.getLast?_cons, List.getLast?_append]
      rfl
    · rw [foundLast, List.getLast?_cons, List.getLast?_append]
      rfl

namespace Lexeme

/-- How far a run of characters goes depends on the first character behind it only. -/
theorem takeWhile_append_of_head_eq {condition : Char → Bool} {others rest behind : List Char}
    (run : ((others ++ rest).takeWhile condition).length = others.length)
    (same : behind.head? = rest.head?) :
    ((others ++ behind).takeWhile condition).length = others.length := by
  have stops : rest.takeWhile condition = [] → behind.takeWhile condition = [] := by
    cases rest with
    | nil =>
      rw [List.head?_nil, List.head?_eq_none_iff] at same
      rw [same]
      exact id
    | cons c rest =>
      obtain ⟨more, rfl⟩ := List.head?_eq_some_iff.1 same
      by_cases goesOn : condition c = true <;> simp [goesOn]
  rw [List.takeWhile_append] at run ⊢
  split at run
  · next all =>
    rw [List.length_append] at run
    rw [if_pos all, stops (List.length_eq_zero_iff.1 (by omega)), List.append_nil]
  · next short => exact absurd run short

/-- A mark has at most one character behind its first one. -/
theorem length_patterns : ∀ pattern ∈ patterns,
    (match pattern with
    | .mark _ _ others => decide (others.length ≤ 1)
    | _ => true) = true := by
  decide

theorem isPrefixOf_of_head_eq {marks text other : List Char} (short : marks.length ≤ 1)
    (same : text.head? = other.head?) : marks.isPrefixOf text = marks.isPrefixOf other := by
  match marks, short with
  | [], _ => rfl
  | [c], _ => cases text <;> cases other <;> simp at same <;> simp [List.isPrefixOf, same]

/-- The first lexeme of a text depends on one character behind it only. -/
theorem classify_of_head_eq {first : Char} {others rest behind : List Char} {form : Form}
    (classified : classify first (others ++ rest) = (form, others.length))
    (same : behind.head? = rest.head?) :
    classify first (others ++ behind) = (form, others.length) := by
  by_cases start : isWordStart first = true
  · rw [classify_letter _ start, Prod.mk.injEq] at classified ⊢
    exact ⟨classified.1, takeWhile_append_of_head_eq classified.2 same⟩
  by_cases digit : first.isDigit = true
  · rw [classify_digit _ digit, Prod.mk.injEq] at classified ⊢
    exact ⟨classified.1, takeWhile_append_of_head_eq classified.2 same⟩
  by_cases blank : isBlank first = true
  · rw [classify_blank _ blank, Prod.mk.injEq] at classified ⊢
    exact ⟨classified.1, takeWhile_append_of_head_eq classified.2 same⟩
  rw [← classified]
  apply classify_congr
  intro pattern listed
  cases pattern with
  | word => rw [Pattern.extent?, Pattern.extent?, if_neg start, if_neg start]
  | number => rw [Pattern.extent?, Pattern.extent?, if_neg digit, if_neg digit]
  | blank => rw [Pattern.extent?, Pattern.extent?, if_neg blank, if_neg blank]
  | mark kind initial marks =>
    have short : marks.length ≤ 1 := of_decide_eq_true (length_patterns _ listed)
    have heads : (others ++ behind).head? = (others ++ rest).head? := by
      rw [List.head?_append, List.head?_append, same]
    rw [Pattern.extent?, Pattern.extent?, isPrefixOf_of_head_eq short heads]

theorem text_ne_nil_of_mem_scanFrom {start : Nat} {text : List Char} :
    ∀ lexeme ∈ scanFrom start text, lexeme.text ≠ [] := by
  fun_induction scanFrom start text with
  | case1 => exact List.forall_mem_nil _
  | case2 start first rest form extent classified text ih =>
    exact List.forall_mem_cons.2 ⟨List.cons_ne_nil _ _, ih⟩

/-- The lexemes of a slice that ends with a token are cut off as in the whole text. -/
theorem outlines_flatMap {lexemes others : List Lexeme} {start : Nat} {text tail : List Char}
    (scanned : scanFrom start text = lexemes ++ others)
    (ended : ∀ last ∈ lexemes.getLast?, last.kind? ≠ none) (apart : Apart tail) :
    outlines (lexemes.flatMap Lexeme.text ++ tail) =
      lexemes.filterMap outline? ++ outlines tail := by
  induction lexemes generalizing start text with
  | nil => rfl
  | cons lexeme lexemes ih =>
    have member : lexeme ∈ scanFrom start text := by
      rw [scanned]
      exact List.mem_cons_self
    cases text with
    | nil => simp [scanFrom] at scanned
    | cons first chars =>
      cases classified : classify first chars with
      | mk form extent =>
        have inside := extent_le_of_classify classified
        rw [scanFrom, classified] at scanned
        obtain ⟨rfl, later⟩ := List.cons_eq_cons.1 scanned
        rw [List.append_eq] at later
        cases lexemes with
        | nil =>
          obtain ⟨kind, found⟩ := Option.ne_none_iff_exists'.1 (ended _ rfl)
          have known := congrArg (Option.map fun kind =>
            (⟨kind, String.ofList (first :: chars.take extent), .unknown⟩ : Token)) found
          have cut := outlines_append_of_mem_scanFrom member known apart
          have kept : List.filterMap outline? [⟨form, first :: chars.take extent, start⟩] = [_] :=
            List.filterMap_cons_some known
          rw [kept, List.flatMap_singleton, cut]
          rfl
        | cons next lexemes =>
          have follows := ih later (by simpa using ended)
          have solid : next.text ≠ [] := text_ne_nil_of_mem_scanFrom next (by
            rw [later]
            exact List.mem_cons_self)
          have behind := congrArg (List.flatMap Lexeme.text) later
          rw [flatMap_text_scanFrom] at behind
          -- The next lexeme begins with the same character in the slice and in the whole text.
          have heads : ((next :: lexemes).flatMap Lexeme.text ++ tail).head? =
              (chars.drop extent).head? := by
            obtain ⟨c, rest, same⟩ := List.exists_cons_of_ne_nil solid
            simp [behind, same]
          have length : (chars.take extent).length = extent := by
            rw [List.length_take, Nat.min_eq_left inside]
          have cut : classify first
              (chars.take extent ++ ((next :: lexemes).flatMap Lexeme.text ++ tail)) =
                (form, (chars.take extent).length) := by
            apply classify_of_head_eq _ heads
            rw [List.take_append_drop, length, classified]
          rw [List.flatMap_cons, List.append_assoc, List.cons_append, outlines_cons cut,
            List.take_left, List.drop_left, follows, ← List.append_assoc]
          have unplaced : outline? ⟨form, first :: chars.take extent, 0⟩ =
              outline? ⟨form, first :: chars.take extent, start⟩ := rfl
          generalize next :: lexemes = rest
          rw [unplaced, List.filterMap_cons]
          cases outline? ⟨form, first :: chars.take extent, start⟩ <;> rfl

/-- The scan goes on behind any of its lexemes as it would begin there. -/
theorem scanFrom_behind {front back : List Lexeme} {start : Nat} {text : List Char}
    (scanned : scanFrom start text = front ++ back) :
    scanFrom (start + byteLength (front.flatMap Lexeme.text)) (back.flatMap Lexeme.text) = back := by
  induction front generalizing start text with
  | nil =>
    have whole := flatMap_text_scanFrom start text
    rw [scanned, List.nil_append] at whole
    rw [whole, List.flatMap_nil, byteLength_nil, Nat.add_zero, scanned, List.nil_append]
  | cons lexeme front ih =>
    cases text with
    | nil => simp [scanFrom] at scanned
    | cons first chars =>
      cases classified : classify first chars with
      | mk form extent =>
        rw [scanFrom, classified] at scanned
        obtain ⟨rfl, later⟩ := List.cons_eq_cons.1 scanned
        have rest := ih later
        rwa [Nat.add_assoc, ← byteLength_append] at rest

theorem start_of_scanFrom {lexeme : Lexeme} {others : List Lexeme} {start : Nat} {text : List Char}
    (scanned : scanFrom start text = lexeme :: others) : lexeme.start = start := by
  cases text with
  | nil => simp [scanFrom] at scanned
  | cons first chars =>
    rw [scanFrom] at scanned
    exact congrArg Lexeme.start (List.cons_eq_cons.1 scanned).1.symm

theorem span_of_token? {lexeme : Lexeme} {file : String} {token : Token}
    (known : token? file lexeme = some token) :
    token.span = Span.ofBytes lexeme.start lexeme.stop file ∧ lexeme.kind? ≠ none := by
  obtain ⟨kind, found, rfl⟩ := Option.map_eq_some_iff.1 known
  exact ⟨rfl, by simp [found]⟩

end Lexeme

open Lexeme in
/-- Tokens in a row are cut out of a slice of their own, which runs from the first of them to the last
one. They are cut out again wherever the slice stands in front of a text apart. -/
theorem exists_slice {source file : String} {before own after : List Token}
    (split : beforeEnd (tokenize source file) = before ++ (own ++ after)) (present : own ≠ []) :
    ∃ front slice back : List Char, source.toList = front ++ (slice ++ back) ∧
      own.head?.map (fun token => token.span.start) =
        some (Position.ofByte (byteLength front) file) ∧
      own.getLast?.map (fun token => token.span.stop) =
        some (Position.ofByte (byteLength (front ++ slice)) file) ∧
      ∀ tail, Apart tail →
        outlines (slice ++ tail) = own.map Token.outline ++ outlines tail := by
  rw [beforeEnd_tokenize] at split
  obtain ⟨earlier, rest, whole, -, kept⟩ := List.filterMap_eq_append_iff.1 split
  obtain ⟨inner, later, rfl, keptInner, -⟩ := List.filterMap_eq_append_iff.1 kept
  obtain ⟨skipped, middle, trailing, first, last, rfl, keptMiddle, head, firstToken, final,
    lastToken⟩ := List.exists_middle_of_filterMap keptInner present
  have scanned : scanFrom 0 source.toList =
      (earlier ++ skipped) ++ (middle ++ (trailing ++ later)) := by
    change scan source = _
    simpa using whole
  rw [List.head?_eq_some_head present] at firstToken
  rw [List.getLast?_eq_some_getLast present] at lastToken
  obtain ⟨firstPlace, -⟩ := span_of_token? firstToken
  obtain ⟨lastPlace, lastKnown⟩ := span_of_token? lastToken
  refine ⟨(earlier ++ skipped).flatMap Lexeme.text, middle.flatMap Lexeme.text,
    (trailing ++ later).flatMap Lexeme.text, ?_, ?_, ?_, ?_⟩
  · rw [← List.flatMap_append, ← List.flatMap_append, ← scanned, flatMap_text_scanFrom]
  · obtain ⟨others, rfl⟩ := List.head?_eq_some_iff.1 head
    have start := start_of_scanFrom (scanFrom_behind scanned)
    rw [List.head?_eq_some_head present, Option.map_some, firstPlace, start, Nat.zero_add]
    rfl
  · obtain ⟨others, rfl⟩ := List.getLast?_eq_some_iff.1 final
    have regrouped : scanFrom 0 source.toList =
        (earlier ++ skipped ++ others) ++ last :: (trailing ++ later) := by
      rw [scanned]
      simp
    have start := start_of_scanFrom (scanFrom_behind regrouped)
    rw [List.getLast?_eq_some_getLast present, Option.map_some, lastPlace, stop, start, Nat.zero_add]
    simp [Span.ofBytes, Nat.add_assoc]
  · intro tail apart
    rw [outlines_flatMap (scanFrom_behind scanned) _ apart, ← keptMiddle, List.map_filterMap]
    · simp only [map_outline_token?]
    · rw [final]
      rintro _ ⟨⟩
      exact lastKnown

end ScriptFrontend
