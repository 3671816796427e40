/-
This file shows that the ordered patterns cut off the longest lexeme everywhere.
-/

import Mathlib.Data.Nat.Find
import ScriptFrontend.Proofs.Lexeme.Layout

namespace ScriptFrontend

open Text

namespace Lexeme

/-- The first character of a lexeme tells its family. -/
inductive Family where
  | word
  | number
  | blank
  | mark
  deriving DecidableEq

namespace Family

def isLetter (c : Char) : Bool :=
  ('a' ≤ c && c ≤ 'z') || ('A' ≤ c && c ≤ 'Z') || c == '_'

def isNumeral (c : Char) : Bool :=
  '0' ≤ c && c ≤ '9'

def ofFirst (first : Char) : Family :=
  if isLetter first then .word
  else if isNumeral first then .number
  else if isBlank first then .blank
  else .mark

/-- The texts of the marks in no particular order. -/
def marks : List (String × Token.Kind) :=
  [("=", .assignment), ("==", .equals), ("!", .not), ("!=", .notEquals), ("<", .less),
    (">", .greater), ("+", .plus), ("-", .dash), ("*", .star), ("/", .slash), (",", .comma),
    (";", .semicolon), ("(", .openParen), (")", .closeParen), ("\x7b", .openCurly),
    ("\x7d", .closeCurly)]

/-- A family accepts a whole text, here its first character and the others, or does not. -/
def accepts (first : Char) (others : List Char) : Family → Bool
  | word => isLetter first && others.all fun c => isLetter c || isNumeral c
  | number => isNumeral first && others.all isNumeral
  | blank => isBlank first && others.all isBlank
  | mark => (marks.lookup (String.ofList (first :: others))).isSome

/-- The length behind the first character of the longest text that the family accepts. -/
def longest (family : Family) (first : Char) (rest : List Char) : Nat :=
  Nat.findGreatest (fun count => family.accepts first (rest.take count) = true) rest.length

/-- The kind is looked up for the text as a whole. -/
def kind? (text : List Char) : Family → Option Token.Kind
  | word => some ((Token.Kind.reservedWords.lookup (String.ofList text)).getD .identifier)
  | number => some .integer
  | blank => none
  | mark => some ((marks.lookup (String.ofList text)).getD .illegal)

end Family

/-- The longest lexeme of its family is taken at a time, without any order of patterns. -/
def munchFrom (file : String) (start : Nat) : List Char → List Token
  | [] => [Token.endAt (Position.ofByte start file)]
  | first :: rest =>
    let family := Family.ofFirst first
    let extent := family.longest first rest
    let text := first :: rest.take extent
    let stop := start + byteLength text
    let token? := (family.kind? text).map fun kind =>
      ⟨kind, String.ofList text, Span.ofBytes start stop file⟩
    token?.toList ++ munchFrom file stop (rest.drop extent)
  termination_by text => text.length
  decreasing_by simp only [List.length_cons, List.length_drop]; omega

namespace Family

theorem longest_eq_of_all {family : Family} {first : Char} {condition : Char → Bool}
    (uniform : ∀ others, family.accepts first others = others.all condition) (rest : List Char) :
    family.longest first rest = (rest.takeWhile condition).length := by
  refine Nat.findGreatest_eq_iff.2 ⟨(List.takeWhile_prefix condition).length_le, fun _ => ?_, ?_⟩
  · rw [uniform, take_length_takeWhile]
    exact List.all_takeWhile
  · intro count above below accepted
    -- A run of more characters would be a part of the run that is taken.
    have all : ∀ c ∈ rest.take count, condition c = true := by
      rw [uniform] at accepted
      exact List.all_eq_true.1 accepted
    have part : rest.take count <+: rest.takeWhile condition := by
      conv_rhs => rw [← List.take_append_drop count rest]
      rw [List.takeWhile_append_of_pos all]
      exact List.prefix_append _ _
    have bound := part.length_le
    rw [List.length_take, Nat.min_eq_left below] at bound
    omega

theorem isLetter_eq : isLetter = isWordStart := by
  funext c
  have upper : c.isUpper = (decide ('A' ≤ c) && decide (c ≤ 'Z')) := by
    simp only [Char.le_def, ← Bool.decide_and]
    rfl
  have lower : c.isLower = (decide ('a' ≤ c) && decide (c ≤ 'z')) := by
    simp only [Char.le_def]
    rfl
  have letter : c.isAlpha = (c.isUpper || c.isLower) := rfl
  rw [isLetter, isWordStart, letter, upper, lower, Bool.or_comm (_ && _)]

theorem isNumeral_eq : isNumeral = Char.isDigit := by
  funext c
  simp [isNumeral, Char.isDigit, Char.le_def]

theorem isLetter_or_isNumeral : (fun c => isLetter c || isNumeral c) = isWordPart := by
  funext c
  rw [isLetter_eq, isNumeral_eq, isWordStart, isWordPart, Char.isAlphanum, Bool.or_assoc,
    Bool.or_assoc, Bool.or_comm (c == '_')]

/-- Every mark of the ordered patterns is listed. -/
theorem lookup_marks_patterns : ∀ pattern ∈ patterns,
    (match pattern with
    | .mark kind first others => marks.lookup (String.ofList (first :: others)) == some kind
    | _ => true) = true := by
  decide +kernel

/-- Every listed mark is one of the ordered patterns. -/
theorem patterns_marks : ∀ entry ∈ marks, (patterns.any fun
    | .mark kind first others => String.ofList (first :: others) == entry.1 && kind == entry.2
    | _ => false) = true := by
  decide +kernel

theorem lookup_of_listed {kind : Token.Kind} {first : Char} {others : List Char}
    (listed : .mark kind first others ∈ patterns) :
    marks.lookup (String.ofList (first :: others)) = some kind := by
  have found := lookup_marks_patterns _ listed
  exact beq_iff_eq.1 found

theorem listed_of_lookup {kind : Token.Kind} {first : Char} {others : List Char}
    (found : marks.lookup (String.ofList (first :: others)) = some kind) :
    .mark kind first others ∈ patterns := by
  obtain ⟨before, after, split, -⟩ := List.lookup_eq_some_iff.1 found
  have member : (String.ofList (first :: others), kind) ∈ marks := by simp [split]
  obtain ⟨pattern, listed, same⟩ := List.any_eq_true.1 (patterns_marks _ member)
  cases pattern with
  | word | number | blank => cases same
  | mark other initial rest =>
    simp only [Bool.and_eq_true, beq_iff_eq, String.ofList_inj, List.cons.injEq] at same
    obtain ⟨⟨rfl, rfl⟩, rfl⟩ := same
    exact listed

theorem isWordStart_of_word {first : Char} (family : ofFirst first = .word) :
    isWordStart first = true := by
  rw [ofFirst, isLetter_eq] at family
  split_ifs at family
  assumption

theorem isDigit_of_number {first : Char} (family : ofFirst first = .number) :
    first.isDigit = true := by
  rw [ofFirst, isNumeral_eq] at family
  split_ifs at family
  assumption

theorem isBlank_of_blank {first : Char} (family : ofFirst first = .blank) :
    isBlank first = true := by
  rw [ofFirst] at family
  split_ifs at family
  assumption

theorem other_of_mark {first : Char} (family : ofFirst first = .mark) :
    isWordStart first = false ∧ first.isDigit = false ∧ isBlank first = false := by
  rw [ofFirst, isLetter_eq, isNumeral_eq] at family
  split_ifs at family with start digit blank
  exact ⟨Bool.eq_false_iff.2 start, Bool.eq_false_iff.2 digit, Bool.eq_false_iff.2 blank⟩

end Family

def Pattern.spelling? : Pattern → Option (List Char)
  | .mark _ first others => some (first :: others)
  | _ => none

/-- A mark that begins with another mark comes before it. -/
theorem patterns_ordered : patterns.Pairwise fun earlier later =>
    ∀ text ∈ later.spelling?, ∀ front ∈ earlier.spelling?, front <+: text → front = text := by
  simp only [patterns, Pattern.spelling?]
  decide

theorem eq_mark_of_accepts {first : Char} {rest : List Char} {pattern : Pattern} {extent : Nat}
    (family : Family.ofFirst first = .mark) (reach : pattern.extent? first rest = some extent) :
    ∃ kind others, pattern = .mark kind first others ∧ others <+: rest ∧ others.length = extent := by
  obtain ⟨noStart, noDigit, noBlank⟩ := Family.other_of_mark family
  cases pattern with
  | word => simp [Pattern.extent?, noStart] at reach
  | number => simp [Pattern.extent?, noDigit] at reach
  | blank => simp [Pattern.extent?, noBlank] at reach
  | mark kind initial others =>
    rw [Pattern.extent?] at reach
    split at reach
    · next matched =>
      obtain ⟨rfl, front⟩ := matched
      exact ⟨kind, others, rfl, List.isPrefixOf_iff_prefix.1 front, Option.some.inj reach⟩
    · cases reach

/-- The first mark that begins a text is the longest one that does. -/
theorem length_le_of_classify {first : Char} {rest others : List Char} {form : Form} {extent : Nat}
    {kind : Token.Kind} (family : Family.ofFirst first = .mark)
    (classified : classify first rest = (form, extent))
    (listed : .mark kind first others ∈ patterns) (front : others <+: rest) :
    others.length ≤ extent := by
  have accepts : (Pattern.mark kind first others).extent? first rest = some others.length :=
    if_pos ⟨rfl, List.isPrefixOf_iff_prefix.2 front⟩
  rw [classify] at classified
  cases found : patterns.findSome? fun pattern =>
      (pattern.extent? first rest).map fun extent => (pattern.form, extent) with
  | none =>
    have refuses := List.findSome?_eq_none_iff.1 found _ listed
    rw [accepts] at refuses
    cases refuses
  | some pair =>
    rw [found] at classified
    obtain rfl : pair = (form, extent) := classified
    obtain ⟨before, pattern, after, split, accepted, refused⟩ :=
      List.findSome?_eq_some_iff.1 found
    obtain ⟨length, reach, same⟩ := Option.map_eq_some_iff.1 accepted
    obtain ⟨other, shorter, rfl, fits, rfl⟩ := eq_mark_of_accepts family reach
    cases same
    have ordered := patterns_ordered
    rw [split] at listed ordered
    by_contra longer
    have begins : shorter <+: others := List.prefix_of_prefix_length_le fits front (by omega)
    rcases List.mem_append.1 listed with early | here
    · have refuses := refused _ early
      rw [accepts] at refuses
      cases refuses
    rcases List.mem_cons.1 here with same | late
    · cases same
      exact longer (Nat.le_refl _)
    · have apart := (List.pairwise_cons.1 (List.pairwise_append.1 ordered).2.1).1 _ late
      have same := apart _ rfl _ rfl (List.cons_prefix_cons.2 ⟨rfl, begins⟩)
      rw [(List.cons.inj same).2] at longer
      exact longer (Nat.le_refl _)

/-- A character without a family of its own begins the longest listed mark or is illegal. -/
theorem longest_mark {first : Char} {rest : List Char} {form : Form} {extent : Nat}
    (family : Family.ofFirst first = .mark)
    (classified : classify first rest = (form, extent)) (start : Nat) :
    Family.mark.longest first rest = extent ∧
      Family.mark.kind? (first :: rest.take extent) =
        kind? ⟨form, first :: rest.take extent, start⟩ := by
  have bound (count : Nat) (below : count ≤ rest.length)
      (accepted : Family.mark.accepts first (rest.take count) = true) : count ≤ extent := by
    obtain ⟨kind, found⟩ := Option.isSome_iff_exists.1 accepted
    have longest := length_le_of_classify family classified (Family.listed_of_lookup found)
      (List.take_prefix count rest)
    rwa [List.length_take, Nat.min_eq_left below] at longest
  obtain ⟨rfl, rfl⟩ | ⟨pattern, listed, rfl, reach⟩ := accepted_of_classify classified
  · have unlisted : Family.marks.lookup (String.ofList [first]) = none := by
      refine Option.eq_none_iff_forall_ne_some.2 fun kind found => ?_
      have refused := refuses_of_illegal classified _ (Family.listed_of_lookup found)
      simp [Pattern.extent?] at refused
    refine ⟨Nat.findGreatest_eq_iff.2 ⟨Nat.zero_le _, fun some => absurd rfl some, ?_⟩, ?_⟩
    · intro count above below accepted
      have least := bound count below accepted
      omega
    · rw [List.take_zero, Family.kind?, unlisted]
      rfl
  · obtain ⟨kind, others, rfl, front, rfl⟩ := eq_mark_of_accepts family reach
    have found := Family.lookup_of_listed listed
    have taken : rest.take others.length = others := (List.prefix_iff_eq_take.1 front).symm
    refine ⟨Nat.findGreatest_eq_iff.2 ⟨front.length_le, fun _ => ?_, ?_⟩, ?_⟩
    · rw [taken, Family.accepts, found]
      rfl
    · intro count above below accepted
      have least := bound count below accepted
      omega
    · rw [taken, Family.kind?, found]
      rfl

/-- What the patterns classify is the longest lexeme of its family. -/
theorem longest_of_classify {first : Char} {rest : List Char} {form : Form} {extent : Nat}
    (classified : classify first rest = (form, extent)) (start : Nat) :
    (Family.ofFirst first).longest first rest = extent ∧
      (Family.ofFirst first).kind? (first :: rest.take extent) =
        kind? ⟨form, first :: rest.take extent, start⟩ := by
  cases family : Family.ofFirst first with
  | word =>
    have letter := Family.isWordStart_of_word family
    rw [classify_letter rest letter] at classified
    cases classified
    refine ⟨Family.longest_eq_of_all (fun others => ?_) rest, rfl⟩
    rw [Family.accepts, Family.isLetter_or_isNumeral, Family.isLetter_eq, letter, Bool.true_and]
  | number =>
    have digit := Family.isDigit_of_number family
    rw [classify_digit rest digit] at classified
    cases classified
    refine ⟨Family.longest_eq_of_all (fun others => ?_) rest, rfl⟩
    rw [Family.accepts, Family.isNumeral_eq, digit, Bool.true_and]
  | blank =>
    have blank := Family.isBlank_of_blank family
    rw [classify_blank rest blank] at classified
    cases classified
    refine ⟨Family.longest_eq_of_all (fun others => ?_) rest, rfl⟩
    rw [Family.accepts, blank, Bool.true_and]
  | mark => exact longest_mark family classified start

theorem munchFrom_eq (file : String) (start : Nat) (text : List Char) :
    munchFrom file start text =
      (scanFrom start text).filterMap (token? file) ++
        [Token.endAt (Position.ofByte (start + byteLength text) file)] := by
  fun_induction scanFrom start text with
  | case1 start => simp [munchFrom]
  | case2 start first rest form extent classified text ih =>
    obtain ⟨longest, known⟩ := longest_of_classify classified start
    have split : first :: rest = text ++ rest.drop extent := by simp [text]
    have whole : start + byteLength (first :: rest) =
        start + byteLength text + byteLength (rest.drop extent) := by
      rw [split, byteLength_append, Nat.add_assoc]
    rw [munchFrom, longest, whole, List.filterMap_cons, token?, known, ih]
    cases kind? ⟨form, text, start⟩ <;> rfl

end Lexeme

/-- The tokens of a script are those that a scan for the longest lexemes cuts off. -/
theorem tokenize_eq_munchFrom (source file : String) :
    tokenize source file = Lexeme.munchFrom file 0 source.toList := by
  rw [Lexeme.munchFrom_eq, Nat.zero_add]
  rfl

end ScriptFrontend
