/-
This file shows that the tokens of a script and the blanks between them make up the script.
-/

import Mathlib.Data.List.Forall2
import ScriptFrontend.Proofs.Lexeme.Tokenization

namespace ScriptFrontend

namespace Text

/-- The character whose encoding holds a byte of the text. -/
def holder? : Nat → List Char → Option Char
  | _, [] => none
  | byte, c :: rest => if byte < c.utf8Size then some c else holder? (byte - c.utf8Size) rest

theorem holder?_append (first second : List Char) (byte : Nat) :
    holder? byte (first ++ second) =
      if byte < byteLength first then holder? byte first
      else holder? (byte - byteLength first) second := by
  induction first generalizing byte with
  | nil => simp
  | cons c rest ih =>
    rw [List.cons_append, holder?, holder?, byteLength_cons]
    by_cases here : byte < c.utf8Size
    · rw [if_pos here, if_pos here, if_pos (by omega)]
    · rw [if_neg here, if_neg here, ih]
      by_cases inside : byte < c.utf8Size + byteLength rest
      · rw [if_pos inside, if_pos (by omega)]
      · rw [if_neg inside, if_neg (by omega), Nat.sub_add_eq]

/-- Every byte of a text belongs to one of its characters. -/
theorem exists_holder? {text : List Char} {byte : Nat} (inside : byte < byteLength text) :
    ∃ c ∈ text, holder? byte text = some c := by
  induction text generalizing byte with
  | nil => simp at inside
  | cons c rest ih =>
    rw [byteLength_cons] at inside
    rw [holder?]
    by_cases here : byte < c.utf8Size
    · exact ⟨c, List.mem_cons_self, if_pos here⟩
    · obtain ⟨other, member, found⟩ := ih (show byte - c.utf8Size < byteLength rest by omega)
      exact ⟨other, List.mem_cons_of_mem c member, by rw [if_neg here, found]⟩

theorem byteLength_pos {text : List Char} (nonempty : text ≠ []) : 0 < byteLength text := by
  obtain ⟨c, rest, rfl⟩ := List.exists_cons_of_ne_nil nonempty
  have positive := c.utf8Size_pos
  rw [byteLength_cons]
  omega

end Text

namespace Lexeme

open Text

theorem isBlank_eq_false_of_isWordPart {c : Char} (part : isWordPart c = true) :
    isBlank c = false := by
  refine Bool.eq_false_iff.2 fun blank => ?_
  have noStart := isWordStart_of_isBlank blank
  have noDigit := isDigit_of_isBlank blank
  simp only [isWordStart, Bool.or_eq_false_iff] at noStart
  simp [isWordPart, Char.isAlphanum, noStart, noDigit] at part

theorem isBlank_patterns : ∀ pattern ∈ patterns,
    (match pattern with
    | .mark _ first others => (first :: others).all fun c => !isBlank c
    | _ => true) = true := by
  decide

/-- No text of a token has a blank in it. -/
theorem Spells.solid {kind : Token.Kind} {text : List Char} (spells : Spells kind text) :
    ∀ c ∈ text, isBlank c = false := by
  cases spells with
  | @word first others start parts =>
    refine List.forall_mem_cons.2 ⟨?_, fun c member => isBlank_eq_false_of_isWordPart (parts c member)⟩
    refine Bool.eq_false_iff.2 fun blank => ?_
    rw [isWordStart_of_isBlank blank] at start
    cases start
  | @number first others start digits =>
    have digit : ∀ c ∈ first :: others, c.isDigit = true := List.forall_mem_cons.2 ⟨start, digits⟩
    exact fun c member => isBlank_eq_false_of_isWordPart (isWordPart_of_isDigit (digit c member))
  | @mark kind first others listed =>
    have solid := isBlank_patterns _ listed
    simpa using solid

/-- Only the first character decides whether a lexeme is blank. -/
theorem isBlank_of_classify {first : Char} {rest : List Char} {extent : Nat}
    (classified : classify first rest = (.blank, extent)) : isBlank first = true := by
  obtain ⟨illegal, -⟩ | ⟨pattern, -, same, reach⟩ := accepted_of_classify classified
  · cases illegal
  · cases pattern with
    | blank =>
      rw [Pattern.extent?] at reach
      split at reach
      · assumption
      · cases reach
    | word | number | mark => cases same

theorem extent_eq_zero_of_illegal {first : Char} {rest : List Char} {extent : Nat}
    (classified : classify first rest = (.illegal, extent)) : extent = 0 := by
  obtain ⟨-, nothing⟩ | ⟨pattern, -, same, -⟩ := accepted_of_classify classified
  · exact nothing
  · cases pattern <;> cases same

/-- A lexeme is blank as a whole or has no blank in it. -/
theorem isBlank_eq_of_classify {first : Char} {rest : List Char} {form : Form} {extent : Nat}
    (classified : classify first rest = (form, extent)) :
    ∀ c ∈ first :: rest.take extent, isBlank c = decide (form = .blank) := by
  by_cases blank : isBlank first = true
  · rw [classify_blank rest blank] at classified
    cases classified
    rw [take_length_takeWhile]
    exact List.forall_mem_cons.2 ⟨blank, List.all_eq_true.1 List.all_takeWhile⟩
  · have other : form ≠ .blank := by
      rintro rfl
      exact blank (isBlank_of_classify classified)
    rw [decide_eq_false other]
    cases form with
    | blank => exact absurd rfl other
    | illegal =>
      rw [extent_eq_zero_of_illegal classified]
      exact List.forall_mem_cons.2 ⟨Bool.eq_false_iff.2 blank, List.forall_mem_nil _⟩
    | word => exact (@spells_of_classify _ _ _ _ 0 _ classified rfl nofun).solid
    | number => exact (@spells_of_classify _ _ _ _ 0 _ classified rfl nofun).solid
    | mark kind => exact (@spells_of_classify _ _ _ _ 0 _ classified rfl nofun).solid

end Lexeme

open Text

/-- An extent runs from a first byte to just after a last one, however far these are. -/
structure Extent where
  start : Nat
  stop : Nat
  deriving DecidableEq

namespace Extent

def Holds (extent : Extent) (byte : Nat) : Prop :=
  extent.start ≤ byte ∧ byte < extent.stop

def span (extent : Extent) (file : String) : Span :=
  Span.ofBytes extent.start extent.stop file

end Extent

/-- Tokens with extents tile a text that starts at some byte. A token comes behind a gap of blanks,
and the end mark comes behind the last gap. -/
inductive Tiles (file : String) : Nat → List Char → List Token → List Extent → Prop where
  | ended {start : Nat} {gap : List Char} (blank : ∀ c ∈ gap, isBlank c = true) :
      Tiles file start gap [Token.endAt (Position.ofByte (start + byteLength gap) file)]
        [⟨start + byteLength gap, start + byteLength gap⟩]
  | token {start : Nat} {gap text rest : List Char} {kind : Token.Kind} {extent : Extent}
      {tokens : List Token} {extents : List Extent} (blank : ∀ c ∈ gap, isBlank c = true)
      (begins : extent.start = start + byteLength gap)
      (ends : extent.stop = extent.start + byteLength text) (present : kind ≠ .endOfInput)
      (nonempty : text ≠ []) (solid : ∀ c ∈ text, isBlank c = false)
      (others : Tiles file extent.stop rest tokens extents) :
      Tiles file start (gap ++ (text ++ rest))
        (⟨kind, String.ofList text, extent.span file⟩ :: tokens) (extent :: extents)

namespace Tiles

variable {file : String} {start : Nat} {text : List Char} {tokens : List Token}
  {extents : List Extent}

/-- More blanks in front belong to the first gap. -/
theorem behind {gap : List Char} (blank : ∀ c ∈ gap, isBlank c = true)
    (tiles : Tiles file (start + byteLength gap) text tokens extents) :
    Tiles file start (gap ++ text) tokens extents := by
  cases tiles with
  | ended lastBlank =>
    have whole := @Tiles.ended file start (gap ++ text) (List.forall_mem_append.2 ⟨blank, lastBlank⟩)
    rwa [byteLength_append, ← Nat.add_assoc] at whole
  | @token _ next text rest kind extent tokens extents nextBlank begins ends present nonempty solid
      others =>
    rw [← List.append_assoc]
    refine .token (List.forall_mem_append.2 ⟨blank, nextBlank⟩) ?_ ends present nonempty solid others
    rw [begins, byteLength_append, Nat.add_assoc]

/-- The extents follow one another from the start on. -/
theorem apart (tiles : Tiles file start text tokens extents) :
    (∀ extent ∈ extents, start ≤ extent.start) ∧
      extents.Pairwise fun earlier later => earlier.stop ≤ later.start := by
  induction tiles with
  | ended => exact ⟨by simp, List.pairwise_singleton _ _⟩
  | @token start gap text rest kind extent tokens extents _ begins ends _ _ _ _ ih =>
    obtain ⟨after, ordered⟩ := ih
    refine ⟨List.forall_mem_cons.2 ⟨by omega, ?_⟩, List.pairwise_cons.2 ⟨after, ordered⟩⟩
    intro later member
    have bound := after later member
    omega

/-- Only the last token is an end mark, and it stands behind the last byte. -/
theorem ending (tiles : Tiles file start text tokens extents) :
    (∃ front, tokens = front ++ [Token.endAt (Position.ofByte (start + byteLength text) file)] ∧
      ∀ token ∈ front, token.kind ≠ .endOfInput) ∧
    extents.getLast? = some ⟨start + byteLength text, start + byteLength text⟩ := by
  induction tiles with
  | ended => exact ⟨⟨[], rfl, List.forall_mem_nil _⟩, rfl⟩
  | @token start gap text rest kind extent tokens extents _ begins ends present _ _ _ ih =>
    obtain ⟨⟨front, rfl, others⟩, last⟩ := ih
    have whole : extent.stop + byteLength rest =
        start + byteLength (gap ++ (text ++ rest)) := by
      rw [byteLength_append, byteLength_append]
      omega
    rw [whole] at last ⊢
    refine ⟨⟨_ :: front, rfl, List.forall_mem_cons.2 ⟨present, others⟩⟩, ?_⟩
    rw [List.getLast?_cons, last]
    rfl

/-- A token is cut out of the text where its extent says. -/
theorem placed (tiles : Tiles file start text tokens extents) {before : List Char}
    (begins : byteLength before = start) :
    List.Forall₂ (fun token extent => token.span = extent.span file ∧
      (token.kind ≠ .endOfInput → extent.start < extent.stop ∧
        ∃ rest, dropBytes? extent.start (before ++ text) = some (token.text.toList ++ rest) ∧
          dropBytes? extent.stop (before ++ text) = some rest)) tokens extents := by
  induction tiles generalizing before with
  | ended => exact .cons ⟨rfl, fun present => absurd rfl present⟩ .nil
  | @token start gap text rest kind extent tokens extents _ first stop _ nonempty _ _ ih =>
    have positive := byteLength_pos nonempty
    have front : byteLength (before ++ gap) = extent.start := by
      rw [byteLength_append, begins, first]
    have through : byteLength (before ++ gap ++ text) = extent.stop := by
      rw [byteLength_append, front, stop]
    have split : before ++ (gap ++ (text ++ rest)) = before ++ gap ++ text ++ rest := by
      simp only [List.append_assoc]
    rw [split]
    refine .cons ⟨rfl, fun _ => ⟨by omega, rest, ?_, ?_⟩⟩ (ih through)
    · rw [List.append_assoc, ← front, dropBytes?_append, String.toList_ofList]
    · rw [← through, dropBytes?_append]

/-- Exactly the bytes of blanks are in no extent. -/
theorem isBlank_iff (tiles : Tiles file start text tokens extents) {byte : Nat}
    (inside : byte < byteLength text) :
    ∃ c, holder? byte text = some c ∧
      (isBlank c = true ↔ ∀ extent ∈ extents, ¬ extent.Holds (start + byte)) := by
  induction tiles generalizing byte with
  | @ended start gap blank =>
    obtain ⟨c, member, found⟩ := exists_holder? inside
    refine ⟨c, found, fun _ => ?_, fun _ => blank c member⟩
    rw [List.forall_mem_singleton]
    intro held
    have above : start + byteLength gap ≤ start + byte := held.1
    omega
  | @token start gap text rest kind extent tokens extents blank begins ends _ _ solid others ih =>
    have after := others.apart.1
    rw [byteLength_append, byteLength_append] at inside
    rw [holder?_append]
    by_cases early : byte < byteLength gap
    · obtain ⟨c, member, found⟩ := exists_holder? early
      refine ⟨c, by rw [if_pos early, found], fun _ => ?_, fun _ => blank c member⟩
      refine List.forall_mem_cons.2 ⟨fun held => ?_, fun later member held => ?_⟩
      · have above := held.1
        omega
      · have above := held.1
        have bound := after later member
        omega
    · rw [if_neg early, holder?_append]
      by_cases here : byte - byteLength gap < byteLength text
      · obtain ⟨c, member, found⟩ := exists_holder? here
        refine ⟨c, by rw [if_pos here, found], fun white => ?_, fun free => ?_⟩
        · rw [solid c member] at white
          cases white
        · have held : extent.Holds (start + byte) := ⟨by omega, by omega⟩
          exact absurd held (free extent List.mem_cons_self)
      · rw [if_neg here]
        obtain ⟨c, found, blanks⟩ := @ih (byte - byteLength gap - byteLength text) (by omega)
        have same : extent.stop + (byte - byteLength gap - byteLength text) = start + byte := by
          omega
        rw [same] at blanks
        refine ⟨c, found, blanks.trans ⟨fun free => ?_, fun free => ?_⟩⟩
        · refine List.forall_mem_cons.2 ⟨fun held => ?_, free⟩
          have below := held.2
          omega
        · exact fun later member => free later (List.mem_cons_of_mem extent member)

/-- The text is the texts of the tokens with a gap before each of them and one at the end. -/
theorem woven (tiles : Tiles file start text tokens extents) :
    ∃ gaps last, gaps.length + 1 = tokens.length ∧ (∀ gap ∈ last :: gaps, ∀ c ∈ gap, isBlank c = true) ∧
      text = ((gaps.zip tokens).flatMap fun piece => piece.1 ++ piece.2.text.toList) ++ last := by
  induction tiles with
  | @ended start gap blank => exact ⟨[], gap, rfl, List.forall_mem_singleton.2 blank, rfl⟩
  | @token start gap text rest kind extent tokens extents blank _ _ _ _ _ _ ih =>
    obtain ⟨gaps, last, length, blanks, rfl⟩ := ih
    obtain ⟨lastBlank, gapsBlank⟩ := List.forall_mem_cons.1 blanks
    refine ⟨gap :: gaps, last, by simp [length], ?_, ?_⟩
    · exact List.forall_mem_cons.2 ⟨lastBlank, List.forall_mem_cons.2 ⟨blank, gapsBlank⟩⟩
    · simp [List.append_assoc]

/-- No extent reaches beyond the text. -/
theorem bounded (tiles : Tiles file start text tokens extents) :
    ∀ extent ∈ extents, extent.start ≤ extent.stop ∧ extent.stop ≤ start + byteLength text := by
  induction tiles with
  | ended => exact List.forall_mem_singleton.2 ⟨Nat.le_refl _, Nat.le_refl _⟩
  | @token start gap text rest kind extent tokens extents _ begins ends _ _ _ _ ih =>
    rw [byteLength_append, byteLength_append]
    refine List.forall_mem_cons.2 ⟨by omega, fun later member => ?_⟩
    have bound := ih later member
    omega

/-- No token is empty, and no token has a blank in it. -/
theorem solid (tiles : Tiles file start text tokens extents) : ∀ token ∈ tokens,
    token.text.toList ≠ [] ∧ ∀ c ∈ token.text.toList, isBlank c = false := by
  induction tiles with
  | ended =>
    intro token member
    obtain rfl := List.mem_singleton.1 member
    have solid : "EOF".toList.all (fun c => !isBlank c) = true := by decide
    refine ⟨by simp [Token.endAt], fun c here => ?_⟩
    simpa using List.all_eq_true.1 solid c here
  | token _ _ _ _ nonempty solid _ ih =>
    refine List.forall_mem_cons.2 ⟨?_, ih⟩
    rw [String.toList_ofList]
    exact ⟨nonempty, solid⟩

/-- The text is split in front of each of its tokens, and only the end mark has nothing behind it. -/
theorem exists_split (tiles : Tiles file start text tokens extents) : ∀ token ∈ tokens,
    ∃ before rest, text = before ++ rest ∧
      token.span.start = Position.ofByte (start + byteLength before) file ∧
        (rest = [] ∨ token.text.toList <+: rest) := by
  induction tiles with
  | @ended start gap =>
    intro token member
    obtain rfl := List.mem_singleton.1 member
    exact ⟨gap, [], (List.append_nil gap).symm, rfl, .inl rfl⟩
  | @token start gap text rest kind extent tokens extents _ begins ends _ _ _ _ ih =>
    refine List.forall_mem_cons.2 ⟨⟨gap, text ++ rest, rfl, ?_, .inr ?_⟩, fun token member => ?_⟩
    · rw [← begins]
      rfl
    · rw [String.toList_ofList]
      exact List.prefix_append text rest
    · obtain ⟨before, behind, rfl, place, spelled⟩ := ih token member
      refine ⟨gap ++ (text ++ before), behind, by simp, ?_, spelled⟩
      rw [place, ends, begins, byteLength_append, byteLength_append, Nat.add_assoc, Nat.add_assoc]

end Tiles

namespace Lexeme

/-- Only a lexeme that is a token has an extent. -/
def extent? (lexeme : Lexeme) : Option Extent :=
  lexeme.kind?.map fun _ => ⟨lexeme.start, lexeme.stop⟩

theorem kind?_eq_none_iff {lexeme : Lexeme} : lexeme.kind? = none ↔ lexeme.form = .blank := by
  unfold kind?
  split <;> simp [*]

/-- A scan tiles the text, because the next lexeme starts where the one before it stops. -/
theorem tiles_scanFrom (file : String) (start : Nat) (text : List Char) :
    Tiles file start text
      ((scanFrom start text).filterMap (token? file) ++
        [Token.endAt (Position.ofByte (start + byteLength text) file)])
      ((scanFrom start text).filterMap extent? ++
        [⟨start + byteLength text, start + byteLength text⟩]) := by
  fun_induction scanFrom start text with
  | case1 start => exact .ended (List.forall_mem_nil _)
  | case2 start first rest form extent classified text ih =>
    have uniform := isBlank_eq_of_classify classified
    have split : first :: rest = text ++ rest.drop extent := by simp [text]
    rw [split, byteLength_append, ← Nat.add_assoc]
    cases known : kind? ⟨form, text, start⟩ with
    | none =>
      have blank : form = .blank := kind?_eq_none_iff.1 known
      simp only [List.filterMap_cons, token?, extent?, known, Option.map_none]
      apply ih.behind
      intro c member
      rw [uniform c member, blank]
      rfl
    | some kind =>
      have other : form ≠ .blank := fun blank => by
        rw [kind?_eq_none_iff.2 blank] at known
        cases known
      have present : kind ≠ .endOfInput := by
        rintro rfl
        have recognised : form ≠ .illegal := fun illegal => by
          rw [illegal] at known
          cases known
        exact (spells_of_classify classified known recognised).present rfl
      simp only [List.filterMap_cons, token?, extent?, known, Option.map_some]
      refine @Tiles.token file start [] text _ kind ⟨start, start + byteLength text⟩ _ _
        (List.forall_mem_nil _) rfl rfl present (List.cons_ne_nil _ _) ?_ ih
      intro c member
      rw [uniform c member, decide_eq_false other]

/-- Wherever the scan stands, the unread text exists and begins with the next lexeme. -/
theorem exists_unread (start : Nat) (text : List Char) :
    ∀ before, byteLength before = start → ∀ lexeme ∈ scanFrom start text, ∃ rest,
      dropBytes? lexeme.start (before ++ text) = some (lexeme.text ++ rest) := by
  fun_induction scanFrom start text with
  | case1 => exact fun _ _ => List.forall_mem_nil _
  | case2 start first rest form extent classified text ih =>
    intro before begins
    have split : before ++ first :: rest = before ++ text ++ rest.drop extent := by simp [text]
    have through : byteLength (before ++ text) = start + byteLength text := by
      rw [byteLength_append, begins]
    refine List.forall_mem_cons.2 ⟨⟨rest.drop extent, ?_⟩, ?_⟩
    · rw [split, List.append_assoc, ← begins, dropBytes?_append]
    · rw [split]
      exact ih _ through

end Lexeme

/-- What it means that tokens, each with its extent in bytes, tile a source. Where the offsets of the
spans wrap around, the extents do not. -/
structure Tiling (source file : String) (tokens : List Token) (extents : List Extent) : Prop where
  /-- The scan never stands inside of a character. -/
  unread : ∀ lexeme ∈ Lexeme.scan source, ∃ rest,
    dropBytes? lexeme.start source.toList = some (lexeme.text ++ rest)
  apart : extents.Pairwise fun earlier later => earlier.stop ≤ later.start
  /-- A token takes at least one byte, and its text is what stands in its extent. -/
  placed : List.Forall₂ (fun token extent => token.span = extent.span file ∧
    (token.kind ≠ .endOfInput → extent.start < extent.stop ∧
      ∃ rest, dropBytes? extent.start source.toList = some (token.text.toList ++ rest) ∧
        dropBytes? extent.stop source.toList = some rest)) tokens extents
  /-- Every byte belongs to a character, and it is a blank exactly outside of the extents. -/
  blank : ∀ byte < byteLength source.toList, ∃ c, holder? byte source.toList = some c ∧
    (isBlank c = true ↔ ∀ extent ∈ extents, ¬ extent.Holds byte)
  ended : ∃ front, tokens =
      front ++ [Token.endAt (Position.ofByte (byteLength source.toList) file)] ∧
    ∀ token ∈ front, token.kind ≠ .endOfInput
  last : extents.getLast? = some ⟨byteLength source.toList, byteLength source.toList⟩
  /-- There is a gap before every token. -/
  woven : ∃ gaps last, gaps.length + 1 = tokens.length ∧
    (∀ gap ∈ last :: gaps, ∀ c ∈ gap, isBlank c = true) ∧
    source.toList =
      ((gaps.zip tokens).flatMap fun piece => piece.1 ++ piece.2.text.toList) ++ last

/-- The extent that the offsets of a token give. -/
def Token.extent (token : Token) : Extent :=
  ⟨token.span.start.offset.toNat, token.span.stop.offset.toNat⟩

theorem Token.extent_of_span {token : Token} {extent : Extent} {file : String}
    (placed : token.span = extent.span file) (startSmall : extent.start < UInt32.size)
    (stopSmall : extent.stop < UInt32.size) : token.extent = extent := by
  have start : token.span.start.offset.toNat = extent.start := by
    rw [placed]
    exact Position.ofByte_offset file startSmall
  have stop : token.span.stop.offset.toNat = extent.stop := by
    rw [placed]
    exact Position.ofByte_offset file stopSmall
  rw [Token.extent, start, stop]

theorem map_extent {tokens : List Token} {extents : List Extent} {file : String}
    (placed : List.Forall₂ (fun token extent => token.span = extent.span file) tokens extents)
    (small : ∀ extent ∈ extents, extent.start < UInt32.size ∧ extent.stop < UInt32.size) :
    tokens.map Token.extent = extents := by
  induction placed with
  | nil => rfl
  | cons here _ ih =>
    obtain ⟨first, others⟩ := List.forall_mem_cons.1 small
    rw [List.map_cons, Token.extent_of_span here first.1 first.2, ih others]

theorem exists_tiles_tokenize (source file : String) :
    ∃ extents, Tiles file 0 source.toList (tokenize source file) extents := by
  have tiles := Lexeme.tiles_scanFrom file 0 source.toList
  rw [Nat.zero_add] at tiles
  exact ⟨_, tiles⟩

example : (tokenize "é = 1" defaultFile).map Token.extent =
    [⟨0, 2⟩, ⟨3, 4⟩, ⟨5, 6⟩, ⟨6, 6⟩] := by decide +kernel

end ScriptFrontend
