/-
This file shows what the text that a node spans is read as on its own.
-/

import ScriptFrontend.Proofs.Lexeme.Slices
import ScriptFrontend.Proofs.Reading.Layout
import ScriptFrontend.Proofs.Tree.RoundTrip
import ScriptFrontend.Proofs.Tree.Segments
import ScriptFrontend.Proofs.Tree.Spans

namespace ScriptFrontend

open Text

/-- The text from the first byte of a span to its end, where the span lies between characters. -/
def Span.cut? (span : Span) (source : String) : Option String := do
  let onward ← dropBytes? span.firstByte source.toList
  let behind ← dropBytes? span.endByte source.toList
  return String.ofList (onward.take (onward.length - behind.length))

theorem Span.cut?_eq_some {span : Span} {source : String} {front slice back : List Char}
    (split : source.toList = front ++ (slice ++ back)) (first : span.firstByte = byteLength front)
    (last : span.endByte = byteLength (front ++ slice)) :
    span.cut? source = some (String.ofList slice) := by
  have onward : dropBytes? span.firstByte source.toList = some (slice ++ back) := by
    rw [split, first, dropBytes?_append]
  have behind : dropBytes? span.endByte source.toList = some back := by
    rw [split, last, ← List.append_assoc, dropBytes?_append]
  rw [cut?, onward, behind]
  simp

/-- Parentheses open in front of a text and close behind it. -/
def parenthesize (opens : Nat) (text : String) (closes : Nat) : String :=
  String.ofList (List.replicate opens '(' ++ (text.toList ++ List.replicate closes ')'))

/-- A text is read as a statement when it is read without failures as nothing but this statement,
wherever there is enough room. -/
def ReadsAs (text : String) (tree : Statement) : Prop :=
  ∃ bound, ∀ file room, bound ≤ room → (readScript text file room).errors = [] ∧
    (readScript text file room).program.statements.map Statement.outline = [tree.outline]

namespace Lexeme

theorem outlines_replicate {kind : Token.Kind} {first : Char} (listed : .mark kind first [] ∈ patterns)
    (plain : kind ∉ [.not, .assignment]) (count : Nat) (rest : List Char) :
    outlines (List.replicate count first ++ rest) =
      List.replicate count ⟨kind, String.ofList [first], .unknown⟩ ++ outlines rest := by
  induction count with
  | zero => rfl
  | succ count ih =>
    rw [List.replicate_succ, List.replicate_succ, List.cons_append, List.cons_append,
      outlines_plain _ listed plain, ih]

theorem apart_closes (count : Nat) : Apart (List.replicate count ')') := by
  cases count with
  | zero => exact apart_nil
  | succ count => exact apart_cons _ (by decide) (by decide)

/-- Parentheses around a slice are tokens of their own. -/
theorem outlines_parenthesize {slice : List Char} {own : List Token}
    (cut : ∀ tail, Apart tail →
      outlines (slice ++ tail) = own.map Token.outline ++ outlines tail) (opens closes : Nat) :
    outlines (parenthesize opens (String.ofList slice) closes).toList =
      List.replicate opens ⟨.openParen, "(", .unknown⟩ ++
        (own.map Token.outline ++ List.replicate closes ⟨.closeParen, ")", .unknown⟩) := by
  have opening := @outlines_replicate .openParen '(' (by simp [patterns]) (by decide) opens
  have closing := @outlines_replicate .closeParen ')' (by simp [patterns]) (by decide) closes []
  rw [List.append_nil, outlines_nil, List.append_nil] at closing
  rw [parenthesize, String.toList_ofList, String.toList_ofList, opening, cut _ (apart_closes closes),
    closing]

end Lexeme

/-- Parentheses of a script have the outline of their kind. -/
theorem map_outline_of_kind {text : String} {kind : Token.Kind} {tokens : List Token}
    (spelling : kind.spelling? = some text) (all : ∀ token ∈ tokens, token.kind = kind)
    (spelled : ∀ token ∈ tokens, token.Spelled) :
    tokens.map Token.outline = List.replicate tokens.length ⟨kind, text, .unknown⟩ := by
  rw [List.map_eq_replicate_iff]
  intro token member
  exact Token.outline_of_spelling (spelled token member) (all token member) spelling

namespace ReadsAs

variable {text : String} {tree : Statement}

/-- A text is read as what the tokens with the same outlines are derived as. -/
theorem of_outlines {again : Statement} {part : List Token} {need : Nat}
    (derived : Derives .apart (.statements [again]) part need)
    (same : again.outline = tree.outline)
    (outlines : Lexeme.outlines text.toList = part.map Token.outline) : ReadsAs text tree := by
  refine ⟨need, fun file room enough => ?_⟩
  let tokens := part ++ [Token.endAt .unknown]
  have before : beforeEnd tokens = part := by
    apply beforeEnd_append fun token member => (derived.admitted token member).present
    intro token here
    obtain rfl := Option.some.inj here
    rfl
  rw [← before] at derived
  obtain ⟨read, accepted⟩ := derived.readTokens_eq file enough
  have outlined : (tokenize text file).map Token.outline = tokens.map Token.outline := by
    rw [map_outline_tokenize, outlines, List.map_append]
    rfl
  have ended : tokens.getLast?.map Token.kind = some .endOfInput := by
    rw [List.getLast?_concat]
    rfl
  obtain ⟨statements, problems⟩ := readTokens_outline file file room outlined ended
  rw [accepted, List.map_nil, List.map_eq_nil_iff] at problems
  rw [read, List.map_singleton, same] at statements
  exact ⟨problems, statements⟩

theorem bracketed (reads : ReadsAs text tree) (file : String) :
    Bracketed (beforeEnd (tokenize text file)) := by
  obtain ⟨bound, all⟩ := reads
  obtain ⟨need, derived⟩ := exists_derivation_apart (all file bound (Nat.le_refl bound)).1
  exact derived.bracketed

end ReadsAs

/-- The text that a statement or an expression of a script without failures spans lacks at most some
parentheses in front of it and behind it. With these it is read as exactly this node, and without
them it is exactly if its brackets match. -/
theorem cuts_readScript {source : String} (small : byteLength source.toList < UInt32.size)
    {file : String} {limit : Nat} (accepted : (readScript source file limit).errors = []) :
    ∀ node ∈ (readScript source file limit).program.nodes, ∀ tree ∈ node.alone?,
      ∃ text, node.span.cut? source = some text ∧
        (∃ opens closes, ReadsAs (parenthesize opens text closes) tree) ∧
        (ReadsAs text tree ↔ Bracketed (beforeEnd (tokenize text file))) := by
  intro node member tree alone
  obtain ⟨need, derived⟩ := exists_derivation_apart accepted
  have inside := Program.forall_mem_nodes derived.everywhere_derivedIn node member
  obtain ⟨part, opens, own, closes, excerpt⟩ := inside.exists_excerpt alone
  obtain ⟨again, partNeed, same, partDerived⟩ := excerpt.derives
  have spelled : ∀ token ∈ part, token.Spelled := by
    intro token listed
    have used := excerpt.inside.subset listed
    have scanned := (List.takeWhile_sublist _).subset used
    exact spelled_of_mem_tokenize scanned (partDerived.admitted token listed)
  obtain ⟨front, back, whole⟩ := excerpt.inside
  have split : beforeEnd (tokenize source file) = (front ++ opens) ++ (own ++ (closes ++ back)) := by
    rw [← whole, excerpt.trims.split]
    simp
  have present : own ≠ [] := by
    rintro rfl
    cases excerpt.trims.runs.start
  obtain ⟨before, slice, after, text, start, stop, cut⟩ := exists_slice split present
  rw [excerpt.trims.runs.start, Option.some.injEq] at start
  rw [excerpt.trims.runs.stop, Option.some.injEq] at stop
  rw [text, byteLength_append, byteLength_append] at small
  have first : node.span.firstByte = byteLength before := by
    rw [Span.firstByte, start]
    exact Position.ofByte_offset file (by omega)
  have last : node.span.endByte = byteLength (before ++ slice) := by
    rw [Span.endByte, stop]
    exact Position.ofByte_offset file (by rw [byteLength_append]; omega)
  have alone : Lexeme.outlines slice = own.map Token.outline := by
    have whole := cut [] Lexeme.apart_nil
    rwa [List.append_nil, Lexeme.outlines_nil, List.append_nil] at whole
  refine ⟨String.ofList slice, Span.cut?_eq_some text first last, ⟨opens.length, closes.length, ?_⟩,
    fun reads => reads.bracketed file, fun matched => ?_⟩
  · apply ReadsAs.of_outlines partDerived same
    rw [excerpt.trims.split, List.forall_mem_append, List.forall_mem_append] at spelled
    obtain ⟨opensSpelled, -, closesSpelled⟩ := spelled
    rw [Lexeme.outlines_parenthesize cut, excerpt.trims.split, List.map_append, List.map_append,
      map_outline_of_kind rfl excerpt.trims.opening opensSpelled,
      map_outline_of_kind rfl excerpt.trims.closing closesSpelled]
  · have kinds := congrArg (List.map Token.kind) (map_outline_beforeEnd (String.ofList slice) file)
    rw [String.toList_ofList, alone, List.map_map, List.map_map] at kinds
    obtain ⟨rfl, rfl⟩ := excerpt.exact (matched.of_map_kind kinds.symm)
    apply ReadsAs.of_outlines partDerived same
    rw [String.toList_ofList, alone, excerpt.trims.split]
    simp

/-- The span of a sum starts with its left operand, whose parentheses belong to no node. The span of an
expression statement ends with its expression. -/
example :
    let cuts (source : String) := (readScript source defaultFile 64).program.nodes.map fun node =>
      node.span.cut? source
    cuts "(a) + b" = [some "(a) + b", some "a) + b", some "a", some "b"] ∧
      cuts "(!(a));" = [some "(!(a", some "!(a", some "a"] := by
  decide +kernel

end ScriptFrontend
