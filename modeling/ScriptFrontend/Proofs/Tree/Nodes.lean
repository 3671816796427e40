/-
This file carries what is known of the parts of a tree to all of its nodes.
-/

import ScriptFrontend.Proofs.Grammar.Derivation
import ScriptFrontend.Tree.Node

namespace ScriptFrontend

namespace Node

/-- The parts of a node are its children without their roles. -/
def parts (node : Node) : List Node :=
  node.children.map Prod.snd

/-- A property holds everywhere in a node when it holds of every node that a walk visits. -/
def Everywhere (holds : Node → Prop) (root : Node) : Prop :=
  ∀ depth role, ∀ visit ∈ walk depth role root, holds visit.node

namespace Everywhere

variable {holds : Node → Prop} {root : Node}

theorem intro (here : holds root) (below : ∀ part ∈ root.parts, Everywhere holds part) :
    Everywhere holds root := by
  intro depth role visit member
  rw [walk, List.mem_cons] at member
  obtain rfl | member := member
  · exact here
  · obtain ⟨child, -, visited⟩ := List.mem_flatMap.1 member
    exact below child.val.2 (List.mem_map_of_mem child.property) _ _ visit visited

/-- What has to be shown of the only root of a phrase. -/
theorem alone (here : holds root) (below : ∀ part ∈ root.parts, Everywhere holds part) :
    ∀ node ∈ [root], Everywhere holds node :=
  List.forall_mem_singleton.2 (.intro here below)

end Everywhere

section Parts

variable {token : Token} {condition callee : Expression} {body consequence : Block} {span : Span}

@[simp] theorem parts_block (statements : List Statement) :
    (block (.braces token statements span)).parts = statements.map statement := by
  simp [parts, children]

@[simp] theorem parts_conditional (alternative : Option Block) :
    (expression (.conditional token condition consequence alternative span)).parts =
      expression condition :: block consequence :: alternative.toList.map block := by
  simp [parts, children]

@[simp] theorem parts_function (names : List Token) :
    (expression (.function token names body span)).parts =
      names.map (fun name => expression (.identifier name)) ++ [block body] := by
  simp [parts, children]

@[simp] theorem parts_call (arguments : List Expression) :
    (expression (.call callee token arguments span)).parts =
      expression callee :: arguments.map expression := by
  simp [parts, children]

end Parts

end Node

/-- The nodes of a program are those of its statements. -/
def Program.nodes (program : Program) : List Node :=
  program.statements.flatMap fun tree => (Node.walk 0 .statement (.statement tree)).map Node.Visit.node

theorem Program.forall_mem_nodes {program : Program} {holds : Node → Prop}
    (everywhere : ∀ root ∈ program.statements.map Node.statement, root.Everywhere holds) :
    ∀ node ∈ program.nodes, holds node := by
  intro node member
  obtain ⟨tree, listed, visited⟩ := List.mem_flatMap.1 member
  obtain ⟨visit, walked, rfl⟩ := List.mem_map.1 visited
  exact everywhere _ (List.mem_map_of_mem listed) 0 .statement visit walked

/-- The roots of a phrase are the nodes that it puts next to each other. -/
@[simp] def Phrase.roots : Phrase → List Node
  | .expression _ tree => [.expression tree]
  | .arguments trees => trees.map .expression
  | .parameters names => names.map fun name => .expression (.identifier name)
  | .alternative tree => tree.toList.map .block
  | .block tree => [.block tree]
  | .statement tree _ => [.statement tree]
  | .statements trees => trees.map .statement

end ScriptFrontend
