/-
This file counts the statements of a tree against the tokens that the tree is derived from.
-/

import ScriptFrontend.Proofs.Tree.Nodes

namespace ScriptFrontend

namespace Node

/-- A block counts as a statement that is made of others. -/
def isStatement : Node → Bool
  | statement _ | block _ => true
  | expression _ => false

/-- The nodes of a tree are its root and what is below it. -/
def nodes (root : Node) : List Node :=
  (walk 0 .statement root).map Visit.node

/-- A walk visits the same nodes whatever the depth and the role of its root are. -/
theorem map_node_walk (depth : Nat) (role : Role) (root : Node) :
    (walk depth role root).map Visit.node = root.nodes := by
  have same (other : Nat) (otherRole : Role) :
      (walk depth role root).map Visit.node = (walk other otherRole root).map Visit.node := by
    induction depth, role, root using walk.induct generalizing other otherRole with
    | case1 depth role root ih =>
      rw [walk, walk, List.map_cons, List.map_cons, List.map_flatMap, List.map_flatMap]
      exact congrArg (root :: root.children.attach.flatMap ·)
        (funext fun child => ih child (other + 1) child.val.1)
  exact same 0 .statement

theorem nodes_eq (root : Node) : root.nodes = root :: root.parts.flatMap nodes := by
  have below : (fun child : { child // child ∈ root.children } =>
      (walk 1 child.val.1 child.val.2).map Visit.node) = fun child => (nodes ∘ Prod.snd) child.val :=
    funext fun child => map_node_walk 1 child.val.1 child.val.2
  have children : root.children.attach.flatMap (fun child => (nodes ∘ Prod.snd) child.val) =
      root.parts.flatMap nodes := by
    rw [List.flatMap_def, List.attach_map_val, ← List.flatMap_def, parts, List.flatMap_map]
    rfl
  rw [nodes, walk, List.map_cons, List.map_flatMap, below, children]

/-- The number of statements at a node and below it. -/
def statementCount (root : Node) : Nat :=
  root.nodes.countP isStatement

def statementTotal (roots : List Node) : Nat :=
  (roots.flatMap nodes).countP isStatement

@[simp] theorem statementTotal_nil : statementTotal [] = 0 := rfl

@[simp] theorem statementTotal_cons (root : Node) (others : List Node) :
    statementTotal (root :: others) = root.statementCount + statementTotal others := by
  rw [statementTotal, List.flatMap_cons, List.countP_append, statementCount, statementTotal]

@[simp] theorem statementTotal_append (first second : List Node) :
    statementTotal (first ++ second) = statementTotal first + statementTotal second := by
  rw [statementTotal, List.flatMap_append, List.countP_append, statementTotal, statementTotal]

theorem statementCount_eq (root : Node) :
    root.statementCount = statementTotal root.parts + if root.isStatement then 1 else 0 := by
  rw [statementCount, nodes_eq, List.countP_cons, statementTotal]

section Counts

variable {token name operator : Token} {value : Expression} {span : Span}

@[simp] theorem statementCount_identifier :
    (expression (.identifier token)).statementCount = 0 := by
  rw [statementCount_eq]
  simp [parts, children, isStatement]

@[simp] theorem statementTotal_names (names : List Token) :
    statementTotal (names.map fun name => expression (.identifier name)) = 0 := by
  induction names with
  | nil => rfl
  | cons name names ih => simpa using ih

@[simp] theorem statementCount_binding :
    (statement (.binding token name value span)).statementCount =
      (expression value).statementCount + 1 := by
  rw [statementCount_eq]
  simp [parts, children, isStatement]

@[simp] theorem statementCount_bareReturn :
    (statement (.returning token none span)).statementCount = 1 := by
  rw [statementCount_eq]
  simp [parts, children, isStatement]

@[simp] theorem statementCount_returning :
    (statement (.returning token (some value) span)).statementCount =
      (expression value).statementCount + 1 := by
  rw [statementCount_eq]
  simp [parts, children, isStatement]

@[simp] theorem statementCount_bareExpression :
    (statement (.expression token value span)).statementCount =
      (expression value).statementCount + 1 := by
  rw [statementCount_eq]
  simp [parts, children, isStatement]

@[simp] theorem statementCount_block (statements : List Statement) :
    (block (.braces token statements span)).statementCount =
      statementTotal (statements.map statement) + 1 := by
  rw [statementCount_eq]
  simp [isStatement]

@[simp] theorem statementCount_integer (number : Int64) :
    (expression (.integer token number)).statementCount = 0 := by
  rw [statementCount_eq]
  simp [parts, children, isStatement]

@[simp] theorem statementCount_boolean (truth : Bool) :
    (expression (.boolean token truth)).statementCount = 0 := by
  rw [statementCount_eq]
  simp [parts, children, isStatement]

@[simp] theorem statementCount_unary :
    (expression (.unary operator value span)).statementCount =
      (expression value).statementCount := by
  rw [statementCount_eq]
  simp [parts, children, isStatement]

@[simp] theorem statementCount_binary (right : Expression) :
    (expression (.binary value operator right span)).statementCount =
      (expression value).statementCount + (expression right).statementCount := by
  rw [statementCount_eq]
  simp [parts, children, isStatement]

@[simp] theorem statementCount_conditional (consequence : Block) (alternative : Option Block) :
    (expression (.conditional token value consequence alternative span)).statementCount =
      (expression value).statementCount + ((block consequence).statementCount +
        statementTotal (alternative.toList.map block)) := by
  rw [statementCount_eq]
  simp [isStatement]

@[simp] theorem statementCount_function (names : List Token) (body : Block) :
    (expression (.function token names body span)).statementCount =
      (block body).statementCount := by
  rw [statementCount_eq]
  simp [isStatement]

@[simp] theorem statementCount_call (arguments : List Expression) :
    (expression (.call value token arguments span)).statementCount =
      (expression value).statementCount + statementTotal (arguments.map expression) := by
  rw [statementCount_eq]
  simp [isStatement]

end Counts

end Node

theorem Program.countP_nodes (program : Program) :
    program.nodes.countP Node.isStatement =
      Node.statementTotal (program.statements.map Node.statement) := by
  rw [nodes, Node.statementTotal, List.flatMap_map]
  rfl

/-- An expression has a token of its own, apart from those of the statements in it. -/
def Phrase.own : Phrase → Nat
  | .expression _ _ => 1
  | _ => 0

namespace Derives

open Node

variable {adjacency : Adjacency} {phrase : Phrase} {tokens : List Token} {need : Nat}

/-- Every statement of a tree has a token of its own among those that the tree is derived from. -/
theorem statementTotal_le (derived : Derives adjacency phrase tokens need) :
    statementTotal phrase.roots + phrase.own ≤ tokens.length := by
  -- The tokens of the parts do not overlap, and what a production adds has tokens of its own.
  induction derived with
  | tighter _ _ part => exact part
  | integer | identifier | truth | lastParameter | moreParameters | bareReturn =>
    simp [Phrase.own]
  | noArguments | noParameters | noAlternative | noStatements => exact Nat.le_refl 0
  | binary _ _ _ _ left right =>
    simp [Phrase.own] at left right ⊢
    omega
  | unary _ _ part | grouping _ _ _ part =>
    simp [Phrase.own] at part ⊢
    omega
  | call _ _ _ _ callee arguments =>
    simp [Phrase.own] at callee arguments ⊢
    omega
  | conditional _ _ _ _ _ _ condition consequence alternative =>
    simp [Phrase.own] at condition consequence alternative ⊢
    omega
  | function _ _ _ _ _ _ body =>
    simp [Phrase.own] at body ⊢
    omega
  | lastArgument _ part | alternative _ _ part | block _ _ _ part =>
    simp [Phrase.own] at part ⊢
    omega
  | moreArguments _ _ _ _ part others | moreStatements _ _ _ part others =>
    simp [Phrase.own] at part others ⊢
    omega
  | binding _ _ _ _ _ part | returning _ _ _ part | bareExpression _ _ part =>
    simp [Phrase.own] at part ⊢
    omega

end Derives

end ScriptFrontend
