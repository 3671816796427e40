/-
This file lists the nodes of a tree in the order in which they are written.
-/

import ScriptFrontend.Tree.Basic

namespace ScriptFrontend

/-- A node is a part of a tree that has a token and a span. -/
inductive Node where
  | statement (node : Statement)
  | block (node : Block)
  | expression (node : Expression)

/-- The role of a node is its place in the node above it. -/
inductive Node.Role where
  | statement
  | block
  | expression
  | name
  | value
  | operand
  | left
  | right
  | condition
  | consequence
  | alternative
  | parameter
  | body
  | callee
  | argument
  deriving DecidableEq

namespace Node

def token : Node → Token
  | statement node => node.token
  | block node => node.token
  | expression node => node.token

def span : Node → Span
  | statement node => node.span
  | block node => node.span
  | expression node => node.span

/-- The children of a node stand in the order of their texts. -/
def children : Node → List (Role × Node)
  | statement (.binding _ name value _) =>
    [(.name, expression (.identifier name)), (.value, expression value)]
  | statement (.returning _ value _) => value.toList.map fun value => (.value, expression value)
  | statement (.expression _ value _) => [(.expression, expression value)]
  | block (.braces _ statements _) => statements.map fun child => (.statement, statement child)
  | expression (.identifier _) | expression (.integer _ _) | expression (.boolean _ _) => []
  | expression (.unary _ operand _) => [(.operand, expression operand)]
  | expression (.binary left _ right _) => [(.left, expression left), (.right, expression right)]
  | expression (.conditional _ condition consequence alternative _) =>
    (.condition, expression condition) :: (.consequence, block consequence) ::
      alternative.toList.map fun alternative => (.alternative, block alternative)
  | expression (.function _ parameters body _) =>
    parameters.map (fun parameter => (.parameter, expression (.identifier parameter))) ++
      [(.body, block body)]
  | expression (.call callee _ arguments _) =>
    (.callee, expression callee) ::
      arguments.map fun argument => (.argument, expression argument)

theorem sizeOf_token_pos (token : Token) : 0 < sizeOf token := by
  cases token
  simp only [Token.mk.sizeOf_spec]
  omega

/-- A child is smaller than its parent. -/
theorem sizeOf_lt_of_mem_children {node child : Node} {role : Role}
    (member : (role, child) ∈ node.children) : sizeOf child < sizeOf node := by
  revert member
  fun_cases children node <;> intro member <;>
    simp only [List.mem_map, List.mem_cons, List.mem_append, Option.mem_toList, Prod.mk.injEq,
      List.not_mem_nil, or_false] at member
  case case1 token name value span =>
    have := sizeOf_token_pos token
    rcases member with ⟨-, rfl⟩ | ⟨-, rfl⟩ <;> simp <;> omega
  case case2 =>
    obtain ⟨value, rfl, -, rfl⟩ := member
    simp
    omega
  case case3 | case8 =>
    obtain ⟨-, rfl⟩ := member
    simp
    omega
  case case4 =>
    obtain ⟨inner, inside, -, rfl⟩ := member
    have := List.sizeOf_lt_of_mem inside
    simp
    omega
  case case9 => rcases member with ⟨-, rfl⟩ | ⟨-, rfl⟩ <;> simp <;> omega
  case case10 =>
    rcases member with ⟨-, rfl⟩ | ⟨-, rfl⟩ | ⟨alternative, rfl, -, rfl⟩ <;> simp <;> omega
  case case11 =>
    rcases member with ⟨parameter, inside, -, rfl⟩ | ⟨-, rfl⟩
    · have := List.sizeOf_lt_of_mem inside
      simp
      omega
    · simp
      omega
  case case12 =>
    rcases member with ⟨-, rfl⟩ | ⟨argument, inside, -, rfl⟩
    · simp
      omega
    · have := List.sizeOf_lt_of_mem inside
      simp
      omega

/-- A visit is a node together with its role and its distance from the root. -/
structure Visit where
  depth : Nat
  role : Role
  node : Node

/-- The walk visits a node before its children and the children in order. -/
def walk (depth : Nat) (role : Role) (node : Node) : List Visit :=
  ⟨depth, role, node⟩ :: node.children.attach.flatMap fun child =>
    walk (depth + 1) child.val.1 child.val.2
  termination_by sizeOf node
  decreasing_by exact sizeOf_lt_of_mem_children child.property

end Node

end ScriptFrontend
