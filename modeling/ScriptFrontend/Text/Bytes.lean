/-
This file measures texts in bytes of UTF-8.
-/

namespace ScriptFrontend.Text

/-- The length of a text is the number of bytes of its encoding. -/
def byteLength : List Char → Nat
  | [] => 0
  | c :: rest => c.utf8Size + byteLength rest

/-- The text after the first `count` bytes exists only when they end between two characters. -/
def dropBytes? : Nat → List Char → Option (List Char)
  | 0, text => some text
  | _ + 1, [] => none
  | count + 1, c :: rest =>
    if c.utf8Size ≤ count + 1 then dropBytes? (count + 1 - c.utf8Size) rest else none

@[simp] theorem byteLength_nil : byteLength [] = 0 := rfl

@[simp] theorem byteLength_cons (c : Char) (rest : List Char) :
    byteLength (c :: rest) = c.utf8Size + byteLength rest := rfl

@[simp] theorem byteLength_append (first second : List Char) :
    byteLength (first ++ second) = byteLength first + byteLength second := by
  induction first with
  | nil => simp
  | cons c rest ih => simp [ih, Nat.add_assoc]

theorem dropBytes?_append (first second : List Char) :
    dropBytes? (byteLength first) (first ++ second) = some second := by
  induction first with
  | nil => cases second <;> rfl
  | cons c rest ih =>
    have positive : 0 < c.utf8Size := c.utf8Size_pos
    rw [byteLength_cons]
    obtain ⟨size, same⟩ : ∃ size, c.utf8Size + byteLength rest = size + 1 :=
      ⟨c.utf8Size + byteLength rest - 1, by omega⟩
    have remains : c.utf8Size ≤ size + 1 := by omega
    have tail : size + 1 - c.utf8Size = byteLength rest := by omega
    simp [same, dropBytes?, remains, tail, ih]

theorem eq_append_of_dropBytes? {count : Nat} {text rest : List Char}
    (dropped : dropBytes? count text = some rest) :
    ∃ first, text = first ++ rest ∧ byteLength first = count := by
  fun_induction dropBytes? count text with
  | case1 text => exact ⟨[], by simpa using dropped, rfl⟩
  | case2 count => simp at dropped
  | case3 count c text fits ih =>
    obtain ⟨first, same, size⟩ := ih dropped
    exact ⟨c :: first, by simp [same], by simp only [byteLength_cons]; omega⟩
  | case4 count c text wide => simp at dropped

end ScriptFrontend.Text
