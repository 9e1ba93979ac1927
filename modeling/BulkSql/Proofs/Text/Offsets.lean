import BulkSql.Text.Basic

/-! # Byte offsets

A byte offset is a boundary of a text if it is the size of what stands before it. From each boundary on there is a text,
and from no other offset.
-/

namespace BulkSql

namespace Text

variable {text before rest left right left' right' : Text} {place : Nat}

theorem eq_nil_of_byteSize (nothing : byteSize text = 0) : text = [] := by
  cases text with
  | nil => rfl
  | cons c more =>
    have some_ := c.utf8Size_pos
    rw [byteSize_cons] at nothing
    omega

/-- A text that is split twice has the earlier split in front of the later one. -/
theorem exists_between (same : left ++ right = left' ++ right') (earlier : byteSize left ≤ byteSize left') :
    ∃ between, left' = left ++ between ∧ right = between ++ right' := by
  rcases List.append_eq_append_iff.mp same with found | ⟨between, rfl, rfl⟩
  · exact found
  · rw [byteSize_append] at earlier
    have nothing : between = [] := eq_nil_of_byteSize (by omega)
    subst nothing
    exact ⟨[], by simp, rfl⟩

/-- A byte offset is a boundary if it is where a character starts, or the end of the text. -/
def IsBoundary (text : Text) (place : Nat) : Prop := ∃ before rest, text = before ++ rest ∧ byteSize before = place

theorem fromOffset?_append (before rest : Text) : fromOffset? (before ++ rest) (byteSize before) = some rest := by
  induction before with
  | nil => rw [List.nil_append, byteSize_nil, fromOffset?]
  | cons c before ih =>
    obtain ⟨size, same⟩ := Nat.exists_eq_add_of_lt c.utf8Size_pos
    rw [List.cons_append, byteSize_cons, fromOffset?.eq_def]
    split
    · omega
    · next impossible _ => cases impossible
    · next split_ sum =>
      cases split_
      rw [if_pos (by omega), ← sum, Nat.add_sub_cancel_left, ih]

theorem fromOffset?_eq_some_iff :
    fromOffset? text place = some rest ↔ ∃ before, text = before ++ rest ∧ byteSize before = place := by
  constructor
  · intro found
    fun_induction fromOffset? text place with
    | case1 text =>
      cases found
      exact ⟨[], rfl, rfl⟩
    | case2 => cases found
    | case3 c text offset fits ih =>
      obtain ⟨before, rfl, size⟩ := ih found
      exact ⟨c :: before, rfl, by rw [byteSize_cons]; omega⟩
    | case4 => cases found
  · rintro ⟨before, rfl, rfl⟩
    exact fromOffset?_append before rest

end Text

end BulkSql
