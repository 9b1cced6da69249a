import DiagramLint.Text.Blank

/-!
# Byte lengths

Offsets into a source count the bytes of its UTF-8 form.  `byteLength` is that
measure on texts: it is additive (`byteLength_append`), zero on the empty text
only (`byteLength_eq_zero`), and it is the size of the string with the same
characters (`utf8ByteSize_ofList`).
-/

namespace DiagramLint.Text

/-- The number of bytes of a text in UTF-8. -/
def byteLength (t : Text) : Nat := t.foldr (fun c size => c.utf8Size + size) 0

@[simp] theorem byteLength_nil : byteLength [] = 0 := rfl

@[simp] theorem byteLength_cons (c : Char) (t : Text) :
    byteLength (c :: t) = c.utf8Size + byteLength t := rfl

@[simp] theorem byteLength_append (s t : Text) :
    byteLength (s ++ t) = byteLength s + byteLength t := by
  induction s with
  | nil => rw [List.nil_append, byteLength_nil, Nat.zero_add]
  | cons c s ih => rw [List.cons_append, byteLength_cons, byteLength_cons, ih, Nat.add_assoc]

theorem length_le_byteLength (t : Text) : t.length ≤ byteLength t := by
  induction t with
  | nil => simp
  | cons c t ih =>
      have := c.utf8Size_pos
      simp only [List.length_cons, byteLength_cons]
      omega

theorem byteLength_eq_zero {t : Text} : byteLength t = 0 ↔ t = [] := by
  constructor
  · intro h
    have := length_le_byteLength t
    exact List.eq_nil_of_length_eq_zero (by omega)
  · rintro rfl; rfl

/-- The measure is the size of the string with the same characters. -/
theorem utf8ByteSize_ofList (t : Text) : (String.ofList t).utf8ByteSize = byteLength t := by
  induction t with
  | nil => simp
  | cons c t ih =>
      rw [show c :: t = [c] ++ t from rfl, String.ofList_append, String.utf8ByteSize_append, ih]
      simp

end DiagramLint.Text
