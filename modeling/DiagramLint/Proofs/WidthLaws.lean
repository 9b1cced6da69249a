import DiagramLint.Timeline.Duration
import DiagramLint.Timeline.Measure

/-!
# Laws of widths

Labels and bars are measured in an arithmetic that rounds.  Sums and quotients that round obey
few of the laws that numbers do: the widths of a label depend on the order of its characters,
and a sum may be infinite.  What still holds is that each operation keeps the order of its
operands, and that adding a width takes none away; `Measure.Monotone` says so, of the
**widths**, which are the numbers from zero on with infinity, and of the **scales**, which are
the positive numbers.  On both the order is one that has an answer.

These laws are enough to compare labels.  `Eased` relates a label to what is left of it when
characters are taken out and wide ones are written with narrow ones; then the width of the
label does not grow (`labelWidth_le_of_eased`), however the sums are rounded on the way, and a
label that fits goes on to fit a bar of at least as many minutes (`fits_of_eased`).
-/

namespace DiagramLint

/-- **What an arithmetic keeps of the order of numbers**, for a notion of widths and one of
scales. -/
structure Measure.Monotone {α : Type} [Measure α] (IsWidth IsScale : α → Prop) : Prop where
  isWidth_of_isScale : ∀ {x}, IsScale x → IsWidth x
  le_refl : ∀ {x}, IsWidth x → x ≤ x
  le_trans : ∀ {x y z}, IsWidth x → IsWidth y → IsWidth z → x ≤ y → y ≤ z → x ≤ z
  isWidth_nothing : IsWidth Measure.nothing
  isWidth_ofMinutes : ∀ n, IsWidth (Measure.ofMinutes n)
  ofMinutes_le : ∀ {n n'}, n ≤ n' → (Measure.ofMinutes n : α) ≤ Measure.ofMinutes n'
  /-- A positive duration is a scale, if it is in range. -/
  isScale_ofMinutes : ∀ {n}, 0 < n → n < durationBound → IsScale (Measure.ofMinutes n)
  isWidth_add : ∀ {x y}, IsWidth x → IsWidth y → IsWidth (x + y)
  add_le_add : ∀ {x x' y y'}, IsWidth x → IsWidth x' → IsWidth y → IsWidth y' →
    x ≤ x' → y ≤ y' → x + y ≤ x' + y'
  le_add : ∀ {x y}, IsWidth x → IsWidth y → x ≤ x + y
  isWidth_div : ∀ {x c}, IsWidth x → IsScale c → IsWidth (x / c)
  div_le_div : ∀ {x x' c}, IsWidth x → IsWidth x' → IsScale c → x ≤ x' → x / c ≤ x' / c
  isWidth_mul : ∀ {x c}, IsWidth x → IsScale c → IsWidth (x * c)
  mul_le_mul : ∀ {x x' c}, IsWidth x → IsWidth x' → IsScale c → x ≤ x' → x * c ≤ x' * c

/-! ## Eased labels -/

/-- `Eased label label'`: what is left of `label` is `label'`, with characters taken out and
with wide characters, those above U+007F, written as others. -/
inductive Eased : Text → Text → Prop
  | nil : Eased [] []
  | keep (c : Char) {label label' : Text} : Eased label label' → Eased (c :: label) (c :: label')
  | drop (c : Char) {label label' : Text} : Eased label label' → Eased (c :: label) label'
  | narrow {c c' : Char} {label label' : Text} (wide : 127 < c.toNat) (ascii : c'.toNat ≤ 127) :
      Eased label label' → Eased (c :: label) (c' :: label')

theorem Eased.refl : ∀ label : Text, Eased label label
  | [] => nil
  | c :: label => (refl label).keep c

namespace Metrics

variable {α : Type} [Measure α] {IsWidth IsScale : α → Prop}

/-- The constants of an estimate in which wide characters are no narrower than others. -/
structure Sound (IsScale : α → Prop) (m : Metrics α) : Prop where
  gridWidth : IsScale m.gridWidth
  asciiWidth : IsScale m.asciiWidth
  wideWidth : IsScale m.wideWidth
  ascii_le_wide : m.asciiWidth ≤ m.wideWidth

variable {m : Metrics α} (laws : Measure.Monotone IsWidth IsScale) (hm : m.Sound IsScale)

include laws hm

theorem isWidth_charWidth (c : Char) : IsWidth (m.charWidth c) := by
  unfold charWidth
  split
  · exact laws.isWidth_of_isScale hm.wideWidth
  · exact laws.isWidth_of_isScale hm.asciiWidth

theorem isWidth_foldl (label : Text) {w : α} (hw : IsWidth w) :
    IsWidth (label.foldl (fun w c => w + m.charWidth c) w) := by
  induction label generalizing w with
  | nil => exact hw
  | cons c label ih => exact ih (laws.isWidth_add hw (isWidth_charWidth laws hm c))

theorem isWidth_labelWidth (label : Text) : IsWidth (m.labelWidth label) :=
  isWidth_foldl laws hm label laws.isWidth_nothing

/-- **The sum of an eased label stays behind**, from any two widths on that are in order: a
character that is kept, or written as a narrower one, adds no more to the smaller sum, and one
that is taken out adds to the larger sum alone. -/
theorem foldl_le_of_eased {label label' : Text} (h : Eased label label') {w w' : α}
    (hw : IsWidth w) (hw' : IsWidth w') (hle : w' ≤ w) :
    label'.foldl (fun w c => w + m.charWidth c) w' ≤
      label.foldl (fun w c => w + m.charWidth c) w := by
  have hwidth := isWidth_charWidth laws hm
  induction h generalizing w w' with
  | nil => exact hle
  | keep c _ ih =>
      apply ih (laws.isWidth_add hw (hwidth c)) (laws.isWidth_add hw' (hwidth c))
      exact laws.add_le_add hw' hw (hwidth c) (hwidth c) hle (laws.le_refl (hwidth c))
  | drop c _ ih =>
      have hadd := laws.isWidth_add hw (hwidth c)
      exact ih hadd hw' (laws.le_trans hw' hw hadd hle (laws.le_add hw (hwidth c)))
  | @narrow c c' _ _ wide ascii _ ih =>
      have hchar : m.charWidth c' ≤ m.charWidth c := by
        rw [charWidth, charWidth, if_neg (by omega), if_pos wide]
        exact hm.ascii_le_wide
      apply ih (laws.isWidth_add hw (hwidth c)) (laws.isWidth_add hw' (hwidth c'))
      exact laws.add_le_add hw' hw (hwidth c') (hwidth c) hle hchar

theorem labelWidth_le_of_eased {label label' : Text} (h : Eased label label') :
    m.labelWidth label' ≤ m.labelWidth label :=
  foldl_le_of_eased laws hm h laws.isWidth_nothing laws.isWidth_nothing
    (laws.le_refl laws.isWidth_nothing)

/-! ## Bars -/

theorem isWidth_barWidth {total : Nat} (hpos : 0 < total) (hrange : total < durationBound)
    (minutes : Nat) : IsWidth (m.barWidth minutes total) :=
  laws.isWidth_mul
    (laws.isWidth_div (laws.isWidth_ofMinutes minutes) (laws.isScale_ofMinutes hpos hrange))
    hm.gridWidth

/-- **More minutes draw no narrower bar**, in a chart of as many minutes. -/
theorem barWidth_le_barWidth {total : Nat} (hpos : 0 < total) (hrange : total < durationBound)
    {minutes minutes' : Nat} (h : minutes ≤ minutes') :
    m.barWidth minutes total ≤ m.barWidth minutes' total := by
  have htotal := laws.isScale_ofMinutes hpos hrange
  have hwidth := laws.isWidth_ofMinutes minutes
  have hwidth' := laws.isWidth_ofMinutes minutes'
  apply laws.mul_le_mul (laws.isWidth_div hwidth htotal) (laws.isWidth_div hwidth' htotal)
    hm.gridWidth
  exact laws.div_le_div hwidth hwidth' htotal (laws.ofMinutes_le h)

/-- **A label that fits its bar goes on to fit** when it is eased and the bar has more
minutes. -/
theorem fits_of_eased {total : Nat} (hpos : 0 < total) (hrange : total < durationBound)
    {label label' : Text} {minutes minutes' : Nat} (hlabel : Eased label label')
    (hminutes : minutes ≤ minutes') (h : m.Fits label minutes total) :
    m.Fits label' minutes' total := by
  have hbar := isWidth_barWidth laws hm hpos hrange
  have hwidth := isWidth_labelWidth laws hm
  have hchain : m.labelWidth label' ≤ m.barWidth minutes total :=
    laws.le_trans (hwidth label') (hwidth label) (hbar minutes)
      (labelWidth_le_of_eased laws hm hlabel) h
  exact laws.le_trans (hwidth label') (hbar minutes) (hbar minutes') hchain
    (barWidth_le_barWidth laws hm hpos hrange hminutes)

end Metrics

end DiagramLint
