import DiagramLint.Proofs.FatalFaults
import Mathlib.Data.List.Induction

/-!
# Streams that run full

Two streams with limits receive the records of a report in order.  A record **overruns** when
it is longer than what the records in front of it have left of the limit of its stream, and the
first record that overruns decides everything: the records in front of it have been taken whole
by both streams, its own stream is filled up with the beginning of it, and nothing comes after
it (`Console.deliver_of_firstOverrun`).  If no record overruns, both streams have room for all
their texts, and receive them (`Record.withinLimits_iff`).

A record need not be written in one go.  A sink that takes two texts takes them joined
(`Sink.accept_append`), so pieces of a record, written one after the other up to the first that
is not taken whole, leave the streams as the record would (`Console.deliver_of_inPieces`).
-/

namespace DiagramLint

/-! ## Records in pieces -/

/-- Joined bytes are taken like the two parts, one after the other: the second part is tried
only if the first one has been taken whole. -/
theorem Sink.accept_append (k : Sink) (x y : ByteArray) :
    k.accept (x ++ y) =
      match k.accept x with
      | (k, true) => k.accept y
      | (k, false) => (k, false) := by
  unfold accept
  cases hcapacity : k.capacity with
  | none => simp only [ByteArray.append_assoc]
  | some n =>
    simp only [ByteArray.extract_append, ByteArray.size_append, Nat.zero_sub]
    by_cases hx : x.size ≤ n - k.received.size
    · have hwhole : x.extract 0 (n - k.received.size) = x := by
        rw [← Nat.max_eq_left hx, ByteArray.extract_zero_max_size]
      have hroom : n - (k.received.size + x.size) = n - k.received.size - x.size := by omega
      have hy : x.size + y.size ≤ n - k.received.size ↔
          y.size ≤ n - k.received.size - x.size := by omega
      simp only [hx, decide_true, hwhole, hroom, hy, ByteArray.size_append,
        ByteArray.append_assoc]
    · -- the first part has filled the sink
      have hroom : n - k.received.size - x.size = 0 := by omega
      have hxy : ¬ x.size + y.size ≤ n - k.received.size := by omega
      have hnone : y.extract 0 0 = ByteArray.empty :=
        ByteArray.extract_eq_empty_iff.mpr (Nat.min_le_left _ _)
      simp only [hx, hxy, decide_false, hroom, hnone, ByteArray.append_empty]

theorem Sink.accept_empty (k : Sink) : k.accept ByteArray.empty = (k, true) := by
  obtain ⟨capacity, received⟩ := k
  cases capacity with
  | none => simp only [accept, ByteArray.append_empty]
  | some n =>
    have hnone : ByteArray.empty.extract 0 (n - received.size) = ByteArray.empty :=
      ByteArray.extract_eq_empty_iff.mpr (Nat.min_le_right _ _)
    simp only [accept, hnone, ByteArray.append_empty, ByteArray.size_empty, Nat.zero_le,
      decide_true]

namespace Console

@[simp] theorem sink_withSink (c : Console) (s : Stream) (k : Sink) :
    (c.withSink s k).sink s = k := by
  cases s <;> rfl

@[simp] theorem withSink_withSink (c : Console) (s : Stream) (k k' : Sink) :
    (c.withSink s k).withSink s k' = c.withSink s k' := by
  cases s <;> rfl

@[simp] theorem withSink_sink (c : Console) (s : Stream) : c.withSink s (c.sink s) = c := by
  cases s <;> rfl

theorem toUTF8_append (x y : String) : (x ++ y).toUTF8 = x.toUTF8 ++ y.toUTF8 := by
  simp only [String.toUTF8_eq_toByteArray, String.toByteArray_append]

theorem write_append (c : Console) (s : Stream) (x y : String) :
    c.write ⟨s, x ++ y⟩ =
      match c.write ⟨s, x⟩ with
      | (c, .ok ()) => c.write ⟨s, y⟩
      | (c, .error s) => (c, .error s) := by
  simp only [write, toUTF8_append, Sink.accept_append]
  rcases (c.sink s).accept x.toUTF8 with ⟨k, _ | _⟩
  · rfl
  · simp only [sink_withSink, withSink_withSink]

/-- A full stream takes the empty text, too. -/
theorem write_empty (c : Console) (s : Stream) : c.write ⟨s, ""⟩ = (c, .ok ()) := by
  have hempty : "".toUTF8 = ByteArray.empty := by rfl
  simp only [write, hempty, Sink.accept_empty, withSink_sink]

/-- **Texts for one stream are written like the text that they join to.** -/
theorem deliver_texts (c : Console) (s : Stream) (texts : List String) :
    c.deliver (texts.map (Record.mk s)) = c.write ⟨s, String.join texts⟩ := by
  induction texts generalizing c with
  | nil => exact (write_empty c s).symm
  | cons text texts ih =>
    rw [List.map_cons, deliver, String.join_cons, write_append]
    rcases c.write ⟨s, text⟩ with ⟨c', _ | _⟩
    · rfl
    · exact ih c'

end Console

/-- The pieces of some records: each record is cut into texts for its stream, which join to its
own text. -/
inductive Record.InPieces : List Record → List Record → Prop
  | nil : InPieces [] []
  | cons {r : Record} {rs pieces : List Record} {texts : List String} :
      String.join texts = r.text → InPieces rs pieces →
      InPieces (r :: rs) (texts.map (Record.mk r.stream) ++ pieces)

/-- Every record is a piece of its own. -/
theorem Record.InPieces.refl (rs : List Record) : InPieces rs rs := by
  induction rs with
  | nil => exact .nil
  | cons r rs ih =>
    have hone : String.join [r.text] = r.text := by
      rw [String.join_cons, String.join_nil, String.append_empty]
    exact InPieces.cons hone ih

/-- **It makes no difference in how many pieces records arrive.** -/
theorem Console.deliver_of_inPieces {rs pieces : List Record} (h : Record.InPieces rs pieces)
    (c : Console) : c.deliver pieces = c.deliver rs := by
  induction h generalizing c with
  | nil => rfl
  | @cons r rs pieces texts htexts _ ih =>
    rw [deliver_append, deliver_texts, htexts, deliver]
    rcases c.write r with ⟨c', _ | _⟩
    · rfl
    · exact ih c'

/-! ## Records that overrun -/

namespace Record

variable {limit : Stream → Nat} {rs before after : List Record} {r : Record}

/-- The record is longer than what earlier records have left of its stream's limit. -/
def Overruns (limit : Stream → Nat) (earlier : List Record) (r : Record) : Prop :=
  limit r.stream - (textOn r.stream earlier).utf8ByteSize < r.text.utf8ByteSize

/-- The first record that overruns, and what stands in front of it and behind it. -/
structure FirstOverrun (limit : Stream → Nat) (rs before : List Record) (r : Record)
    (after : List Record) : Prop where
  split : rs = before ++ r :: after
  overruns : r.Overruns limit before
  first : ∀ x q y, before = x ++ q :: y → ¬ q.Overruns limit x

/-- The texts for each stream are together no longer than its limit. -/
def WithinLimits (limit : Stream → Nat) (rs : List Record) : Prop :=
  ∀ s, (textOn s rs).utf8ByteSize ≤ limit s

theorem utf8ByteSize_textOn_concat (s : Stream) (rs : List Record) (r : Record) :
    (textOn s (rs ++ [r])).utf8ByteSize =
      (textOn s rs).utf8ByteSize + if r.stream = s then r.text.utf8ByteSize else 0 := by
  rw [textOn_append, textOn_cons, textOn_nil, String.append_empty, String.utf8ByteSize_append]
  split <;> rfl

/-- One more record stays within the limits exactly when it does not overrun. -/
theorem withinLimits_concat_iff :
    WithinLimits limit (rs ++ [r]) ↔ WithinLimits limit rs ∧ ¬ r.Overruns limit rs := by
  simp only [WithinLimits, Overruns, utf8ByteSize_textOn_concat]
  constructor
  · intro h
    refine ⟨fun s => ?_, ?_⟩
    · exact (Nat.le_add_right _ _).trans (h s)
    · have hr := h r.stream
      rw [if_pos rfl] at hr
      omega
  · rintro ⟨hrs, hr⟩ s
    have hs := hrs s
    split
    · rename_i heq
      rw [heq] at hr
      omega
    · omega

/-- **Records stay within the limits exactly when none of them overruns.** -/
theorem withinLimits_iff :
    WithinLimits limit rs ↔ ∀ x q y, rs = x ++ q :: y → ¬ q.Overruns limit x := by
  induction rs using List.reverseRecOn with
  | nil =>
    constructor
    · intro _ x q y hsplit
      simp at hsplit
    · intro _ s
      exact Nat.zero_le _
  | append_singleton rs r ih =>
    rw [withinLimits_concat_iff, ih]
    constructor
    · rintro ⟨hrs, hr⟩ x q y hsplit
      -- the record stands among the others, or it is the last one
      rcases List.eq_nil_or_concat y with rfl | ⟨y, last, rfl⟩
      · obtain ⟨rfl, hq⟩ := List.append_inj' hsplit rfl
        obtain rfl := List.singleton_inj.mp hq
        exact hr
      · rw [List.concat_eq_append, ← List.cons_append, ← List.append_assoc] at hsplit
        exact hrs x q y (List.append_inj' hsplit rfl).1
    · intro h
      refine ⟨fun x q y hsplit => ?_, h rs r [] rfl⟩
      exact h x q (y ++ [r]) (by rw [hsplit, List.append_assoc, List.cons_append])

theorem FirstOverrun.withinLimits (h : FirstOverrun limit rs before r after) :
    WithinLimits limit before :=
  withinLimits_iff.mpr h.first

/-- Beyond the limits there is a first record that overruns. -/
theorem exists_firstOverrun (h : ¬ WithinLimits limit rs) :
    ∃ before r after, FirstOverrun limit rs before r after := by
  induction rs using List.reverseRecOn with
  | nil => exact absurd (fun s => Nat.zero_le _) h
  | append_singleton rs r ih =>
    by_cases hrs : WithinLimits limit rs
    · have hr : r.Overruns limit rs := by
        by_contra hfits
        exact h (withinLimits_concat_iff.mpr ⟨hrs, hfits⟩)
      exact ⟨rs, r, [], rfl, hr, withinLimits_iff.mp hrs⟩
    · obtain ⟨before, q, after, hfirst⟩ := ih hrs
      refine ⟨before, q, after ++ [r], ?_, hfirst.overruns, hfirst.first⟩
      rw [hfirst.split, List.append_assoc, List.cons_append]

end Record

/-! ## What the streams have received -/

namespace Console

open Record

variable {limit : Stream → Nat} {rs before after : List Record} {r : Record}

/-- A console whose streams take as many bytes as the limits say. -/
def ofLimits (limit : Stream → Nat) : Console :=
  ofCapacities (some (limit .out)) (some (limit .err))

/-- The console with these limits that has taken some records whole. -/
def taken (limit : Stream → Nat) (rs : List Record) : Console :=
  (ofLimits limit).add (textOn .out rs) (textOn .err rs)

theorem sink_taken (limit : Stream → Nat) (rs : List Record) (s : Stream) :
    (taken limit rs).sink s = ⟨some (limit s), (textOn s rs).toUTF8⟩ := by
  cases s <;> simp [taken, add, Sink.add, ofLimits, ofCapacities, Sink.ofCapacity, sink]

theorem hasRoom_ofLimits_iff : (ofLimits limit).HasRoom rs ↔ WithinLimits limit rs := by
  have hroom : ∀ s, ((ofLimits limit).sink s).HasRoom (textOn s rs) ↔
      (textOn s rs).utf8ByteSize ≤ limit s := by
    intro s
    cases s <;> simp [Sink.HasRoom, ofLimits, ofCapacities, Sink.ofCapacity, sink]
  constructor
  · rintro ⟨hout, herr⟩ s
    cases s with
    | out => exact (hroom .out).mp hout
    | err => exact (hroom .err).mp herr
  · intro h
    exact ⟨(hroom .out).mpr (h .out), (hroom .err).mpr (h .err)⟩

theorem deliver_of_withinLimits (h : WithinLimits limit rs) :
    (ofLimits limit).deliver rs = (taken limit rs, .ok ()) :=
  deliver_of_hasRoom (hasRoom_ofLimits_iff.mpr h)

/-- What fits of a record that overruns. -/
def fitting (limit : Stream → Nat) (before : List Record) (r : Record) : ByteArray :=
  r.text.toUTF8.extract 0 (limit r.stream - (textOn r.stream before).utf8ByteSize)

theorem fitting_begins (limit : Stream → Nat) (before : List Record) (r : Record) :
    ∃ rest, r.text.toUTF8 = fitting limit before r ++ rest := by
  refine ⟨r.text.toUTF8.extract (limit r.stream - (textOn r.stream before).utf8ByteSize)
    r.text.toUTF8.size, ?_⟩
  rw [fitting, ByteArray.extract_append_extract, Nat.zero_min,
    ByteArray.extract_zero_max_size]

theorem write_of_overruns (h : r.Overruns limit before) :
    (taken limit before).write r =
      ((taken limit before).withSink r.stream
        ⟨some (limit r.stream), (textOn r.stream before).toUTF8 ++ fitting limit before r⟩,
        .error r.stream) := by
  have hsize : ∀ text : String, text.toUTF8.size = text.utf8ByteSize := by
    intro text
    rw [String.toUTF8_eq_toByteArray, String.size_toByteArray]
  have hnot : ¬ r.text.utf8ByteSize ≤
      limit r.stream - (textOn r.stream before).utf8ByteSize := Nat.not_le.mpr h
  simp only [write, sink_taken, Sink.accept, hsize, hnot, decide_false, fitting]

/-- **The first record that overruns ends the delivery.**  The records in front of it have been
taken whole, its stream has taken what fits of it, and that is all. -/
theorem deliver_of_firstOverrun (h : FirstOverrun limit rs before r after) :
    (ofLimits limit).deliver rs =
      ((taken limit before).withSink r.stream
        ⟨some (limit r.stream), (textOn r.stream before).toUTF8 ++ fitting limit before r⟩,
        .error r.stream) := by
  rw [h.split, deliver_append, deliver_of_withinLimits h.withinLimits]
  simp only [deliver, write_of_overruns h.overruns]

theorem sink_withSink_of_ne {c : Console} {s s' : Stream} (h : s' ≠ s) (k : Sink) :
    (c.withSink s k).sink s' = c.sink s' := by
  cases s <;> cases s' <;> simp only [ne_eq, not_true_eq_false] at h <;> rfl

/-- The streams have stopped at a record: its stream holds as many bytes as its limit says, the
first ones of all that was meant for it, the other stream holds the records in front of that
record, and nothing was written behind it. -/
structure StoppedAt (limit : Stream → Nat) (rs before : List Record) (r : Record)
    (c : Console) : Prop where
  size_eq : (c.sink r.stream).received.size = limit r.stream
  begins : ∃ rest, (textOn r.stream rs).toUTF8 = (c.sink r.stream).received ++ rest
  other : ∀ s, s ≠ r.stream → (c.sink s).received = (textOn s before).toUTF8
  last : ((ofLimits limit).deliver (before ++ [r])).1 = c

theorem stoppedAt_of_firstOverrun (h : FirstOverrun limit rs before r after) :
    StoppedAt limit rs before r ((ofLimits limit).deliver rs).1 := by
  have halone : FirstOverrun limit (before ++ [r]) before r [] := ⟨rfl, h.overruns, h.first⟩
  have hwithin := h.withinLimits r.stream
  have hoverruns := h.overruns
  rw [Overruns] at hoverruns
  rw [deliver_of_firstOverrun h]
  refine ⟨?_, ?_, ?_, ?_⟩
  · simp only [sink_withSink, fitting, ByteArray.size_append, ByteArray.size_extract,
      String.toUTF8_eq_toByteArray, String.size_toByteArray]
    omega
  · -- the full text goes on with the rest of the record
    obtain ⟨rest, hrest⟩ := fitting_begins limit before r
    refine ⟨rest ++ (textOn r.stream after).toUTF8, ?_⟩
    rw [h.split, textOn_append, textOn_cons, if_pos rfl, toUTF8_append, toUTF8_append, hrest,
      sink_withSink]
    simp only [ByteArray.append_assoc]
  · intro s hs
    rw [sink_withSink_of_ne hs, sink_taken]
  · rw [deliver_of_firstOverrun halone]

/-- What the streams hold, and how the delivery has ended, when records were delivered to
streams with limits.  The delivery is complete exactly when no stream is asked for more than its
limit, and then each stream holds all its texts.  Otherwise some record is the first to overrun,
the delivery has ended with the failure of its stream, and the streams have stopped there. -/
structure Delivered (limit : Stream → Nat) (rs : List Record) (c : Console)
    (result : Except Stream Unit) : Prop where
  ok_iff : result = .ok () ↔ ∀ s, (textOn s rs).utf8ByteSize ≤ limit s
  complete : result = .ok () → ∀ s, (c.sink s).received = (textOn s rs).toUTF8
  overrun : result ≠ .ok () → ∃ before r after, FirstOverrun limit rs before r after
  stopped : ∀ before r after, FirstOverrun limit rs before r after →
    result = .error r.stream ∧ StoppedAt limit rs before r c

/-- **What streams with limits make of records.** -/
theorem delivered_deliver (limit : Stream → Nat) (rs : List Record) :
    Delivered limit rs ((ofLimits limit).deliver rs).1 ((ofLimits limit).deliver rs).2 := by
  have hok : ((ofLimits limit).deliver rs).2 = .ok () ↔ WithinLimits limit rs := by
    constructor
    · intro h
      by_contra hbeyond
      obtain ⟨before, r, after, hfirst⟩ := exists_firstOverrun hbeyond
      rw [deliver_of_firstOverrun hfirst] at h
      cases h
    · intro h
      rw [deliver_of_withinLimits h]
  refine ⟨hok, ?_, ?_, ?_⟩
  · intro h s
    rw [deliver_of_withinLimits (hok.mp h), sink_taken]
  · intro h
    exact exists_firstOverrun fun hwithin => h (hok.mpr hwithin)
  · intro before r after hfirst
    refine ⟨?_, stoppedAt_of_firstOverrun hfirst⟩
    rw [deliver_of_firstOverrun hfirst]

end Console

/-! ## Reports and runs -/

/-- How a run without diagnostics ends when its records have been delivered. -/
def Host.ending (t : Tally) : Except Stream Unit → Except Fault Tally
  | .ok () => .ok t
  | .error s => .error (.io (.full s))

/-- A run without diagnostics delivers its heading and its report. -/
theorem Host.run_of_not_diagnosed {h : Host} {r : Request} {s : Settings} {source : Text}
    (hp : h.prepare r = .ok (s, source)) (hr : r.diagnostics = false) (c : Console) :
    h.run r c =
      (c.deliver (heading (check s source) (fileName r.input) :: (check s source).report)).map id
        (Host.ending (check s source)) := by
  have hrecords : h.records r source (check s source) =
      heading (check s source) (fileName r.input) :: (check s source).report := by
    rw [records, Request.diagnosed, hr, Bool.false_and, if_neg Bool.false_ne_true, List.map_nil,
      List.append_nil]
  have hpresent : h.present c r source (check s source) =
      (c.deliver (heading (check s source) (fileName r.input) :: (check s source).report)).map id
        (Except.mapError .full) := by
    rw [← hrecords]
    exact present_eq_deliver fun hasked => absurd (hr.symm.trans hasked) Bool.false_ne_true
  simp only [run, hp, hpresent]
  rcases c.deliver (heading (check s source) (fileName r.input) :: (check s source).report)
    with ⟨c', _ | _⟩ <;> rfl

end DiagramLint
