import DiagramLint.Report.Console

/-!
# What streams receive

As long as there is room, a sink takes a text whole and puts it behind what it has
(`Sink.accept_of_hasRoom`).  A record goes to one stream and leaves the other alone, so
each stream of a console receives the texts of its own records, one behind the other, no
matter how the records of the two streams are mixed (`Console.deliver_of_hasRoom`).  Even
when a stream runs full, the other one only ever holds what was meant for it
(`Console.sink_deliver_of_forall_ne`).
-/

namespace DiagramLint

namespace Record

@[simp] theorem textOn_nil (s : Stream) : textOn s [] = "" := rfl

theorem textOn_cons (s : Stream) (r : Record) (rs : List Record) :
    textOn s (r :: rs) = (if r.stream = s then r.text else "") ++ textOn s rs := by
  unfold textOn
  by_cases h : r.stream = s <;> simp [h]

theorem textOn_append (s : Stream) (rs rs' : List Record) :
    textOn s (rs ++ rs') = textOn s rs ++ textOn s rs' := by
  simp [textOn]

/-- Records for the other stream have no text on this one. -/
theorem textOn_of_forall_ne {s : Stream} {rs : List Record} (h : ∀ r ∈ rs, r.stream ≠ s) :
    textOn s rs = "" := by
  induction rs with
  | nil => rfl
  | cons r rs ih =>
    obtain ⟨hr, hrs⟩ := List.forall_mem_cons.mp h
    rw [textOn_cons, if_neg hr, ih hrs, String.empty_append]

theorem textOn_out_of_err {rs : List Record} (h : ∀ r ∈ rs, r.stream = .err) :
    textOn .out rs = "" := by
  refine textOn_of_forall_ne fun r hr => ?_
  rw [h r hr]
  exact Stream.noConfusion

end Record

namespace Sink

/-- The sink with a text behind what it has received. -/
def add (k : Sink) (text : String) : Sink := { k with received := k.received ++ text.toUTF8 }

/-- There is room for a text; always, without a capacity. -/
def HasRoom (k : Sink) (text : String) : Prop :=
  ∀ n ∈ k.capacity, k.received.size + text.utf8ByteSize ≤ n

variable {k : Sink} {s t : String}

@[simp] theorem add_empty (k : Sink) : k.add "" = k := by
  simp [add]

theorem add_add (k : Sink) (s t : String) : (k.add s).add t = k.add (s ++ t) := by
  simp [add, ByteArray.append_assoc]

theorem hasRoom_append_iff : k.HasRoom (s ++ t) ↔ k.HasRoom s ∧ (k.add s).HasRoom t := by
  simp only [HasRoom, add, ByteArray.size_append, String.utf8ByteSize_append,
    String.toUTF8_eq_toByteArray, String.size_toByteArray]
  constructor
  · intro h
    exact ⟨fun n hn => by have := h n hn; omega, fun n hn => by have := h n hn; omega⟩
  · rintro ⟨-, h⟩ n hn
    have := h n hn
    omega

/-- **A text for which there is room is taken whole.** -/
theorem accept_of_hasRoom (h : k.HasRoom t) : k.accept t.toUTF8 = (k.add t, true) := by
  unfold accept
  split
  · rfl
  · rename_i n hn
    have hle : t.toUTF8.size ≤ n - k.received.size := by
      have := h n hn
      rw [String.toUTF8_eq_toByteArray, String.size_toByteArray]
      omega
    have hwhole : t.toUTF8.extract 0 (n - k.received.size) = t.toUTF8 := by
      rw [← Nat.max_eq_left hle, ByteArray.extract_zero_max_size]
    simp only [hwhole, decide_eq_true hle, add]

end Sink

namespace Console

/-- The console with a text on each stream behind what was there. -/
def add (c : Console) (out err : String) : Console := ⟨c.out.add out, c.err.add err⟩

theorem add_add (c : Console) (out err out' err' : String) :
    (c.add out err).add out' err' = c.add (out ++ out') (err ++ err') := by
  simp only [add, Sink.add_add]

/-- There is room for all texts of some records. -/
structure HasRoom (c : Console) (rs : List Record) : Prop where
  out : c.out.HasRoom (Record.textOn .out rs)
  err : c.err.HasRoom (Record.textOn .err rs)

/-- Both streams take whatever is written to them. -/
structure Unbounded (c : Console) : Prop where
  out : c.out.capacity = none
  err : c.err.capacity = none

variable {c : Console} {rs : List Record}

theorem Unbounded.hasRoom (h : c.Unbounded) (rs : List Record) : c.HasRoom rs :=
  ⟨fun n hn => by simp [h.out] at hn, fun n hn => by simp [h.err] at hn⟩

theorem Unbounded.ofCapacities : (ofCapacities none none).Unbounded := ⟨rfl, rfl⟩

/-- **With room for all of them, records are written without a failure**, and each stream
receives the texts of its records in order. -/
theorem deliver_of_hasRoom (h : c.HasRoom rs) :
    c.deliver rs = (c.add (Record.textOn .out rs) (Record.textOn .err rs), .ok ()) := by
  induction rs generalizing c with
  | nil => simp [deliver, add]
  | cons r rs ih =>
    obtain ⟨hout, herr⟩ := h
    obtain ⟨stream, text⟩ := r
    cases stream with
    | out =>
      simp only [Record.textOn_cons, if_true, reduceCtorEq, if_false, String.empty_append,
        Sink.hasRoom_append_iff] at hout herr ⊢
      have hrest : (c.withSink .out (c.out.add text)).HasRoom rs := ⟨hout.2, herr⟩
      simp only [deliver, write, sink, Sink.accept_of_hasRoom hout.1, ih hrest]
      simp only [add, withSink, Sink.add_add]
    | err =>
      simp only [Record.textOn_cons, if_true, reduceCtorEq, if_false, String.empty_append,
        Sink.hasRoom_append_iff] at hout herr ⊢
      have hrest : (c.withSink .err (c.err.add text)).HasRoom rs := ⟨hout, herr.2⟩
      simp only [deliver, write, sink, Sink.accept_of_hasRoom herr.1, ih hrest]
      simp only [add, withSink, Sink.add_add]

theorem hasRoom_append_iff {rs' : List Record} :
    c.HasRoom (rs ++ rs') ↔
      c.HasRoom rs ∧ (c.add (Record.textOn .out rs) (Record.textOn .err rs)).HasRoom rs' := by
  constructor
  · rintro ⟨hout, herr⟩
    rw [Record.textOn_append, Sink.hasRoom_append_iff] at hout herr
    exact ⟨⟨hout.1, herr.1⟩, ⟨hout.2, herr.2⟩⟩
  · rintro ⟨⟨hout, herr⟩, ⟨hout', herr'⟩⟩
    constructor
    · rw [Record.textOn_append, Sink.hasRoom_append_iff]
      exact ⟨hout, hout'⟩
    · rw [Record.textOn_append, Sink.hasRoom_append_iff]
      exact ⟨herr, herr'⟩

/-! ## Records that may not all be taken -/

theorem deliver_append (c : Console) (rs rs' : List Record) :
    c.deliver (rs ++ rs') =
      match c.deliver rs with
      | (c, .ok ()) => c.deliver rs'
      | (c, .error s) => (c, .error s) := by
  induction rs generalizing c with
  | nil => rfl
  | cons r rs ih =>
    rw [List.cons_append, deliver, deliver]
    rcases c.write r with ⟨c', _ | _⟩
    · rfl
    · exact ih c'

/-- A record for another stream leaves a sink as it is, whether it is taken or not. -/
theorem sink_write_of_ne {s : Stream} {r : Record} (h : r.stream ≠ s) :
    (c.write r).1.sink s = c.sink s := by
  have hother : ∀ k : Sink, (c.withSink r.stream k).sink s = c.sink s := by
    intro k
    cases s <;> cases hr : r.stream <;> simp_all [withSink, sink]
  unfold write
  split <;> exact hother _

/-- **Records for the other stream leave a sink as it is**, even when that stream runs
full. -/
theorem sink_deliver_of_forall_ne {s : Stream} (h : ∀ r ∈ rs, r.stream ≠ s) :
    (c.deliver rs).1.sink s = c.sink s := by
  induction rs generalizing c with
  | nil => rfl
  | cons r rs ih =>
    obtain ⟨hr, hrs⟩ := List.forall_mem_cons.mp h
    have hwrite := sink_write_of_ne (c := c) hr
    rw [deliver]
    rcases hw : c.write r with ⟨c', _ | _⟩
    · rw [hw] at hwrite
      exact hwrite
    · rw [hw] at hwrite
      exact (ih hrs).trans hwrite

theorem out_deliver_of_err (h : ∀ r ∈ rs, r.stream = .err) : (c.deliver rs).1.out = c.out := by
  refine sink_deliver_of_forall_ne (s := .out) fun r hr => ?_
  rw [h r hr]
  exact Stream.noConfusion

end Console

end DiagramLint
