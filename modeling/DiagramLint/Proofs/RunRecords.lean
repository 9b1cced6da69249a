import DiagramLint.Program
import DiagramLint.Proofs.Delivery
import DiagramLint.Proofs.FindingPlaces

/-!
# What a run writes

A run that has its settings and its source writes the records of one list
(`Host.records`): the heading, the report, and a record for each diagnostic that is asked
for.  That this is all it does rests on diagnostics that can be shown
(`Host.present_eq_deliver`), and they can, on a renderer that shows whatever lies within
its source: the label of a finding always does (`fits_of_mem_diagnostics`).

A renderer is taken as it comes; `Diagnostic.Renderer.Reliable` is what is asked of it.

Around a run the program writes a notice on the log and, behind a run that cannot start, the
fault.  Neither is on the output (`Host.out_execute_of_prepare_error`), and the exit code is the
expected one if the streams have room for what must be taken (`Host.HasRoomFor`).
-/

namespace DiagramLint

/-! ## Diagnostics that can be shown -/

namespace Diagnostic

/-- The renderer shows every diagnostic whose label lies within the source. -/
def Renderer.Reliable (renderer : Renderer) : Prop :=
  ∀ (name : String) (source : Text) (d : Diagnostic),
    d.fits source = true → (renderer name source d).isSome = true

theorem reliable_render? : Renderer.Reliable render? := fun _ _ _ hfits =>
  render?_isSome_iff.mpr hfits

/-- What is written for a diagnostic that can be shown. -/
def record (renderer : Renderer) (name : String) (source : Text) (d : Diagnostic) : Record :=
  ⟨.err, (renderer name source d).getD "" ++ "\n"⟩

end Diagnostic

/-- **The label of a diagnostic lies within the source of the run.** -/
theorem fits_of_mem_diagnostics {s : Settings} {source : Text} {d : Diagnostic}
    (h : d ∈ (check s source).diagnostics) : d.fits source = true := by
  obtain ⟨f, hf, rfl⟩ := List.mem_map.mp h
  obtain ⟨b, l, hpoints⟩ := exists_pointsAt_of_mem_findings hf
  obtain ⟨message, hlabel⟩ := hpoints.label
  have hd : (Diagnostic.finding f).label = some ⟨l.span, message⟩ := hlabel
  rw [Diagnostic.fits, hd]
  exact decide_eq_true hpoints.stop_le

/-- Diagnostics are shown only when they are asked for, and then of findings of the run. -/
theorem Request.of_mem_diagnosed {r : Request} {t : Tally} {d : Diagnostic}
    (h : d ∈ r.diagnosed t) : r.diagnostics = true ∧ d ∈ t.diagnostics := by
  unfold diagnosed at h
  split at h
  · rename_i hasked
    exact ⟨(Bool.and_eq_true_iff.mp hasked).1, h⟩
  · cases h

/-- Diagnostics that can be shown are written like any other records. -/
theorem Console.deliverDiagnostics_eq_deliver {renderer : Diagnostic.Renderer} {name : String}
    {source : Text} {ds : List Diagnostic} (c : Console)
    (h : ∀ d ∈ ds, (renderer name source d).isSome = true) :
    c.deliverDiagnostics renderer name source ds =
      (c.deliver (ds.map (Diagnostic.record renderer name source))).map id
        (Except.mapError .full) := by
  induction ds generalizing c with
  | nil => rfl
  | cons d ds ih =>
    obtain ⟨hd, hds⟩ := List.forall_mem_cons.mp h
    obtain ⟨text, htext⟩ := Option.isSome_iff_exists.mp hd
    simp only [deliverDiagnostics, List.map_cons, deliver, Diagnostic.record, htext,
      Option.getD_some]
    rcases c.write ⟨.err, text ++ "\n"⟩ with ⟨c', _ | _⟩
    · rfl
    · exact ih c' hds

/-! ## The records of a run -/

/-- The notice on the log goes to the error stream. -/
theorem stream_of_mem_logNotice (r : Request) : ∀ record ∈ logNotice r, record.stream = .err := by
  unfold logNotice
  split
  · exact fun _ hnil => absurd hnil List.not_mem_nil
  · exact List.forall_mem_singleton.mpr rfl

namespace Host

/-- Everything that is written for a source, in order. -/
def records (h : Host) (r : Request) (source : Text) (t : Tally) : List Record :=
  heading t (fileName r.input) :: t.report ++
    (r.diagnosed t).map (Diagnostic.record h.renderer (fileName r.input) source)

variable {h : Host} {r : Request} {c : Console} {s : Settings} {source : Text} {fault : Fault}

/-- **What is presented is the records of the run**, up to the first that is not taken. -/
theorem present_eq_deliver (hh : r.diagnostics = true → h.renderer.Reliable) :
    h.present c r source (check s source) =
      (c.deliver (h.records r source (check s source))).map id (Except.mapError .full) := by
  have hshown : ∀ d ∈ r.diagnosed (check s source),
      (h.renderer (fileName r.input) source d).isSome = true := by
    intro d hd
    obtain ⟨hasked, hd⟩ := Request.of_mem_diagnosed hd
    exact hh hasked _ _ _ (fits_of_mem_diagnostics hd)
  rw [present, records, Console.deliver_append]
  rcases c.deliver (heading (check s source) (fileName r.input) :: (check s source).report)
    with ⟨c', _ | _⟩
  · rfl
  · exact Console.deliverDiagnostics_eq_deliver c' hshown

/-! ## How a run ends -/

theorem prepare_of_settings_error (hs : h.settings r.config = .error fault) :
    h.prepare r = .error fault := by
  rw [prepare, hs]
  rfl

theorem prepare_of_read_error {cause : IoFault} (hs : h.settings r.config = .ok s)
    (hr : h.files.read r.input = .error cause) : h.prepare r = .error (.read r.input cause) := by
  rw [prepare, hs, hr]
  rfl

theorem prepare_of_read (hs : h.settings r.config = .ok s)
    (hr : h.files.read r.input = .ok source) : h.prepare r = .ok (s, source) := by
  rw [prepare, hs, hr]
  rfl

/-- **A run that cannot start leaves both streams as they were.** -/
theorem run_of_prepare_error (hp : h.prepare r = .error fault) :
    h.run r c = (c, .error fault) := by
  rw [run, hp]

/-- **A run with room for its records ends with the tally of the source**, and each stream
has received the texts of its records. -/
theorem run_of_hasRoom (hh : r.diagnostics = true → h.renderer.Reliable)
    (hp : h.prepare r = .ok (s, source))
    (hc : c.HasRoom (h.records r source (check s source))) :
    h.run r c =
      (c.add (Record.textOn .out (h.records r source (check s source)))
        (Record.textOn .err (h.records r source (check s source))), .ok (check s source)) := by
  simp only [run, hp, present_eq_deliver hh, Console.deliver_of_hasRoom hc]
  rfl

/-! ## How the program ends -/

/-- What has to be written when a run cannot start: the notice on the log, and the fault while
the log is off. -/
def due (h : Host) (r : Request) (fault : Fault) : List Record :=
  logNotice r ++ if isLogOff r.logLevel then [fault.record h.renderer] else []

/-- The streams have room for all that a request comes to, whether it can be started or not. -/
structure HasRoomFor (h : Host) (c : Console) (r : Request) : Prop where
  started : ∀ s source, h.prepare r = .ok (s, source) →
    c.HasRoom (logNotice r ++ h.records r source (check s source))
  stopped : ∀ fault, h.prepare r = .error fault → c.HasRoom (h.due r fault)

theorem hasRoomFor_of_unbounded (hc : c.Unbounded) : h.HasRoomFor c r :=
  ⟨fun _ _ _ => hc.hasRoom _, fun _ _ => hc.hasRoom _⟩

/-- After a fault the output is as the run has left it: the notice on the log and the fault go
to the error stream. -/
theorem out_execute_of_prepare_error (hp : h.prepare r = .error fault) :
    (h.execute r c).1.out = c.out := by
  have hnotice := Console.out_deliver_of_err (c := c) (stream_of_mem_logNotice r)
  have hfault : ∀ record ∈ [fault.record h.renderer], record.stream = .err :=
    List.forall_mem_singleton.mpr rfl
  rw [execute]
  rcases hnoticed : c.deliver (logNotice r) with ⟨c', _ | _⟩
  · rw [hnoticed] at hnotice
    exact hnotice
  · have hwritten := Console.out_deliver_of_err (c := c') hfault
    rw [hnoticed] at hnotice
    simp only [run_of_prepare_error hp]
    -- the fault is written last, and the exit code alone goes by whether it was taken
    rcases htaken : c'.deliver [fault.record h.renderer] with ⟨c'', _ | _⟩
    · rw [htaken] at hwritten
      exact hwritten.trans hnotice
    · rw [htaken] at hwritten
      exact hwritten.trans hnotice

/-- After a fault there is no exit code but two. -/
theorem exitCode_eq_of_prepare_error (hp : h.prepare r = .error fault) :
    ∀ code ∈ (h.execute r c).2, code = faultExitCode := by
  rw [execute]
  rcases c.deliver (logNotice r) with ⟨c', _ | _⟩
  · exact fun code hnone => nomatch hnone
  · simp only [run_of_prepare_error hp]
    rcases c'.deliver [fault.record h.renderer] with ⟨c'', _ | _⟩
    · cases isLogOff r.logLevel with
      | false => exact fun code hcode => (Option.mem_some.mp hcode).symm
      | true => exact fun code hnone => nomatch hnone
    · exact fun code hcode => (Option.mem_some.mp hcode).symm

/-- After a fault the exit code is two, if what has to be written is taken. -/
theorem exitCode_execute_of_prepare_error (hp : h.prepare r = .error fault)
    (hc : c.HasRoom (h.due r fault)) : (h.execute r c).2 = some faultExitCode := by
  obtain ⟨hnotice, hfault⟩ := Console.hasRoom_append_iff.mp hc
  simp only [execute, Console.deliver_of_hasRoom hnotice, run_of_prepare_error hp]
  cases hoff : isLogOff r.logLevel with
  | false =>
    -- the log goes on, whether the fault is taken or not
    split <;> rfl
  | true =>
    rw [if_pos hoff] at hfault
    rw [Console.deliver_of_hasRoom hfault]

/-- With room for its records a request is carried out: the streams have received them, behind
the notice on the log, and the exit code is that of the tally. -/
theorem execute_eq_of_hasRoom (hh : r.diagnostics = true → h.renderer.Reliable)
    (hp : h.prepare r = .ok (s, source))
    (hc : c.HasRoom (logNotice r ++ h.records r source (check s source))) :
    h.execute r c =
      (c.add (Record.textOn .out (logNotice r ++ h.records r source (check s source)))
        (Record.textOn .err (logNotice r ++ h.records r source (check s source))),
        some (check s source).exitCode) := by
  obtain ⟨hnotice, hrecords⟩ := Console.hasRoom_append_iff.mp hc
  simp only [execute, Console.deliver_of_hasRoom hnotice, run_of_hasRoom hh hp hrecords,
    Console.add_add, Record.textOn_append]

theorem exitCode_execute_of_hasRoom (hh : r.diagnostics = true → h.renderer.Reliable)
    (hp : h.prepare r = .ok (s, source))
    (hc : c.HasRoom (logNotice r ++ h.records r source (check s source))) :
    (h.execute r c).2 = some (check s source).exitCode := by
  rw [execute_eq_of_hasRoom hh hp hc]

end Host

end DiagramLint
