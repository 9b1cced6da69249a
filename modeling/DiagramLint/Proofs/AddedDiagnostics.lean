import DiagramLint.Proofs.FatalFaults
import DiagramLint.Proofs.ReportLines

/-!
# Diagnostics and the log add to the error stream only

Two requests for the same source and the same settings may differ in whether diagnostics are
shown, and in the level of the log.  Neither is looked at before the report is written, and
both show in records for the error stream alone (`Host.textOn_out_records`).  So the output of
the two runs is the same, and so is the tally, from which the exit code is read off
(`Host.execute_congr`).

What diagnostics add stands behind everything else: a text for each finding, in order
(`Host.textOn_err_records`).  They cannot stop a run that would have been completed without
them, since the label of every finding lies within the source that it is shown against
(`fits_of_mem_diagnostics`).
-/

namespace DiagramLint

/-- The same request, with or without diagnostics. -/
def Request.withDiagnostics (r : Request) (shown : Bool) : Request :=
  { r with diagnostics := shown }

/-- The text of a diagnostic; nothing for one that cannot be shown. -/
def Diagnostic.shownText (renderer : Diagnostic.Renderer) (name : String) (source : Text)
    (d : Diagnostic) : String :=
  (renderer name source d).getD ""

/-! ## The records with and without diagnostics -/

/-- A run without findings has no diagnostics to show, whether they are asked for or not. -/
theorem Request.diagnosed_withDiagnostics (r : Request) (shown : Bool) (s : Settings)
    (source : Text) : (r.withDiagnostics shown).diagnosed (check s source) =
      if shown then (check s source).diagnostics else [] := by
  cases shown with
  | false => rfl
  | true =>
    rw [diagnosed, withDiagnostics, Bool.true_and]
    cases hclean : (check s source).isClean with
    | false => rfl
    | true =>
      rw [Tally.diagnostics, (isClean_check_iff s source).mp hclean]
      rfl

namespace Host

variable {h : Host} {r r' : Request} {c : Console} {s : Settings} {source : Text}

theorem records_withDiagnostics (h : Host) (r : Request) (shown : Bool) (s : Settings)
    (source : Text) : h.records (r.withDiagnostics shown) source (check s source) =
      heading (check s source) (fileName r.input) :: (check s source).report ++
        (if shown then (check s source).diagnostics else []).map
          (Diagnostic.record h.renderer (fileName r.input) source) := by
  rw [records, Request.diagnosed_withDiagnostics]
  rfl

/-- **The output shows nothing but the heading and the report.** -/
theorem textOn_out_records (h : Host) (r : Request) (source : Text) (t : Tally) :
    Record.textOn .out (h.records r source t) =
      Record.textOn .out (heading t (fileName r.input) :: t.report) := by
  have hshown : ∀ record ∈ (r.diagnosed t).map
      (Diagnostic.record h.renderer (fileName r.input) source), record.stream = .err := by
    intro record hrecord
    obtain ⟨d, -, rfl⟩ := List.mem_map.mp hrecord
    rfl
  rw [records, Record.textOn_append, Record.textOn_out_of_err hshown, String.append_empty]

/-- **What diagnostics add to the error stream**: their texts, each ended by a newline. -/
theorem textOn_err_records (h : Host) (r : Request) (s : Settings) (source : Text) :
    Record.textOn .err (h.records (r.withDiagnostics true) source (check s source)) =
      Record.textOn .err (h.records (r.withDiagnostics false) source (check s source)) ++
        terminated ((check s source).diagnostics.map
          (Diagnostic.shownText h.renderer (fileName r.input) source)) := by
  have hlines : (check s source).diagnostics.map
      (Diagnostic.record h.renderer (fileName r.input) source) =
      ((check s source).diagnostics.map
        (Diagnostic.shownText h.renderer (fileName r.input) source)).map (Record.line .err) := by
    rw [List.map_map]
    rfl
  rw [records_withDiagnostics, records_withDiagnostics, if_pos rfl, hlines, Record.textOn_append,
    Record.textOn_map_line, if_pos rfl]
  simp

/-- Room for the records with diagnostics is room for those without. -/
theorem hasRoom_of_withDiagnostics
    (hc : c.HasRoom (h.records (r.withDiagnostics true) source (check s source))) :
    c.HasRoom (h.records (r.withDiagnostics false) source (check s source)) := by
  rw [records_withDiagnostics] at hc ⊢
  obtain ⟨hreport, -⟩ := Console.hasRoom_append_iff.mp hc
  simpa using hreport

/-- Each finding of a run is shown by a text of its own. -/
theorem forall₂_shownText (hh : h.renderer.Reliable) (name : String) (s : Settings)
    (source : Text) :
    List.Forall₂ (fun f text => h.renderer name source (.finding f) = some text)
      (check s source).findings
      ((check s source).diagnostics.map (Diagnostic.shownText h.renderer name source)) := by
  rw [Tally.diagnostics, List.map_map, List.forall₂_map_right_iff, List.forall₂_same]
  intro f hf
  have hfits := fits_of_mem_diagnostics (List.mem_map_of_mem hf)
  obtain ⟨text, htext⟩ := Option.isSome_iff_exists.mp (hh name source (.finding f) hfits)
  rw [Function.comp_apply, Diagnostic.shownText, htext]
  rfl

/-! ## Requests for the same source and the same settings -/

theorem prepare_congr (hinput : r'.input = r.input) (hconfig : r'.config = r.config) :
    h.prepare r' = h.prepare r := by
  rw [prepare, prepare, hinput, hconfig]

/-- The output and the exit code of a request that is carried out. -/
theorem out_execute (hh : h.renderer.Reliable) (hp : h.prepare r = .ok (s, source))
    (hc : h.HasRoomFor c r) :
    (h.execute r c).1.out = c.out.add (Record.textOn .out
        (heading (check s source) (fileName r.input) :: (check s source).report)) ∧
      (h.execute r c).2 = some (check s source).exitCode := by
  have hnotice := Record.textOn_out_of_err (stream_of_mem_logNotice r)
  rw [execute_eq_of_hasRoom (fun _ => hh) hp (hc.started s source hp), Record.textOn_append,
    hnotice, String.empty_append, textOn_out_records]
  exact ⟨rfl, rfl⟩

/-- **The output and the exit code go by the source and the settings.** -/
theorem execute_congr (hh : h.renderer.Reliable) (hinput : r'.input = r.input)
    (hconfig : r'.config = r.config) (hc : h.HasRoomFor c r) (hc' : h.HasRoomFor c r') :
    (h.execute r' c).1.out = (h.execute r c).1.out ∧
      (h.execute r' c).2 = (h.execute r c).2 := by
  have hsame := prepare_congr (h := h) hinput hconfig
  cases hp : h.prepare r with
  | error fault =>
    have hcode := exitCode_execute_of_prepare_error hp (hc.stopped fault hp)
    have hcode' := exitCode_execute_of_prepare_error (hsame.trans hp)
      (hc'.stopped fault (hsame.trans hp))
    rw [out_execute_of_prepare_error hp, out_execute_of_prepare_error (hsame.trans hp)]
    exact ⟨rfl, hcode'.trans hcode.symm⟩
  | ok started =>
    obtain ⟨s, source⟩ := started
    obtain ⟨hout, hcode⟩ := out_execute hh hp hc
    obtain ⟨hout', hcode'⟩ := out_execute hh (hsame.trans hp) hc'
    rw [hinput] at hout'
    exact ⟨hout'.trans hout.symm, hcode'.trans hcode.symm⟩

end Host

/-- The text of a diagnostic begins with its code. -/
theorem Diagnostic.exists_eq_code_append {name : String} {source : Text} {d : Diagnostic}
    {text : String} (h : render? name source d = some text) : ∃ rest, text = d.code ++ rest := by
  unfold render? at h
  split at h
  · obtain rfl := Option.some.inj h
    simp only [String.append_assoc]
    exact ⟨_, rfl⟩
  · cases h

end DiagramLint
