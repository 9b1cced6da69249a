import DiagramLint.Proofs.RunRecords
import DiagramLint.Proofs.SettingsValidity

/-!
# Faults come before output

A run can be stopped before it has checked anything: its settings cannot be had, or its
source cannot be read.  Both are tried before the first record is written, the settings
first, so a run that is stopped there has written nothing, on streams of any size, and
the fault that it ends with is that of the settings if there are two.  Behind this point
nothing but a stream can fail: whatever is written has a place to go to, and diagnostics
can be shown.
-/

namespace DiagramLint

theorem Tally.exitCode_check_eq (s : Settings) (source : Text) :
    (check s source).exitCode = if (check s source).findings = [] then 0 else 1 := by
  simp only [exitCode, isClean_check_iff]

namespace Host

variable {h : Host} {r : Request} {words : List String}

theorem program_of_request (hw : Request.ofWords words = .ok r) (c : Console) :
    h.program words c = h.execute r c := by
  rw [program, hw]

/-- With a fault in the settings, in the source or in both, a run cannot start. -/
theorem exists_prepare_error
    (hfault : (∃ fault, h.settings r.config = .error fault) ∨
      ∃ cause, h.files.read r.input = .error cause) :
    ∃ fault, h.prepare r = .error fault := by
  cases hs : h.settings r.config with
  | error fault => exact ⟨fault, prepare_of_settings_error hs⟩
  | ok s =>
    rcases hfault with ⟨fault, hs'⟩ | ⟨cause, hr⟩
    · rw [hs] at hs'
      cases hs'
    · exact ⟨_, prepare_of_read_error hs hr⟩

end Host

/-- **Faults come before output.**  When the settings of a run cannot be had, it ends with
that fault, whether its source can be read or not; when they can and the source cannot be
read, it ends with the fault of the source.  In both cases neither stream is touched, and
the program puts nothing on the output and has no exit code but two; it has that code as long
as there is room for what it has to say.  When both are there, the settings are valid, and as long as the streams have room for what is written, and
diagnostics that are asked for can be shown, the run ends with the tally of the source; the
exit code is zero when there are no findings and one when there are. -/
theorem faults_precede_output (h : Host) (r : Request) (c : Console) :
    (∀ fault, h.settings r.config = .error fault → h.run r c = (c, .error fault)) ∧
    (∀ s cause, h.settings r.config = .ok s → h.files.read r.input = .error cause →
      h.run r c = (c, .error (.read r.input cause))) ∧
    (∀ words, Request.ofWords words = .ok r →
      ((∃ fault, h.settings r.config = .error fault) ∨
        ∃ cause, h.files.read r.input = .error cause) →
      (h.program words c).1.out = c.out ∧ (∀ code ∈ (h.program words c).2, code = 2) ∧
      (h.HasRoomFor c r → (h.program words c).2 = some 2)) ∧
    ∀ s source, h.settings r.config = .ok s → h.files.read r.input = .ok source →
      s.Valid ∧
      (check s source).exitCode = (if (check s source).findings = [] then 0 else 1) ∧
      ((r.diagnostics = true → h.renderer.Reliable) →
        (c.HasRoom (h.records r source (check s source)) →
          (h.run r c).2 = .ok (check s source)) ∧
        ∀ words, Request.ofWords words = .ok r →
          c.HasRoom (logNotice r ++ h.records r source (check s source)) →
          (h.program words c).2 = some (if (check s source).findings = [] then 0 else 1)) := by
  refine ⟨?_, ?_, ?_, ?_⟩
  · intro fault hs
    exact Host.run_of_prepare_error (Host.prepare_of_settings_error hs)
  · intro s cause hs hr
    exact Host.run_of_prepare_error (Host.prepare_of_read_error hs hr)
  · intro words hw hfault
    obtain ⟨fault, hp⟩ := Host.exists_prepare_error hfault
    rw [Host.program_of_request hw]
    exact ⟨Host.out_execute_of_prepare_error hp, Host.exitCode_eq_of_prepare_error hp,
      fun hc => Host.exitCode_execute_of_prepare_error hp (hc.stopped fault hp)⟩
  · intro s source hs hr
    have hp := Host.prepare_of_read hs hr
    refine ⟨Settings.valid_of_load hs, Tally.exitCode_check_eq s source, fun hh => ⟨?_, ?_⟩⟩
    · intro hc
      rw [Host.run_of_hasRoom hh hp hc]
    · intro words hw hc
      rw [Host.program_of_request hw, Host.exitCode_execute_of_hasRoom hh hp hc,
        Tally.exitCode_check_eq]

/-- A host with one file, whose only diagram is a quadrant chart with one finding. -/
def quadrantHost : Host :=
  .ofFiles
    ⟨fun path => path = "guide.ts", fun path =>
      if path = "guide.ts" then .ok "diagram: `quadrantChart\n x-axis é`".toList
      else .error .notFound⟩
    none

/-- Of two missing files it is that of the settings which stops the run, streams that take
nothing are left alone, and with streams that take everything the finding is counted. -/
theorem faults_precede_output_of_missing_files :
    quadrantHost.run ⟨"absent.ts", some "absent.toml", "warn", true⟩
        (.ofCapacities (some 0) (some 0)) =
      (.ofCapacities (some 0) (some 0), .error (.config (.missingFile "absent.toml"))) ∧
    quadrantHost.run ⟨"absent.ts", none, "warn", true⟩ (.ofCapacities none none) =
      (.ofCapacities none none, .error (.read "absent.ts" .notFound)) ∧
    (quadrantHost.program ["absent.ts", "-d"] (.ofCapacities none none)).1.out =
      .ofCapacity none ∧
    (quadrantHost.program ["absent.ts", "-d"] (.ofCapacities none none)).2 = some 2 ∧
    (quadrantHost.program ["guide.ts", "-d"] (.ofCapacities none none)).2 = some 1 := by
  have hsettings : quadrantHost.settings none = .ok .default := by rfl
  have habsent : quadrantHost.files.read "absent.ts" = .error .notFound := by rfl
  have hguide : quadrantHost.files.read "guide.ts" =
      .ok "diagram: `quadrantChart\n x-axis é`".toList := by rfl
  obtain ⟨hconfig, -, -, -⟩ := faults_precede_output quadrantHost
    ⟨"absent.ts", some "absent.toml", "warn", true⟩ (.ofCapacities (some 0) (some 0))
  obtain ⟨-, hread, hprogram, -⟩ := faults_precede_output quadrantHost
    ⟨"absent.ts", none, "warn", true⟩ (.ofCapacities none none)
  obtain ⟨-, -, -, hstarted⟩ := faults_precede_output quadrantHost
    ⟨"guide.ts", none, "warn", true⟩ (.ofCapacities none none)
  obtain ⟨hout, -, hcode⟩ := hprogram ["absent.ts", "-d"] (by rfl) (Or.inr ⟨_, habsent⟩)
  obtain ⟨-, -, hends⟩ := hstarted _ _ hsettings hguide
  obtain ⟨-, hended⟩ := hends fun _ => Diagnostic.reliable_render?
  refine ⟨hconfig _ (by rfl), hread _ _ hsettings habsent, hout,
    hcode (Host.hasRoomFor_of_unbounded .ofCapacities), ?_⟩
  rw [hended ["guide.ts", "-d"] (by rfl) (Console.Unbounded.ofCapacities.hasRoom _)]
  exact congrArg some (if_neg (by decide +kernel))

end DiagramLint
