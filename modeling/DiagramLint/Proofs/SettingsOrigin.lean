import DiagramLint.Proofs.SettingsValidity

/-!
# Where settings come from

There are up to four origins of settings, and they are ranked (`Settings.origins`): the
file that was asked for, the file in the working directory, the file of the user, and the
defaults.  A file that was asked for always applies, the other two when they are there,
the defaults in any case; so one of the origins is the first that applies.

That origin alone decides.  What it gives is described case by case in `Origin.Gives`,
faults included, and loading gives just this (`Origin.Chosen.load_eq_iff`): an origin that
fails is not made up for by a later one.  It follows that a second state of the files, in
which the same origin is chosen and looks the same, gives the same settings or the same
fault (`Origin.Chosen.load_congr`), whatever has become of the files that come later.
-/

namespace DiagramLint

namespace FileSystem

/-- In both states of the files a path looks the same. -/
structure AgreesAt (fs fs' : FileSystem) (path : String) : Prop where
  present : fs.present path = fs'.present path
  read : fs.read path = fs'.read path

/-- There is a file with a text at a path. -/
structure Holds (fs : FileSystem) (path : String) (t : Text) : Prop where
  present : fs.present path = true
  read : fs.read path = .ok t

end FileSystem

namespace Settings

/-- Where settings can come from. -/
inductive Origin where
  /-- The file that was asked for. -/
  | asked (path : String)
  /-- A file that is used if it exists. -/
  | lookedFor (path : String)
  | defaults
  deriving DecidableEq, Repr

/-- The origins of settings, the one that goes before all others first. -/
def origins (userDirectory : Option String) (asked : Option String) : List Origin :=
  (asked.map Origin.asked).toList ++ .lookedFor localFile ::
    ((userDirectory.map fun directory => .lookedFor (userFile directory)).toList ++ [.defaults])

namespace Origin

def path? : Origin → Option String
  | asked path => some path
  | lookedFor path => some path
  | defaults => none

/-- Whether settings can come from here: from a file that is looked for, if it exists. -/
def applies (fs : FileSystem) : Origin → Bool
  | asked _ => true
  | lookedFor path => fs.present path
  | defaults => true

/-- The origin applies and none of those ranked before it does. -/
structure Chosen (fs : FileSystem) (before : List Origin) (o : Origin) : Prop where
  usable : o.applies fs = true
  first : ∀ o' ∈ before, o'.applies fs = false

/-- What an origin gives, by what is found there. -/
inductive Gives (reader : DocumentReader) (fs : FileSystem) : Origin → Except Fault Settings → Prop
  | defaults : Gives reader fs .defaults (.ok default)
  /-- A file was asked for that does not exist. -/
  | missing {path : String} (h : fs.present path = false) :
      Gives reader fs (.asked path) (.error (.config (.missingFile path)))
  /-- There is something, but its text cannot be had. -/
  | unreadable {o : Origin} {path : String} {cause : IoFault} (hpath : o.path? = some path)
      (hpresent : fs.present path = true) (hread : fs.read path = .error cause) :
      Gives reader fs o (.error (.read path cause))
  /-- The text is no document, or not one with settings. -/
  | malformed {o : Origin} {path : String} {t : Text} {e : DocumentError}
      (hpath : o.path? = some path) (hfile : fs.Holds path t) (hreader : reader t = .error e) :
      Gives reader fs o (.error (.config (.unreadable e.message)))
  | invalid {o : Origin} {path : String} {t : Text} {s : Settings} {v : Violation}
      (hpath : o.path? = some path) (hfile : fs.Holds path t) (hreader : reader t = .ok s)
      (hviolation : s.violation? = some v) :
      Gives reader fs o (.error (.config (.rejected v.message)))
  | valid {o : Origin} {path : String} {t : Text} {s : Settings}
      (hpath : o.path? = some path) (hfile : fs.Holds path t) (hreader : reader t = .ok s)
      (hvalid : s.Valid) :
      Gives reader fs o (.ok s)

/-- The settings of an origin, with no other in sight. -/
def load (reader : DocumentReader) (fs : FileSystem) : Origin → Except Fault Settings
  | asked path => loadFile reader fs path
  | lookedFor path => loadFile reader fs path
  | defaults => .ok default

variable {reader : DocumentReader} {fs fs' : FileSystem} {o : Origin} {path : String}
  {result : Except Fault Settings}

/-! ## One origin -/

theorem load_of_path? (h : o.path? = some path) : o.load reader fs = loadFile reader fs path := by
  cases o with
  | asked p | lookedFor p =>
    obtain rfl := Option.some.inj h
    rfl
  | defaults => cases h

/-- What is loaded from a file with a text is what the text is found to be. -/
theorem loadFile_of_holds {t : Text} (h : fs.Holds path t) :
    loadFile reader fs path = (ofConfiguration reader t).mapError .config := by
  rw [loadFile, if_pos h.present, h.read]

theorem Gives.load_eq (h : o.Gives reader fs result) : o.load reader fs = result := by
  cases h with
  | defaults => rfl
  | missing h =>
    rw [load, loadFile, h]
    rfl
  | unreadable hpath hpresent hread => rw [load_of_path? hpath, loadFile, if_pos hpresent, hread]
  | malformed hpath hfile hreader =>
    rw [load_of_path? hpath, loadFile_of_holds hfile, ofConfiguration, hreader]
    rfl
  | invalid hpath hfile hreader hviolation =>
    simp only [load_of_path? hpath, loadFile_of_holds hfile, ofConfiguration, hreader, hviolation]
    rfl
  | valid hpath hfile hreader hvalid =>
    have hnone : _ = none := hvalid
    simp only [load_of_path? hpath, loadFile_of_holds hfile, ofConfiguration, hreader, hnone]
    rfl

/-- A file that exists gives something, whatever is wrong with it. -/
theorem gives_loadFile (hpath : o.path? = some path) (hpresent : fs.present path = true) :
    o.Gives reader fs (loadFile reader fs path) := by
  cases hread : fs.read path with
  | error cause =>
    rw [loadFile, if_pos hpresent, hread]
    exact .unreadable hpath hpresent hread
  | ok t =>
    have hfile : fs.Holds path t := ⟨hpresent, hread⟩
    rw [loadFile_of_holds hfile, ofConfiguration]
    cases hreader : reader t with
    | error e => exact .malformed hpath hfile hreader
    | ok s =>
      cases hviolation : s.violation? with
      | some v =>
        simp only [hviolation]
        exact .invalid hpath hfile hreader hviolation
      | none =>
        simp only [hviolation]
        exact .valid hpath hfile hreader hviolation

/-- **What an origin that applies gives** is what is loaded from it, and nothing else. -/
theorem load_eq_iff_gives (h : o.applies fs = true) :
    o.load reader fs = result ↔ o.Gives reader fs result := by
  refine ⟨?_, Gives.load_eq⟩
  rintro rfl
  cases o with
  | asked path =>
    cases hpresent : fs.present path with
    | true => exact gives_loadFile rfl hpresent
    | false =>
      rw [load, loadFile, hpresent]
      exact .missing hpresent
  | lookedFor path => exact gives_loadFile rfl h
  | defaults => exact .defaults

/-- An origin is no more than the file that it names. -/
theorem applies_congr (h : ∀ path ∈ o.path?, fs.AgreesAt fs' path) :
    o.applies fs = o.applies fs' := by
  cases o with
  | asked path => rfl
  | lookedFor path => exact (h path rfl).present
  | defaults => rfl

theorem load_congr (h : ∀ path ∈ o.path?, fs.AgreesAt fs' path) :
    o.load reader fs = o.load reader fs' := by
  cases o with
  | asked path | lookedFor path =>
    have hagree := h path rfl
    rw [load, load, loadFile, loadFile, hagree.present, hagree.read]
  | defaults => rfl

/-! ## The first origin that applies -/

variable {userDirectory userDirectory' question question' : Option String}
  {before before' after after' : List Origin}

theorem Chosen.find?_eq (h : Chosen fs before o) (after : List Origin) :
    (before ++ o :: after).find? (applies fs) = some o := by
  refine List.find?_eq_some_iff_append.mpr ⟨h.usable, before, after, rfl, ?_⟩
  intro o' ho'
  rw [h.first o' ho']
  rfl

theorem exists_chosen (fs : FileSystem) (userDirectory question : Option String) :
    ∃ before o after, origins userDirectory question = before ++ o :: after ∧
      Chosen fs before o := by
  have hdefaults : .defaults ∈ origins userDirectory question := by simp [origins]
  have hsome : ((origins userDirectory question).find? (applies fs)).isSome = true :=
    List.find?_isSome.mpr ⟨.defaults, hdefaults, rfl⟩
  obtain ⟨o, ho⟩ := Option.isSome_iff_exists.mp hsome
  obtain ⟨husable, before, after, hsplit, hbefore⟩ := List.find?_eq_some_iff_append.mp ho
  refine ⟨before, o, after, hsplit, husable, ?_⟩
  intro o' ho'
  exact Bool.not_eq_true' _ |>.mp (hbefore o' ho')

/-- Without a file that was asked for, the origins are the candidates and the defaults. -/
theorem origins_none (userDirectory : Option String) :
    origins userDirectory none = (candidates userDirectory).map lookedFor ++ [.defaults] := by
  cases userDirectory <;> rfl

/-- **Loading is loading from the first origin that applies.** -/
theorem Chosen.load_eq (h : Chosen fs before o)
    (hsplit : origins userDirectory question = before ++ o :: after) :
    Settings.load reader fs userDirectory question = o.load reader fs := by
  have hfind := hsplit ▸ h.find?_eq after
  cases question with
  | some path =>
    -- a file that was asked for comes first and applies
    obtain rfl := Option.some.inj hfind
    rfl
  | none =>
    rw [origins_none, List.find?_append, List.find?_map] at hfind
    change Option.or (((candidates userDirectory).find? fs.present).map lookedFor) _ = _ at hfind
    rw [Settings.load, chosen?]
    cases hfile : (candidates userDirectory).find? fs.present with
    | some path =>
      rw [hfile] at hfind
      obtain rfl := Option.some.inj hfind
      rfl
    | none =>
      rw [hfile] at hfind
      obtain rfl := Option.some.inj hfind
      rfl

theorem Chosen.load_eq_iff (h : Chosen fs before o)
    (hsplit : origins userDirectory question = before ++ o :: after) :
    Settings.load reader fs userDirectory question = result ↔ o.Gives reader fs result := by
  rw [h.load_eq hsplit, load_eq_iff_gives h.usable]

/-- An origin stays chosen as long as nothing before it comes to apply and its own file looks
the same. -/
theorem Chosen.of_agree (h : Chosen fs before o)
    (hbefore : ∀ o' ∈ before', o'.applies fs' = false)
    (hagree : ∀ path ∈ o.path?, fs.AgreesAt fs' path) : Chosen fs' before' o :=
  ⟨applies_congr hagree ▸ h.usable, hbefore⟩

/-- **Nothing but the chosen origin counts.**  Wherever it is chosen and looks the same,
loading comes to the same. -/
theorem Chosen.load_congr (h : Chosen fs before o)
    (hsplit : origins userDirectory question = before ++ o :: after)
    (hbefore : ∀ o' ∈ before', o'.applies fs' = false)
    (hsplit' : origins userDirectory' question' = before' ++ o :: after')
    (hagree : ∀ path ∈ o.path?, fs.AgreesAt fs' path) :
    Settings.load reader fs' userDirectory' question' =
      Settings.load reader fs userDirectory question := by
  rw [h.load_eq hsplit, (h.of_agree hbefore hagree).load_eq hsplit', Origin.load_congr hagree]

end Origin

/-- **Loading commits to the first origin that applies.**  There is such an origin, and what
is loaded is exactly what it gives by itself: the defaults; a missing file that was asked
for; a file whose text cannot be had, by name; a text that the reader makes no settings of;
settings that are not valid; or valid settings.  Nothing else is ever loaded.  Whenever the
same origin is chosen and its file looks the same, loading comes to the same, whatever else
differs, and so it does when nothing differs but what is ranked behind it. -/
theorem load_commits_to_first (reader : DocumentReader) (fs : FileSystem)
    (userDirectory question : Option String) :
    (∃ before o after, origins userDirectory question = before ++ o :: after ∧
      Origin.Chosen fs before o) ∧
    (∀ s, load reader fs userDirectory question = .ok s → s.Valid) ∧
    ∀ before o after, origins userDirectory question = before ++ o :: after →
      Origin.Chosen fs before o →
      (∀ result, load reader fs userDirectory question = result ↔ o.Gives reader fs result) ∧
      (∀ fs' userDirectory' question' before' after',
        origins userDirectory' question' = before' ++ o :: after' →
        (∀ o' ∈ before', o'.applies fs' = false) → (∀ path ∈ o.path?, fs.AgreesAt fs' path) →
        load reader fs' userDirectory' question' = load reader fs userDirectory question) ∧
      ∀ fs', (∀ o' ∈ before ++ [o], ∀ path ∈ o'.path?, fs.AgreesAt fs' path) →
        load reader fs' userDirectory question = load reader fs userDirectory question := by
  refine ⟨Origin.exists_chosen fs userDirectory question, fun s h => valid_of_load h, ?_⟩
  intro before o after hsplit hchosen
  refine ⟨fun result => hchosen.load_eq_iff hsplit, ?_, ?_⟩
  · intro fs' userDirectory' question' before' after' hsplit' hbefore hagree
    exact hchosen.load_congr hsplit hbefore hsplit' hagree
  · intro fs' hagree
    -- what did not apply still does not
    have hbefore : ∀ o' ∈ before, o'.applies fs' = false := by
      intro o' ho'
      have hsame := Origin.applies_congr (hagree o' (List.mem_append_left _ ho'))
      exact hsame ▸ hchosen.first o' ho'
    have hmem : o ∈ before ++ [o] := List.mem_append_right _ List.mem_cons_self
    exact hchosen.load_congr hsplit hbefore hsplit (hagree o hmem)

/-- The file in the working directory asks for a preview of no characters; there is a file with
a text for a number, a directory, and perhaps a file of the user. -/
def brokenFiles (user : Option Text) : FileSystem where
  present path := path ∈ [localFile, "text.toml", "folder"] ||
    (path = userFile "/home/config" && user.isSome)
  read path :=
    if path = localFile then .ok "[quadrant]\npreview_len = 0".toList
    else if path = "text.toml" then .ok "[quadrant]\npreview_len = 'five'".toList
    else if path = "folder" then .error .isDirectory
    else user.elim (.error .notFound) .ok

/-- The file in the working directory is rejected although that of the user could be used, and
it still is when the latter is deleted.  A file that is asked for is missing, cannot be read or
has no settings in it, although both of the others are there. -/
theorem load_commits_to_first_of_brokenFiles :
    load ofDocument (brokenFiles (some "[quadrant]\npreview_len = 5".toList))
        (some "/home/config") none =
      .error (.config (.rejected "quadrant.preview_len must be at least 1")) ∧
    load ofDocument (brokenFiles none) (some "/home/config") none =
      load ofDocument (brokenFiles (some "[quadrant]\npreview_len = 5".toList))
        (some "/home/config") none ∧
    (∀ user, load ofDocument (brokenFiles user) (some "/home/config") (some "absent.toml") =
      .error (.config (.missingFile "absent.toml"))) ∧
    (∀ user, load ofDocument (brokenFiles user) (some "/home/config") (some "folder") =
      .error (.read "folder" .isDirectory)) ∧
    ∀ user, load ofDocument (brokenFiles user) (some "/home/config") (some "text.toml") =
      .error (.config (.unreadable "preview_len has a value of the wrong type")) := by
  have hnone : ∀ fs, ∀ o' ∈ ([] : List Origin), o'.applies fs = false :=
    fun _ _ h => absurd h List.not_mem_nil
  -- a file that is asked for gives what it gives by itself
  have hasked : ∀ user path result,
      Origin.Gives ofDocument (brokenFiles user) (.asked path) result →
      load ofDocument (brokenFiles user) (some "/home/config") (some path) = result := by
    intro user path result hresult
    obtain ⟨-, -, hfirst⟩ := load_commits_to_first ofDocument (brokenFiles user)
      (some "/home/config") (some path)
    obtain ⟨hgives, -, -⟩ := hfirst [] (.asked path) _ rfl ⟨rfl, hnone _⟩
    exact (hgives result).mpr hresult
  obtain ⟨-, -, hfirst⟩ := load_commits_to_first ofDocument
    (brokenFiles (some "[quadrant]\npreview_len = 5".toList)) (some "/home/config") none
  obtain ⟨hgives, -, hlower⟩ := hfirst [] (.lookedFor localFile) _ rfl ⟨rfl, hnone _⟩
  refine ⟨(hgives _).mpr ?_, hlower _ ?_, ?_, ?_, ?_⟩
  · exact .invalid (v := .emptyPreview) (t := "[quadrant]\npreview_len = 0".toList)
      (s := { default with previewLength := 0 }) rfl ⟨rfl, rfl⟩ rfl rfl
  · intro o' ho' path hpath
    obtain rfl := List.mem_singleton.mp ho'
    obtain rfl := Option.some.inj hpath
    exact ⟨rfl, rfl⟩
  · intro user
    have habsent : (brokenFiles user).present "absent.toml" = false := by cases user <;> rfl
    exact hasked user _ _ (.missing habsent)
  · intro user
    exact hasked user _ _ (.unreadable rfl rfl rfl)
  · intro user
    exact hasked user _ _ (.malformed (t := "[quadrant]\npreview_len = 'five'".toList)
      (e := .kind "preview_len") rfl ⟨rfl, rfl⟩ rfl)

end Settings

end DiagramLint
