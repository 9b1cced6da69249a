import DiagramLint.Proofs.SettingsValidity
import DiagramLint.Proofs.TextRuns
import Mathlib.Tactic.Choose

/-!
# Partial documents

A document may choose any of the six settings and leave out the others.  A setting has a
key in one of three topics, and the section of a topic has one of three shapes: a table
gives values by name, an array and the tables of one header give them by position.
`Key.GivenIn` is that relation, `Key.Denotes` says which setting a value of the right kind
is, and neither mentions how a document is loaded.

Loading goes by the section, but each setting could as well be read on its own
(`ofEntries_eq_chosen`), and reading one is inverted once (`Key.chosen_eq_ok_iff`).  So
what is given is taken and what is left out keeps its default, and a document is turned
down for two reasons alone: a section that is none, and a value of another kind
(`ofEntries_fails_iff`).  Keys and tables of other names, and what an array has beyond its
keys, do not matter (`ofEntries_known`).

The settings are checked key by key too, in the order of `Key.all`; the first that is not
usable is the one that is named (`violation?_eq_some_iff`).
-/

namespace DiagramLint

namespace Toml

/-- A value of an ordinary document: integers have 64 bits, with or without a sign, and each
number has a value.  Dates and times are left aside. -/
inductive Value.Plain : Value → Prop
  | string (text : Text) : Plain (.string text)
  | integer {n : Int} (hlow : -Int.pow 2 63 ≤ n) (hhigh : n < Int.pow 2 64) : Plain (.integer n)
  | float (x : Float) : Plain (.float x)
  | boolean (b : Bool) : Plain (.boolean b)
  | array {items : List Value} (hitems : ∀ v ∈ items, Plain v) : Plain (.array items)
  | table (form : TableForm) {entries : List (Text × Value)} (hentries : ∀ e ∈ entries, Plain e.2) :
      Plain (.table form entries)
  | tables {items : List (List (Text × Value))}
      (hitems : ∀ entries ∈ items, ∀ e ∈ entries, Plain e.2) : Plain (.tables items)

/-- Every value of a document is ordinary. -/
def Entries.Plain (es : Entries) : Prop := ∀ e ∈ es, e.2.Plain

theorem Entries.Plain.get? {es : Entries} (hes : es.Plain) {key : Text} {v : Value}
    (h : es.get? key = some v) : v.Plain := by
  obtain ⟨before, after, rfl, -⟩ := List.lookup_eq_some_iff.mp h
  exact hes (key, v) (List.mem_append_right _ List.mem_cons_self)

/-- Dropping entries does not change what is under the names that are kept. -/
theorem Entries.get?_filter (p : Text → Bool) {key : Text} (hkey : p key = true) (es : Entries) :
    Entries.get? key (es.filter fun e => p e.1) = es.get? key := by
  unfold Entries.get?
  induction es with
  | nil => rfl
  | cons e es ih =>
    obtain ⟨name, v⟩ := e
    rcases eq_or_ne key name with rfl | hne
    · simp only [List.filter_cons, hkey, if_true, List.lookup_cons_self]
    · have hbeq : (key == name) = false := beq_eq_false_iff_ne.mpr hne
      cases hp : p name <;> simp [List.lookup_cons, hp, hbeq, ih]

/-- Changing the values under their names changes what is found under a name. -/
theorem Entries.get?_map (change : Text → Value → Value) (key : Text) (es : Entries) :
    Entries.get? key (es.map fun e => (e.1, change e.1 e.2)) = (es.get? key).map (change key) := by
  unfold Entries.get?
  induction es with
  | nil => rfl
  | cons e es ih =>
    obtain ⟨name, v⟩ := e
    rcases eq_or_ne key name with rfl | hne
    · simp only [List.map_cons, List.lookup_cons_self, Option.map_some]
    · have hbeq : (key == name) = false := beq_eq_false_iff_ne.mpr hne
      simp only [List.map_cons, List.lookup_cons, hbeq, ih]

end Toml

namespace Settings

open Toml (Value Entries)

/-! ## Ordinary values can be read -/

theorem readableItems_iff {items : List Value} :
    readableItems items = true ↔ ∀ v ∈ items, readable v = true := by
  induction items with
  | nil => simp [readableItems]
  | cons v vs ih => simp [readableItems, ih]

theorem readableEntries_iff {entries : Entries} :
    readableEntries entries = true ↔ ∀ e ∈ entries, readable e.2 = true := by
  induction entries with
  | nil => simp [readableEntries]
  | cons e es ih => simp [readableEntries, ih]

theorem readableTables_iff {items : List Entries} :
    readableTables items = true ↔ ∀ entries ∈ items, readableEntries entries = true := by
  induction items with
  | nil => simp [readableTables]
  | cons es rest ih => simp [readableTables, ih]

theorem readable_of_plain {v : Value} (hv : v.Plain) : readable v = true := by
  induction hv with
  | string => rfl
  | @integer n hlow hhigh =>
    have hwide : -Int.pow 2 127 ≤ -Int.pow 2 63 ∧ Int.pow 2 64 ≤ Int.pow 2 128 := by decide
    simp only [readable, readableInteger, Bool.and_eq_true, decide_eq_true_eq]
    omega
  | float => rfl
  | boolean => rfl
  | array _ ih => exact readableItems_iff.mpr ih
  | table _ _ ih => exact readableEntries_iff.mpr ih
  | tables _ ih =>
    exact readableTables_iff.mpr fun entries h => readableEntries_iff.mpr (ih entries h)

theorem readableEntries_filter {es : Entries} (hes : es.Plain) (p : Text × Value → Bool) :
    readableEntries (es.filter p) = true :=
  readableEntries_iff.mpr fun e he => readable_of_plain (hes e (List.mem_filter.mp he).1)

/-! ## Topics and keys -/

/-- What the sections of a document are about. -/
inductive Topic where
  | extract
  | gantt
  | quadrant
  deriving DecidableEq, Repr

namespace Topic

/-- The name of the section. -/
def name : Topic → String
  | extract => "extract"
  | gantt => "gantt"
  | quadrant => "quadrant"

/-- The keys of the section, in the order in which an array gives their values. -/
def keys : Topic → List String
  | extract => ["field", "delimiter"]
  | gantt => ["grid_width", "ascii_char_width", "wide_char_width"]
  | quadrant => ["preview_len"]

def all : List Topic := [extract, gantt, quadrant]

end Topic

/-- The settings that a document can name. -/
inductive Key where
  | field
  | delimiter
  | width (which : Width)
  | previewLength
  deriving DecidableEq, Repr

namespace Key

/-- The keys in the order in which the settings are checked. -/
def all : List Key :=
  [field, delimiter, width .grid, width .ascii, width .wide, previewLength]

theorem mem_all (k : Key) : k ∈ all := by
  rcases k with _ | _ | (_ | _ | _) | _ <;> decide

def topic : Key → Topic
  | field => .extract
  | delimiter => .extract
  | width _ => .gantt
  | previewLength => .quadrant

def name : Key → String
  | field => "field"
  | delimiter => "delimiter"
  | width .grid => "grid_width"
  | width .ascii => "ascii_char_width"
  | width .wide => "wide_char_width"
  | previewLength => "preview_len"

/-- The place of a key in its section. -/
def position : Key → Nat
  | field => 0
  | delimiter => 1
  | width .grid => 0
  | width .ascii => 1
  | width .wide => 2
  | previewLength => 0

theorem position_lt (k : Key) : k.position < k.topic.keys.length := by
  rcases k with _ | _ | (_ | _ | _) | _ <;> decide

theorem name_mem_keys (k : Key) : k.name ∈ k.topic.keys := by
  rcases k with _ | _ | (_ | _ | _) | _ <;> decide

/-- Every topic has a key. -/
theorem exists_topic_eq (t : Topic) : ∃ k : Key, k.topic = t := by
  cases t with
  | extract => exact ⟨field, rfl⟩
  | gantt => exact ⟨width .grid, rfl⟩
  | quadrant => exact ⟨previewLength, rfl⟩

/-- What can be set under a key. -/
abbrev Setting : Key → Type
  | field => Text
  | delimiter => Char
  | width _ => Float
  | previewLength => Nat

end Key

/-- The setting of a key. -/
def get (s : Settings) : (k : Key) → k.Setting
  | .field => s.marker.field
  | .delimiter => s.marker.delimiter
  | .width .grid => s.metrics.gridWidth
  | .width .ascii => s.metrics.asciiWidth
  | .width .wide => s.metrics.wideWidth
  | .previewLength => s.previewLength

/-- Settings put together from one setting for each key. -/
def ofKeys (setting : (k : Key) → k.Setting) : Settings :=
  ⟨⟨setting .field, setting .delimiter⟩,
    ⟨setting (.width .grid), setting (.width .ascii), setting (.width .wide)⟩,
    setting .previewLength⟩

@[simp] theorem get_ofKeys (setting : (k : Key) → k.Setting) (k : Key) :
    (ofKeys setting).get k = setting k := by
  rcases k with _ | _ | (_ | _ | _) | _ <;> rfl

/-! ## What a document says about a key -/

/-- A value that can be a section. -/
inductive Sectional : Value → Prop
  | table (form : Toml.TableForm) (entries : Entries) : Sectional (.table form entries)
  | array (items : List Value) : Sectional (.array items)
  | tables (items : List Entries) : Sectional (.tables items)

namespace Key

/-- A document gives a value for a key. -/
inductive GivenIn (es : Entries) (k : Key) : Value → Prop
  /-- The section is a table that has the key. -/
  | named {form : Toml.TableForm} {entries : Entries} {v : Value}
      (hsection : es.get? (keyText k.topic.name) = some (.table form entries))
      (hvalue : entries.get? (keyText k.name) = some v) : GivenIn es k v
  /-- The section is an array that is long enough. -/
  | listed {items : List Value} {v : Value}
      (hsection : es.get? (keyText k.topic.name) = some (.array items))
      (hvalue : items[k.position]? = some v) : GivenIn es k v
  /-- The header of the section stands often enough. -/
  | headed {items : List Entries} {entries : Entries}
      (hsection : es.get? (keyText k.topic.name) = some (.tables items))
      (hvalue : items[k.position]? = some entries) : GivenIn es k (.table .declared entries)

/-- A value is of the kind of a key, and this is the setting that it denotes. -/
def Denotes : (k : Key) → Value → k.Setting → Prop
  | .field, v, t => v = .string t
  | .delimiter, v, c => v = .string [c]
  | .width _, v, x => v = .float x ∨ ∃ n, v = .integer n ∧ x = Float.ofInt n
  | .previewLength, v, n => v = .integer (Int.ofNat n)

end Key

/-- What is wrong with a document. -/
inductive Faulty (es : Entries) : Prop
  /-- Where a section should be there is something else. -/
  | noSection (t : Topic) {v : Value} (hvalue : es.get? (keyText t.name) = some v)
      (hv : ¬ Sectional v)
  /-- A value is not of the kind of its key. -/
  | otherKind {k : Key} {v : Value} (hgiven : k.GivenIn es v) (hv : ∀ x, ¬ k.Denotes v x)

/-- Settings as a document chooses them: given values are taken, and all the other settings
keep their defaults. -/
structure Follows (s : Settings) (es : Entries) : Prop where
  given : ∀ (k : Key) (v : Value), k.GivenIn es v → k.Denotes v (s.get k)
  leftOut : ∀ k : Key, (∀ v, ¬ k.GivenIn es v) → s.get k = default.get k

/-! ## Reading one setting -/

/-- A step after another succeeds when the first does and the second does on its result. -/
theorem bind_eq_ok_iff {ε α β : Type} {x : Except ε α} {f : α → Except ε β} {b : β} :
    x >>= f = .ok b ↔ ∃ a, x = .ok a ∧ f a = .ok b := by
  cases x with
  | error e => simp [bind, Except.bind]
  | ok a => simp [bind, Except.bind]

namespace Key

/-- Reads a value as the setting of a key. -/
def read? : (k : Key) → Value → Option k.Setting
  | .field => asText?
  | .delimiter => asChar?
  | .width _ => asFloat?
  | .previewLength => asNat?

theorem read?_eq_some_iff {k : Key} {v : Value} {x : k.Setting} (hv : v.Plain) :
    k.read? v = some x ↔ k.Denotes v x := by
  cases k with
  | field => cases v <;> simp [read?, asText?, Denotes]
  | delimiter =>
    cases v with
    | string t => rcases t with _ | ⟨c, _ | ⟨d, t⟩⟩ <;> simp [read?, asChar?, Denotes]
    | _ => simp [read?, asChar?, Denotes]
  | width which =>
    cases hv with
    | integer hlow hhigh =>
      simp only [read?, asFloat?, Denotes, hlow, hhigh, and_self, if_true, reduceCtorEq, false_or,
        Option.some.injEq, Value.integer.injEq, exists_eq_left', eq_comm]
    | _ => simp [read?, asFloat?, Denotes]
  | previewLength =>
    cases hv with
    | @integer n hlow hhigh =>
      simp only [read?, asNat?, Denotes, hhigh, and_true, Option.ite_none_right_eq_some,
        Option.some.injEq, Value.integer.injEq]
      constructor
      · rintro ⟨hn, rfl⟩
        exact (Int.toNat_of_nonneg hn).symm
      · rintro rfl
        exact ⟨Int.natCast_nonneg x, Int.toNat_natCast x⟩
    | _ => simp [read?, asNat?, Denotes]

/-- Reads the setting of one key. -/
def chosen (k : Key) (es : Entries) : Except DocumentError k.Setting := do
  let s ← section? es k.topic.name k.topic.keys
  s.value k.name k.read? (default.get k)

/-- The value of a key in a section. -/
def item? (k : Key) : Value → Option Value
  | .table _ entries => Entries.get? (keyText k.name) entries
  | .array items => items[k.position]?
  | .tables items => items[k.position]?.map (.table .declared)
  | _ => none

theorem givenIn_iff {es : Entries} {k : Key} {v : Value} :
    k.GivenIn es v ↔ (es.get? (keyText k.topic.name)).bind k.item? = some v := by
  constructor
  · intro h
    cases h with
    | named hsection hvalue => rw [hsection]; exact hvalue
    | listed hsection hvalue => rw [hsection]; exact hvalue
    | headed hsection hvalue => rw [hsection]; simp [item?, hvalue]
  · intro h
    obtain ⟨w, hw, hv⟩ := Option.bind_eq_some_iff.mp h
    cases w with
    | table form entries => exact .named hw hv
    | array items => exact .listed hw hv
    | tables items =>
      obtain ⟨entries, hentries, rfl⟩ := Option.map_eq_some_iff.mp hv
      exact .headed hw hentries
    | _ => cases hv

/-- No key is given two values. -/
theorem GivenIn.unique {es : Entries} {k : Key} {v v' : Value} (h : k.GivenIn es v)
    (h' : k.GivenIn es v') : v = v' :=
  Option.some.inj ((givenIn_iff.mp h).symm.trans (givenIn_iff.mp h'))

theorem GivenIn.plain {es : Entries} {k : Key} {v : Value} (hes : es.Plain) (h : k.GivenIn es v) :
    v.Plain := by
  cases h with
  | named hsection hvalue =>
    cases hes.get? hsection with
    | table form hentries => exact Entries.Plain.get? hentries hvalue
  | listed hsection hvalue =>
    cases hes.get? hsection with
    | array hitems => exact hitems _ (List.mem_of_getElem? hvalue)
  | headed hsection hvalue =>
    cases hes.get? hsection with
    | tables hitems => exact .table .declared (hitems _ (List.mem_of_getElem? hvalue))

/-- The value that an array gives for a key is the one at its position. -/
theorem lookup_zip_keys (k : Key) (items : List Value) :
    (k.topic.keys.zip items).lookup k.name = items[k.position]? := by
  rcases k with _ | _ | (_ | _ | _) | _ <;> rcases items with _ | ⟨u, _ | ⟨v, _ | ⟨w, vs⟩⟩⟩ <;> rfl

/-- A section that was read has the values of its keys. -/
theorem apply_of_section? {es : Entries} {k : Key} {s : Section}
    (h : section? es k.topic.name k.topic.keys = .ok s) :
    s k.name = (es.get? (keyText k.topic.name)).bind k.item? := by
  unfold section? at h
  cases hw : es.get? (keyText k.topic.name) with
  | none => rw [hw] at h; cases h; rfl
  | some w =>
    rw [hw] at h
    cases w with
    | datetime => cases h; rfl
    | array items => cases h; exact lookup_zip_keys k items
    | tables items =>
      cases h
      exact (lookup_zip_keys k _).trans List.getElem?_map
    | table form entries =>
      -- the other keys of the table decide whether it is read, not what is read
      simp only at h
      split at h
      · cases h; rfl
      · cases h
    | _ => cases h

end Key

/-- What reading a section comes to. -/
theorem section?_cases {es : Entries} (hes : es.Plain) (t : Topic) :
    (∃ s, section? es t.name t.keys = .ok s ∧
        ∀ v, es.get? (keyText t.name) = some v → Sectional v) ∨
      (section? es t.name t.keys = .error (.section t.name) ∧
        ∃ v, es.get? (keyText t.name) = some v ∧ ¬ Sectional v) := by
  unfold section?
  cases hw : es.get? (keyText t.name) with
  | none => exact .inl ⟨_, rfl, fun v hv => by cases hv⟩
  | some w =>
    cases hes.get? hw with
    | table form hentries =>
      refine .inl ⟨_, if_pos (readableEntries_filter hentries _), ?_⟩
      rintro v ⟨⟩
      exact .table form _
    | array =>
      refine .inl ⟨_, rfl, ?_⟩
      rintro v ⟨⟩
      exact .array _
    | tables =>
      refine .inl ⟨_, rfl, ?_⟩
      rintro v ⟨⟩
      exact .tables _
    | _ => exact .inr ⟨rfl, _, rfl, fun h => by cases h⟩

theorem Section.value_eq_ok_iff {α : Type} {s : Section} {key : String} {as? : Value → Option α}
    {start x : α} :
    s.value key as? start = .ok x ↔
      (∃ v, s key = some v ∧ as? v = some x) ∨ s key = none ∧ x = start := by
  unfold Section.value
  cases hv : s key with
  | none => simp [eq_comm]
  | some v => cases hx : as? v <;> simp [hx]

theorem Key.chosen_eq_ok_iff {es : Entries} (hes : es.Plain) {k : Key} {x : k.Setting} :
    k.chosen es = .ok x ↔
      (∀ v, es.get? (keyText k.topic.name) = some v → Sectional v) ∧
        ((∃ v, k.GivenIn es v ∧ k.Denotes v x) ∨
          (∀ v, ¬ k.GivenIn es v) ∧ x = default.get k) := by
  unfold chosen
  rw [bind_eq_ok_iff]
  -- a given value is ordinary, so it has a kind just when it can be read
  constructor
  · rintro ⟨s, hs, hx⟩
    refine ⟨?_, ?_⟩
    · rcases section?_cases hes k.topic with ⟨-, -, hsectional⟩ | ⟨herror, -⟩
      · exact hsectional
      · rw [hs] at herror
        cases herror
    rcases Section.value_eq_ok_iff.mp hx with ⟨v, hv, hread⟩ | ⟨hnone, rfl⟩
    · have hgiven : k.GivenIn es v := givenIn_iff.mpr ((apply_of_section? hs).symm.trans hv)
      exact .inl ⟨v, hgiven, (read?_eq_some_iff (hgiven.plain hes)).mp hread⟩
    · refine .inr ⟨fun v hgiven => ?_, rfl⟩
      rw [apply_of_section? hs, givenIn_iff.mp hgiven] at hnone
      cases hnone
  · rintro ⟨hsectional, hx⟩
    obtain ⟨s, hs⟩ : ∃ s, section? es k.topic.name k.topic.keys = .ok s := by
      rcases section?_cases hes k.topic with ⟨s, hs, -⟩ | ⟨-, v, hv, hnot⟩
      · exact ⟨s, hs⟩
      · exact absurd (hsectional v hv) hnot
    refine ⟨s, hs, Section.value_eq_ok_iff.mpr ?_⟩
    rw [apply_of_section? hs]
    rcases hx with ⟨v, hgiven, hdenotes⟩ | ⟨hnone, rfl⟩
    · exact .inl ⟨v, givenIn_iff.mp hgiven,
        (read?_eq_some_iff (hgiven.plain hes)).mpr hdenotes⟩
    · refine .inr ⟨?_, rfl⟩
      rw [Option.eq_none_iff_forall_ne_some]
      exact fun v hv => hnone v (givenIn_iff.mpr hv)

/-! ## Reading all of them -/

/-- Loading reads one setting after the other, each on its own. -/
theorem ofEntries_eq_chosen {es : Entries} (hes : es.Plain) :
    ofEntries es = do
      let field ← Key.field.chosen es
      let delimiter ← Key.delimiter.chosen es
      let gridWidth ← (Key.width .grid).chosen es
      let asciiWidth ← (Key.width .ascii).chosen es
      let wideWidth ← (Key.width .wide).chosen es
      let previewLength ← Key.previewLength.chosen es
      return ⟨⟨field, delimiter⟩, ⟨gridWidth, asciiWidth, wideWidth⟩, previewLength⟩ := by
  unfold ofEntries
  simp only [readableEntries_filter hes, if_true, Key.chosen, Key.topic, Topic.name, Topic.keys]
  cases section? es "extract" ["field", "delimiter"] <;>
    cases section? es "gantt" ["grid_width", "ascii_char_width", "wide_char_width"] <;>
      cases section? es "quadrant" ["preview_len"] <;> rfl

theorem ofEntries_eq_ok_iff {es : Entries} (hes : es.Plain) {s : Settings} :
    ofEntries es = .ok s ↔ ∀ k : Key, k.chosen es = .ok (s.get k) := by
  rw [ofEntries_eq_chosen hes]
  constructor
  · intro h k
    obtain ⟨_, hfield, h⟩ := bind_eq_ok_iff.mp h
    obtain ⟨_, hdelimiter, h⟩ := bind_eq_ok_iff.mp h
    obtain ⟨_, hgrid, h⟩ := bind_eq_ok_iff.mp h
    obtain ⟨_, hascii, h⟩ := bind_eq_ok_iff.mp h
    obtain ⟨_, hwide, h⟩ := bind_eq_ok_iff.mp h
    obtain ⟨_, hpreview, h⟩ := bind_eq_ok_iff.mp h
    cases h
    rcases k with _ | _ | (_ | _ | _) | _
    exacts [hfield, hdelimiter, hgrid, hascii, hwide, hpreview]
  · intro h
    exact bind_eq_ok_iff.mpr ⟨_, h .field, bind_eq_ok_iff.mpr ⟨_, h .delimiter,
      bind_eq_ok_iff.mpr ⟨_, h (.width .grid), bind_eq_ok_iff.mpr ⟨_, h (.width .ascii),
        bind_eq_ok_iff.mpr ⟨_, h (.width .wide), bind_eq_ok_iff.mpr ⟨_, h .previewLength,
          rfl⟩⟩⟩⟩⟩⟩

/-- **What is loaded.**  A document without a fault gives the settings that follow it. -/
theorem ofEntries_eq_ok_iff_follows {es : Entries} (hes : es.Plain) {s : Settings} :
    ofEntries es = .ok s ↔ ¬ Faulty es ∧ s.Follows es := by
  rw [ofEntries_eq_ok_iff hes]
  constructor
  · intro h
    have hchosen := fun k => (Key.chosen_eq_ok_iff hes).mp (h k)
    have hgiven : ∀ (k : Key) (v : Value), k.GivenIn es v → k.Denotes v (s.get k) := by
      intro k v hv
      rcases (hchosen k).2 with ⟨w, hw, hdenotes⟩ | ⟨hnone, -⟩
      · rwa [hv.unique hw]
      · exact absurd hv (hnone v)
    refine ⟨fun hfaulty => ?_, hgiven, fun k hnone => ?_⟩
    · cases hfaulty with
      | noSection t hvalue hv =>
        obtain ⟨k, rfl⟩ := Key.exists_topic_eq t
        exact hv ((hchosen k).1 _ hvalue)
      | otherKind hv hdenotes => exact hdenotes _ (hgiven _ _ hv)
    · rcases (hchosen k).2 with ⟨v, hv, -⟩ | ⟨-, hdefault⟩
      · exact absurd hv (hnone v)
      · exact hdefault
  · rintro ⟨hsound, hfollows⟩ k
    refine (Key.chosen_eq_ok_iff hes).mpr ⟨fun v hvalue => ?_, ?_⟩
    · by_contra hv
      exact hsound (.noSection k.topic hvalue hv)
    · by_cases hgiven : ∃ v, k.GivenIn es v
      · obtain ⟨v, hv⟩ := hgiven
        exact .inl ⟨v, hv, hfollows.given k v hv⟩
      · have hnone := not_exists.mp hgiven
        exact .inr ⟨hnone, hfollows.leftOut k hnone⟩

/-- A value denotes one setting at most. -/
theorem Key.Denotes.unique {k : Key} {v : Value} {x y : k.Setting} (hv : v.Plain)
    (hx : k.Denotes v x) (hy : k.Denotes v y) : x = y :=
  Option.some.inj (((read?_eq_some_iff hv).mpr hx).symm.trans ((read?_eq_some_iff hv).mpr hy))

/-- **Each setting is chosen on its own.**  Two documents that give the same for one key
give the same setting for it, whatever they say about the other keys. -/
theorem Follows.get_eq {es es' : Entries} {s s' : Settings} (hes : es.Plain)
    (h : s.Follows es) (h' : s'.Follows es') {k : Key}
    (hk : ∀ v, k.GivenIn es v ↔ k.GivenIn es' v) : s.get k = s'.get k := by
  by_cases hgiven : ∃ v, k.GivenIn es v
  · obtain ⟨v, hv⟩ := hgiven
    exact (h.given k v hv).unique (hv.plain hes) (h'.given k v ((hk v).mp hv))
  · have hnone := not_exists.mp hgiven
    rw [h.leftOut k hnone, h'.leftOut k fun v hv => hnone v ((hk v).mpr hv)]

/-- Settings can follow any document whose values are of the kinds of their keys. -/
theorem exists_follows {es : Entries} (h : ¬ Faulty es) : ∃ s : Settings, s.Follows es := by
  have hkey : ∀ k : Key, ∃ x : k.Setting, (∀ v, k.GivenIn es v → k.Denotes v x) ∧
      ((∀ v, ¬ k.GivenIn es v) → x = default.get k) := by
    intro k
    by_cases hgiven : ∃ v, k.GivenIn es v
    · obtain ⟨v, hv⟩ := hgiven
      obtain ⟨x, hx⟩ : ∃ x, k.Denotes v x := by
        by_contra hnone
        exact h (.otherKind hv (not_exists.mp hnone))
      exact ⟨x, fun w hw => by rwa [hw.unique hv], fun hnone => absurd hv (hnone v)⟩
    · exact ⟨default.get k, fun v hv => absurd ⟨v, hv⟩ hgiven, fun _ => rfl⟩
  -- the settings of the keys do not depend on each other, so they can be put together
  choose setting hgiven hleftOut using hkey
  refine ⟨ofKeys setting, ⟨fun k v hv => ?_, fun k hnone => ?_⟩⟩
  · rw [get_ofKeys]
    exact hgiven k v hv
  · rw [get_ofKeys]
    exact hleftOut k hnone

/-- **When loading fails**: at a fault, and then only. -/
theorem ofEntries_fails_iff {es : Entries} (hes : es.Plain) :
    (∃ e, ofEntries es = .error e) ↔ Faulty es := by
  constructor
  · rintro ⟨e, he⟩
    by_contra hsound
    obtain ⟨s, hs⟩ := exists_follows hsound
    have hok := (ofEntries_eq_ok_iff_follows hes).mpr ⟨hsound, hs⟩
    rw [he] at hok
    cases hok
  · intro hfaulty
    cases h : ofEntries es with
    | error e => exact ⟨e, rfl⟩
    | ok s => exact absurd hfaulty ((ofEntries_eq_ok_iff_follows hes).mp h).1

/-! ## What does not matter -/

namespace Topic

/-- A value without what its section does not know: the keys of other names, and what an
array has beyond the keys. -/
def restrict (t : Topic) : Value → Value
  | .table form entries => .table form (entries.filter fun e => (t.keys.map keyText).contains e.1)
  | .array items => .array (items.take t.keys.length)
  | .tables items => .tables (items.take t.keys.length)
  | v => v

/-- The topic that has a section of a name. -/
def ofName? (name : Text) : Option Topic := all.find? fun t => keyText t.name = name

theorem ofName?_name (t : Topic) : ofName? (keyText t.name) = some t := by
  cases t <;> rfl

/-- What a section of a name knows of its value. -/
def restrictUnder (name : Text) (v : Value) : Value :=
  match ofName? name with
  | some t => t.restrict v
  | none => v

theorem restrictUnder_name (t : Topic) : restrictUnder (keyText t.name) = t.restrict := by
  funext v
  rw [restrictUnder, ofName?_name]

theorem restrict_plain {v : Value} (hv : v.Plain) (t : Topic) : (t.restrict v).Plain := by
  cases hv with
  | table form hentries =>
    exact .table form fun e he => hentries e (List.mem_filter.mp he).1
  | array hitems => exact .array fun v hv => hitems v (List.mem_of_mem_take hv)
  | tables hitems => exact .tables fun es hes => hitems es (List.mem_of_mem_take hes)
  | string text => exact .string text
  | integer hlow hhigh => exact .integer hlow hhigh
  | float x => exact .float x
  | boolean b => exact .boolean b

end Topic

/-- A document without the tables and keys of other names. -/
def known (es : Entries) : Entries :=
  (es.filter fun e => (Topic.ofName? e.1).isSome).map fun e => (e.1, Topic.restrictUnder e.1 e.2)

theorem get?_known (es : Entries) (t : Topic) :
    Entries.get? (keyText t.name) (known es) = (es.get? (keyText t.name)).map t.restrict := by
  unfold known
  rw [Entries.get?_map, Topic.restrictUnder_name,
    Entries.get?_filter (fun name => (Topic.ofName? name).isSome)]
  rw [Topic.ofName?_name, Option.isSome_some]

theorem known_plain {es : Entries} (hes : es.Plain) : (known es).Plain := by
  intro e he
  obtain ⟨e', he', rfl⟩ := List.mem_map.mp he
  have hv : e'.2.Plain := hes e' (List.mem_filter.mp he').1
  unfold Topic.restrictUnder
  split
  · exact Topic.restrict_plain hv _
  · exact hv

theorem Key.item?_restrict (k : Key) (v : Value) : k.item? (k.topic.restrict v) = k.item? v := by
  cases v with
  | table form entries =>
    exact Entries.get?_filter (k.topic.keys.map keyText).contains
      (List.contains_iff_mem.mpr (List.mem_map_of_mem k.name_mem_keys)) entries
  | array items => exact List.getElem?_take_of_lt k.position_lt
  | tables items =>
    exact congrArg (Option.map (Value.table .declared)) (List.getElem?_take_of_lt k.position_lt)
  | _ => rfl

theorem sectional_restrict_iff {t : Topic} {v : Value} : Sectional (t.restrict v) ↔ Sectional v := by
  cases v with
  | table form entries => exact ⟨fun _ => .table form entries, fun _ => .table form _⟩
  | array items => exact ⟨fun _ => .array items, fun _ => .array _⟩
  | tables items => exact ⟨fun _ => .tables items, fun _ => .tables _⟩
  | _ => exact Iff.rfl

theorem Key.chosen_known {es : Entries} (hes : es.Plain) (k : Key) :
    k.chosen (known es) = k.chosen es := by
  have hitem : ((known es).get? (keyText k.topic.name)).bind k.item? =
      (es.get? (keyText k.topic.name)).bind k.item? := by
    rw [get?_known, Option.bind_map]
    exact congrArg (Option.bind _) (funext k.item?_restrict)
  have hsectional : (∀ v, (known es).get? (keyText k.topic.name) = some v → Sectional v) ↔
      ∀ v, es.get? (keyText k.topic.name) = some v → Sectional v := by
    rw [get?_known]
    simp [sectional_restrict_iff]
  unfold chosen
  rcases section?_cases hes k.topic with ⟨s, hs, hall⟩ | ⟨herror, v, hv, hnot⟩ <;>
    rcases section?_cases (known_plain hes) k.topic with ⟨s', hs', hall'⟩ | ⟨herror', v', hv', hnot'⟩
  · -- the two sections differ as functions, but not at this key
    have hvalue : s' k.name = s k.name := by
      rw [apply_of_section? hs', apply_of_section? hs, hitem]
    rw [hs, hs']
    simp only [bind, Except.bind, Section.value, hvalue]
  · exact absurd (hsectional.mpr hall v' hv') hnot'
  · exact absurd (hsectional.mp hall' v hv) hnot
  · rw [herror, herror']

/-- **Other names do not matter**: a document loads like what is known of it, and fails
like it. -/
theorem ofEntries_known {es : Entries} (hes : es.Plain) : ofEntries (known es) = ofEntries es := by
  rw [ofEntries_eq_chosen hes, ofEntries_eq_chosen (known_plain hes)]
  simp only [Key.chosen_known hes]

/-! ## Checking the settings -/

namespace Key

/-- A setting that can be worked with. -/
def Usable : (k : Key) → k.Setting → Prop
  | .field, t => ∃ c ∈ t, Text.isBlank c = false
  | .delimiter, c => Text.isBlank c = false
  | .width _, x => x.isFinite = true ∧ 0 < x
  | .previewLength, n => 1 ≤ n

/-- What is wrong with a setting that cannot. -/
def violation : (k : Key) → k.Setting → Violation
  | .field, _ => .blankField
  | .delimiter, _ => .blankDelimiter
  | .width which, x => .width which x
  | .previewLength, _ => .emptyPreview

/-- The message of a violation begins with the names of the section and of the key. -/
theorem message_violation (k : Key) (x : k.Setting) :
    ∃ demanded, (k.violation x).message = k.topic.name ++ "." ++ k.name ++ " must " ++ demanded := by
  cases k with
  | field => exact ⟨"not be empty", rfl⟩
  | delimiter => exact ⟨"not be whitespace", rfl⟩
  | width which =>
    refine ⟨"be a positive number, got " ++ numberText x, ?_⟩
    rw [← String.append_assoc]
    cases which <;> rfl
  | previewLength => exact ⟨"be at least 1", rfl⟩

/-- The check of one setting. -/
def passes : (k : Key) → k.Setting → Bool
  | .field, t => Text.trim t ≠ []
  | .delimiter, c => !Text.isBlank c
  | .width _, x => usableWidth x
  | .previewLength, n => 1 ≤ n

theorem passes_iff {k : Key} {x : k.Setting} : k.passes x = true ↔ k.Usable x := by
  cases k with
  | field =>
    simp only [passes, Usable, decide_eq_true_eq, ne_eq, Text.trim_eq_nil_iff, not_forall,
      exists_prop, Bool.not_eq_true]
  | delimiter => simp only [passes, Usable, Bool.not_eq_true']
  | width which => simp only [passes, Usable, usableWidth, Bool.and_eq_true, decide_eq_true_eq]
  | previewLength => simp only [passes, Usable, decide_eq_true_eq]

end Key

/-- The settings are checked one after the other, each on its own. -/
theorem violation?_eq_findSome? (s : Settings) :
    s.violation? = Key.all.findSome? fun k =>
      demand (k.passes (s.get k)) (k.violation (s.get k)) :=
  rfl

theorem violation?_eq_none_iff {s : Settings} :
    s.violation? = none ↔ ∀ k : Key, k.Usable (s.get k) := by
  rw [violation?_eq_findSome?, List.findSome?_eq_none_iff]
  simp only [demand_eq_none_iff, Key.passes_iff, Key.mem_all, true_imp_iff]

theorem demand_eq_some_iff {condition : Bool} {v w : Violation} :
    demand condition v = some w ↔ condition ≠ true ∧ w = v := by
  unfold demand
  cases condition <;> simp [eq_comm]

/-- **Which setting is found wrong**: the first of all that is not usable. -/
theorem violation?_eq_some_iff {s : Settings} {v : Violation} :
    s.violation? = some v ↔
      ∃ (before : List Key) (k : Key) (after : List Key), Key.all = before ++ k :: after ∧
        (∀ k' ∈ before, k'.Usable (s.get k')) ∧ ¬ k.Usable (s.get k) ∧
        v = k.violation (s.get k) := by
  rw [violation?_eq_findSome?, List.findSome?_eq_some_iff]
  simp only [demand_eq_none_iff, demand_eq_some_iff, ne_eq, Key.passes_iff]
  constructor
  · rintro ⟨before, k, after, hall, hfirst, hbefore⟩
    exact ⟨before, k, after, hall, hbefore, hfirst⟩
  · rintro ⟨before, k, after, hall, hbefore, hfirst⟩
    exact ⟨before, k, after, hall, hfirst, hbefore⟩

/-! ## Documents that choose a part -/

/-- **Settings of a partial document.**  An ordinary document is turned down just when
something else stands for a section, or a given value is not of the kind of its key.
Otherwise each setting is the one given for its key, or its default if none is, and tables
and keys of other names make no difference.  Settings are accepted when each of them is
usable; if not, the first that is not, in the order of the keys, is named. -/
theorem settings_of_partial_document {es : Entries} (hes : es.Plain) :
    ((∃ e, ofEntries es = .error e) ↔ Faulty es) ∧
      (∀ s, ofEntries es = .ok s ↔ ¬ Faulty es ∧ s.Follows es) ∧
      ofEntries (known es) = ofEntries es ∧
      ∀ s : Settings, (s.violation? = none ↔ ∀ k : Key, k.Usable (s.get k)) ∧
        (∀ v, s.violation? = some v ↔
          ∃ (before : List Key) (k : Key) (after : List Key), Key.all = before ++ k :: after ∧
            (∀ k' ∈ before, k'.Usable (s.get k')) ∧ ¬ k.Usable (s.get k) ∧
            v = k.violation (s.get k)) ∧
        ∀ k : Key, ∃ demanded, (k.violation (s.get k)).message =
          k.topic.name ++ "." ++ k.name ++ " must " ++ demanded :=
  ⟨ofEntries_fails_iff hes, fun _ => ofEntries_eq_ok_iff_follows hes, ofEntries_known hes,
    fun s => ⟨violation?_eq_none_iff, fun _ => violation?_eq_some_iff,
      fun k => k.message_violation (s.get k)⟩⟩

/-- An array that gives the field alone, a table with one width and a key of another name,
and a table of another name. -/
def mixedSections : Entries :=
  [(keyText "extract", .array [.string (keyText "stdout")]),
    (keyText "gantt", .table .declared
      [(keyText "theme", .string (keyText "dark")), (keyText "ascii_char_width", .integer 9)]),
    (keyText "colours", .table .declared [(keyText "field", .boolean true)])]

def mixedSettings : Settings :=
  ⟨⟨keyText "stdout", '\x60'⟩, ⟨700, Float.ofInt 9, 14⟩, 60⟩

theorem settings_of_partial_document_of_mixedSections :
    mixedSections.Plain ∧ ¬ Faulty mixedSections ∧ mixedSettings.Follows mixedSections := by
  have hplain : mixedSections.Plain := by
    simp only [mixedSections, Entries.Plain, List.forall_mem_cons]
    refine ⟨.array ?_, .table _ ?_, .table _ ?_, fun _ h => nomatch h⟩
    all_goals simp only [List.forall_mem_cons]
    · exact ⟨.string _, fun _ h => nomatch h⟩
    · exact ⟨.string _, .integer (by decide) (by decide), fun _ h => nomatch h⟩
    · exact ⟨.boolean _, fun _ h => nomatch h⟩
  exact ⟨hplain, ((settings_of_partial_document hplain).2.1 mixedSettings).mp rfl⟩

end Settings

end DiagramLint
