import PocketCalculator.Launch
import PocketCalculator.Proofs.Decimal.Distinct
import PocketCalculator.Proofs.Settings.Misfits
import PocketCalculator.Proofs.Toml.Reports

/-!
# What becomes of a settings file

A file of settings is absent, or it holds settings, or there is an error that says why it holds none
(`FileState.cases`). Loading does one thing in each case and leaves one record of it. The cases
exclude each other because their records differ, so the level of the record tells which one it is.

Which path the environment designates is said by `Settings.Designates`. What a warning says is
stated for each failure (`FileState.Warns`): the reason why the file cannot be read, the report on
the first field that its value does not fit, or what the parser of documents reports of any other
text. The parser is taken as it is given: its reports can be any texts.

A record that shows settings determines them: a number is determined by its text
(`Layout.text_injective`), in which there is neither a comma nor a cross, so the fields of the text
can be told apart.

* **`launch_accounts`**: for every value of the environment, every state of the file and every
  parser, the launch has settings and leaves two records, one of what became of the file and one of
  the start.
-/

namespace PocketCalculator

open Binary

/-! ### What the records show -/

namespace Layout

variable {f : Format}

/-- The plain text of a number determines it, -/
theorem plain_text_injective : Function.Injective (plain.text : Number f → String) :=
  plain.text_injective rfl rfl

/-- and so does the detailed one. -/
theorem detailed_text_injective : Function.Injective (detailed.text : Number f → String) :=
  detailed.text_injective rfl rfl

/-- There is no cross in a plain text, -/
theorem cross_not_mem_plain_text (x : Number f) : '×' ∉ (plain.text x).toList :=
  fun h => absurd (plain.isNumeric_or_letter_of_mem_text rfl rfl h) (by decide)

/-- and no comma in a detailed one. -/
theorem comma_not_mem_detailed_text (x : Number f) : ',' ∉ (detailed.text x).toList :=
  fun h => absurd (detailed.isNumeric_or_letter_of_mem_text rfl rfl h) (by decide)

end Layout

namespace Settings

variable {s t : Settings}

/-- The settings as a record shows them, field by field. -/
def shownFields (s : Settings) : List String :=
  ["Reglages \x7b decimales: " ++ toString s.places.toNat,
    " demarche: " ++ (if s.showWorking then "true" else "false"),
    " largeur: " ++ Layout.detailed.text s.width,
    " hauteur: " ++ (Layout.detailed.text s.height ++ " \x7d")]

/-- A record separates the fields by commas. -/
theorem detailed_eq_intercalate (s : Settings) : s.detailed = ",".intercalate s.shownFields := by
  have hworking : ", demarche: " = "," ++ " demarche: " := by decide
  have hwidth : ", largeur: " = "," ++ " largeur: " := by decide
  have hheight : ", hauteur: " = "," ++ " hauteur: " := by decide
  unfold detailed shownFields
  rw [hworking, hwidth, hheight]
  simp only [String.intercalate_cons_cons, String.intercalate_singleton, String.append_assoc]

/-- Two texts without a comma are one without. -/
theorem comma_not_mem_append {a b : String} (ha : ',' ∉ a.toList) (hb : ',' ∉ b.toList) :
    ',' ∉ (a ++ b).toList := by
  rw [String.toList_append, List.mem_append, not_or]
  exact ⟨ha, hb⟩

/-- There is no comma in the text of a field. -/
theorem comma_not_mem_shownFields (s : Settings) :
    ∀ field ∈ s.shownFields.map String.toList, ',' ∉ field := by
  have hplaces : ',' ∉ (toString s.places.toNat).toList := by
    intro h
    rw [Nat.toString_eq_repr, Nat.toList_repr] at h
    exact absurd (isDigit_of_mem_decimalDigits h) (by decide)
  have hworking : ',' ∉ (if s.showWorking then "true" else "false").toList := by
    cases s.showWorking <;> decide
  rw [List.forall_mem_map]
  intro field hfield
  simp only [shownFields, List.mem_cons, List.not_mem_nil, or_false] at hfield
  rcases hfield with rfl | rfl | rfl | rfl
  · exact comma_not_mem_append (by decide) hplaces
  · exact comma_not_mem_append (by decide) hworking
  · exact comma_not_mem_append (by decide) (Layout.comma_not_mem_detailed_text _)
  · exact comma_not_mem_append (by decide)
      (comma_not_mem_append (Layout.comma_not_mem_detailed_text _) (by decide))

/-- The texts of the fields determine the settings. -/
theorem eq_of_shownFields_eq (h : s.shownFields = t.shownFields) : s = t := by
  obtain ⟨hplaces, h⟩ := List.cons.inj h
  obtain ⟨hworking, h⟩ := List.cons.inj h
  obtain ⟨hwidth, h⟩ := List.cons.inj h
  obtain ⟨hheight, -⟩ := List.cons.inj h
  rw [String.append_right_inj] at hplaces hworking hwidth hheight
  rw [String.append_left_inj] at hheight
  have hnat : s.places.toNat = t.places.toNat := by
    have hdigits := congrArg String.toList hplaces
    rw [Nat.toString_eq_repr, Nat.toString_eq_repr, Nat.toList_repr, Nat.toList_repr] at hdigits
    rw [← digitsValue_decimalDigits s.places.toNat, decimalDigits, hdigits]
    exact digitsValue_decimalDigits _
  have hbool : s.showWorking = t.showWorking := by
    revert hworking
    cases s.showWorking <;> cases t.showWorking <;> decide
  obtain ⟨places, showWorking, width, height⟩ := s
  congr
  · exact UInt32.toNat_inj.mp hnat
  · exact Layout.detailed_text_injective hwidth
  · exact Layout.detailed_text_injective hheight

/-- A record of settings determines them. -/
theorem detailed_injective : Function.Injective detailed := by
  intro s t h
  have hsplit (s : Settings) :
      s.detailed.toList.splitOn ',' = s.shownFields.map String.toList := by
    rw [detailed_eq_intercalate, String.toList_intercalate]
    exact List.splitOn_intercalate ',' s.comma_not_mem_shownFields (List.cons_ne_nil _ _)
  have hfields : s.shownFields.map String.toList = t.shownFields.map String.toList := by
    rw [← hsplit, h, hsplit]
  exact eq_of_shownFields_eq (List.map_injective_iff.mpr (fun _ _ => String.toList_inj.mp) hfields)

end Settings

namespace LaunchEvent

/-- Two texts with a cross between them can be told apart. -/
theorem eq_of_cross_between {a b c a' b' d : String} (ha : '×' ∉ a.toList) (hb : '×' ∉ b.toList)
    (h : c ++ a ++ "×" ++ b ++ d = c ++ a' ++ "×" ++ b' ++ d) : a = a' ∧ b = b' := by
  have hcross : "×".toList = ['×'] := rfl
  rw [String.append_left_inj, String.append_assoc, String.append_assoc, String.append_assoc,
    String.append_assoc, String.append_right_inj, ← String.toList_inj] at h
  simp only [String.toList_append, hcross, List.singleton_append] at h
  rw [List.append_cons_inj_of_notMem ha hb, String.toList_inj, String.toList_inj] at h
  exact ⟨h.1, h.2.2⟩

/-- The record of a start determines the size of the window. -/
theorem size_eq_of_message_started_eq {s t : Settings}
    (h : (started s).message = (started t).message) : s.width = t.width ∧ s.height = t.height := by
  obtain ⟨hwidth, hheight⟩ := eq_of_cross_between (Layout.cross_not_mem_plain_text _)
    (Layout.cross_not_mem_plain_text _) h
  exact ⟨Layout.plain_text_injective hwidth, Layout.plain_text_injective hheight⟩

/-- The record of loaded settings determines them. -/
theorem settings_eq_of_message_loaded_eq {path : String} {s t : Settings}
    (h : (loaded path s).message = (loaded path t).message) : s = t :=
  Settings.detailed_injective ((String.append_right_inj _).mp h)

end LaunchEvent

/-! ### The states of a file -/

/-- The bytes of a text read as that text, -/
theorem Text.fromUTF8?_toUTF8 (text : String) : String.fromUTF8? text.toUTF8 = some text :=
  dif_pos text.isValidUTF8

/-- and bytes that no text has do not read. -/
theorem Text.fromUTF8?_of_notText {bytes : ByteArray} (h : ∀ text : String, bytes ≠ text.toUTF8) :
    String.fromUTF8? bytes = none :=
  dif_neg fun hvalid => h (String.fromUTF8 bytes hvalid) rfl

/-- A file with the bytes of a text is found with that text, -/
theorem ReadResult.ofBytes_toUTF8 (text : String) : ofBytes text.toUTF8 = .found text := by
  rw [ofBytes, Text.fromUTF8?_toUTF8]

/-- and any other file is no text. -/
theorem ReadResult.ofBytes_of_notText {bytes : ByteArray}
    (h : ∀ text : String, bytes ≠ text.toUTF8) : ofBytes bytes = .failed .notText := by
  rw [ofBytes, Text.fromUTF8?_of_notText h]

/-- What there is at the path of the settings file. -/
inductive FileState where
  /-- Nothing at all. -/
  | absent
  /-- Something that cannot be read, such as a directory. -/
  | unreadable (failure : ReadFailure)
  | file (bytes : ByteArray)

/-- The reason that a warning gives for a file that cannot be read. -/
inductive ReadFailure.Worded : ReadFailure → String → Prop
  | isDirectory : Worded .isDirectory "Is a directory (os error 21)"
  | notDirectory : Worded .notDirectory "Not a directory (os error 20)"
  | nameTooLong : Worded .nameTooLong "File name too long (os error 36)"
  | notText : Worded .notText "stream did not contain valid UTF-8"
  /-- Any other reason, as the system gives it. -/
  | other (reason : String) : Worded (.other reason) reason

/-- Every failure has its reason. -/
theorem ReadFailure.worded_reason (failure : ReadFailure) : failure.Worded failure.reason := by
  cases failure with
  | isDirectory => exact .isDirectory
  | notDirectory => exact .notDirectory
  | nameTooLong => exact .nameTooLong
  | notText => exact .notText
  | other reason => exact .other reason

namespace Settings

open Toml

/-- What is reported of a text that holds no settings. -/
inductive RefusedWith (parser : Parser) (text : String) : String → Prop
  /-- It is no document of integers within 64 bits, and the report is the parser's. -/
  | notDocument (h : ∀ t, ¬ Documents text t)
      (hnone : ∀ settings, ofToml text parser ≠ .ok settings) :
      RefusedWith parser text (parser.report text)
  /-- It is a document, and the report is on the first field that its value does not fit. -/
  | misfit {t : Table} {fault : Fault} {report : String} (ht : Documents text t)
      (hfirst : t.FirstFault fault) (hreport : fault.Reported text.toList report) :
      RefusedWith parser text report

/-- A text that is refused is reported so. -/
theorem refusedWith_of_ofToml {parser : Parser} {text : String} {error : DocumentError}
    (h : ofToml text parser = .error error) : RefusedWith parser text error.report := by
  have hnone (settings : Settings) : ofToml text parser ≠ .ok settings := by
    rw [h]
    exact nofun
  rw [ofToml] at h
  split at h
  case h_1 hreads =>
    obtain rfl := Except.error.inj h
    refine .notDocument (fun t ht => ?_) hnone
    rw [ht.reads] at hreads
    contradiction
  case h_2 t hreads =>
    split at h
    case h_1 => contradiction
    case h_2 fault hfault =>
      obtain rfl := Except.error.inj h
      by_cases hnarrow : t.allNarrow = true
      · rw [if_pos hnarrow]
        have hfirst := (ofTable_eq_error_iff (Table.distinct_of_ofText? hreads) hnarrow).mp hfault
        exact .misfit ⟨hreads, hnarrow⟩ hfirst (fault.reported_report text)
      · rw [if_neg hnarrow]
        refine .notDocument (fun u hu => hnarrow ?_) hnone
        obtain rfl := Option.some.inj (hreads.symm.trans hu.reads)
        exact hu.narrow

end Settings

namespace FileState

/-- What comes of reading it. -/
def read : FileState → ReadResult
  | .absent => .absent
  | .unreadable failure => .failed failure
  | .file bytes => .ofBytes bytes

/-- It holds the settings: it is a text, and the settings are those of its document. -/
def Holds (file : FileState) (parser : Toml.Parser) (settings : Settings) : Prop :=
  ∃ text : String, file = .file text.toUTF8 ∧ Settings.ofToml text parser = .ok settings

/-- Why the file at the path holds no settings although there is one. -/
inductive Fails (parser : Toml.Parser) (path : String) : FileState → LoadError → Prop
  | unreadable (failure : ReadFailure) :
      Fails parser path (.unreadable failure) (.unreadable path failure)
  | notText {bytes : ByteArray} (h : ∀ text : String, bytes ≠ text.toUTF8) :
      Fails parser path (.file bytes) (.unreadable path .notText)
  | refused {text : String} {error : Settings.DocumentError}
      (h : Settings.ofToml text parser = .error error) :
      Fails parser path (.file text.toUTF8) (.refused error)

/-- What the warning says about the file at the path: the reason why it cannot be read, or the
report on the text in it. -/
inductive Warns (parser : Toml.Parser) (path : String) : FileState → String → Prop
  | unreadable {failure : ReadFailure} {reason : String} (h : failure.Worded reason) :
      Warns parser path (.unreadable failure)
        ("lecture de " ++ path ++ " impossible: " ++ reason ++ " ; réglages par défaut")
  | notText {bytes : ByteArray} (h : ∀ text : String, bytes ≠ text.toUTF8) :
      Warns parser path (.file bytes)
        ("lecture de " ++ path ++ " impossible: " ++ "stream did not contain valid UTF-8"
          ++ " ; réglages par défaut")
  | refused {text report : String} (h : Settings.RefusedWith parser text report) :
      Warns parser path (.file text.toUTF8)
        ("réglages invalides: " ++ report ++ " ; réglages par défaut")

variable {parser : Toml.Parser} {file : FileState} {path : String} {settings : Settings}
  {error : LoadError}

/-- A file is absent, or it holds settings, or there is an error. -/
theorem cases (parser : Toml.Parser) (path : String) (file : FileState) :
    file = .absent ∨ (∃ settings, file.Holds parser settings) ∨
      ∃ error, file.Fails parser path error := by
  cases file with
  | absent => exact .inl rfl
  | unreadable failure => exact .inr (.inr ⟨_, .unreadable failure⟩)
  | file bytes =>
      by_cases htext : ∃ text : String, bytes = text.toUTF8
      · obtain ⟨text, rfl⟩ := htext
        cases hdocument : Settings.ofToml text parser with
        | ok settings => exact .inr (.inl ⟨settings, text, rfl, hdocument⟩)
        | error error => exact .inr (.inr ⟨_, .refused hdocument⟩)
      · exact .inr (.inr ⟨_, .notText (not_exists.mp htext)⟩)

/-- The warning on an error says what is the matter with the file. -/
theorem Fails.warns (h : file.Fails parser path error) :
    file.Warns parser path (LaunchEvent.fellBack error).message := by
  cases h with
  | unreadable failure => exact .unreadable failure.worded_reason
  | notText hbytes => exact .notText hbytes
  | refused hdocument => exact .refused (Settings.refusedWith_of_ofToml hdocument)

/-! ### Loading -/

/-- Without a file the settings are the default ones. -/
theorem loadOrDefault_absent (parser : Toml.Parser) (path : String) :
    Settings.loadOrDefault path absent.read parser = ⟨{}, [.noFile path]⟩ := rfl

/-- Settings that a file holds are loaded. -/
theorem Holds.loadOrDefault (h : file.Holds parser settings) (path : String) :
    Settings.loadOrDefault path file.read parser = ⟨settings, [.loaded path settings]⟩ := by
  obtain ⟨text, rfl, hdocument⟩ := h
  have hload : Settings.load path (.found text) parser
      = ⟨.ok settings, [.loaded path settings]⟩ := by
    rw [Settings.load, hdocument]
  rw [read, ReadResult.ofBytes_toUTF8, Settings.loadOrDefault, hload]
  rfl

/-- On an error the default settings stand in. -/
theorem Fails.loadOrDefault (h : file.Fails parser path error) :
    Settings.loadOrDefault path file.read parser = ⟨{}, [.fellBack error]⟩ := by
  cases h with
  | unreadable failure => rfl
  | notText hbytes =>
      rw [read, ReadResult.ofBytes_of_notText hbytes]
      rfl
  | @refused text error hdocument =>
      have hload : Settings.load path (.found text) parser = pure (.error (.refused error)) := by
        rw [Settings.load, hdocument]
      rw [read, ReadResult.ofBytes_toUTF8, Settings.loadOrDefault, hload]
      rfl

/-- A file that holds settings is not absent, -/
theorem Holds.ne_absent (h : file.Holds parser settings) : file ≠ .absent := by
  rintro rfl
  obtain ⟨text, htext, -⟩ := h
  contradiction

/-- nor is one with an error. -/
theorem Fails.ne_absent (h : file.Fails parser path error) : file ≠ .absent := by
  rintro rfl
  contradiction

/-- Where there is an error, the file holds no settings. -/
theorem Fails.not_holds (h : file.Fails parser path error) : ¬ file.Holds parser settings := by
  intro hholds
  have hjournal := congrArg Logged.journal (h.loadOrDefault.symm.trans (hholds.loadOrDefault path))
  exact LaunchEvent.noConfusion (List.cons.inj hjournal).1

end FileState

/-- The decimal places of a document are capped. -/
theorem Settings.places_le_of_ofToml {parser : Toml.Parser} {text : String} {settings : Settings}
    (h : ofToml text parser = .ok settings) : settings.places ≤ mostPlaces := by
  rw [ofToml] at h
  split at h
  case h_1 => contradiction
  case h_2 t _ =>
    split at h
    case h_2 => contradiction
    case h_1 read htable =>
      obtain rfl := Except.ok.inj h
      simp only [ofTable, bind_eq_ok_iff] at htable
      obtain ⟨n, -, b, -, x, -, y, -, h⟩ := htable
      obtain rfl := Except.ok.inj h
      exact Std.min_le_right

/-! ### The launch -/

/-- The path that the environment designates, given the bytes of its value, if it has one: a value
that is not a text counts as none. -/
def Settings.designatedPath (value : Option ByteArray) : String :=
  path (value.bind String.fromUTF8?)

/-- The bytes of the value, if there is one, designate the path: they are its text, and in all other
cases it is that of the file of this name. -/
inductive Settings.Designates : Option ByteArray → String → Prop
  | absent : Designates none "calculatrice.toml"
  | notText {bytes : ByteArray} (h : ∀ text : String, bytes ≠ text.toUTF8) :
      Designates (some bytes) "calculatrice.toml"
  | text (path : String) : Designates (some path.toUTF8) path

/-- Every value designates a path. -/
theorem Settings.designates_designatedPath (value : Option ByteArray) :
    Designates value (designatedPath value) := by
  cases value with
  | none => exact .absent
  | some bytes =>
      by_cases htext : ∃ text : String, bytes = text.toUTF8
      · obtain ⟨text, rfl⟩ := htext
        rw [designatedPath, Option.bind_some, Text.fromUTF8?_toUTF8]
        exact .text text
      · have hnot := not_exists.mp htext
        rw [designatedPath, Option.bind_some, Text.fromUTF8?_of_notText hnot]
        exact .notText hnot

/-- The settings and the one record account for what there is at the path. -/
structure Accounts (parser : Toml.Parser) (path : String) (file : FileState) (settings : Settings)
    (event : LaunchEvent) : Prop where
  target : event.target = "calculatrice_rpn::reglages"
  places : settings.places ≤ 10
  debug_iff : event.level = .debug ↔ file = .absent
  info_iff : event.level = .info ↔ ∃ held, file.Holds parser held
  warn_iff : event.level = .warn ↔ file ≠ .absent ∧ ¬ ∃ held, file.Holds parser held
  default_of_debug : event.level = .debug → settings = ⟨2, true, 360, 520⟩ ∧
    event.message = "pas de fichier " ++ path ++ ", réglages par défaut"
  /-- The settings are those that the file holds, and the record shows them and no others. -/
  loaded_of_info : event.level = .info → file.Holds parser settings ∧
    event.message = "réglages chargés depuis " ++ path ++ ": " ++ settings.detailed ∧
    ∀ other, (LaunchEvent.loaded path other).message = event.message → other = settings
  /-- Nothing of the file is in the settings, and the record says why. -/
  default_of_warn : event.level = .warn → settings = ⟨2, true, 360, 520⟩ ∧
    file.Warns parser path event.message

/-- The record of the start shows the size of the window and no other. -/
structure Announces (event : LaunchEvent) (settings : Settings) : Prop where
  target : event.target = "calculatrice_rpn"
  level : event.level = .info
  message : event.message = "démarrage natif (" ++ Layout.plain.text settings.width ++ "×"
    ++ Layout.plain.text settings.height ++ ")"
  size : ∀ other, (LaunchEvent.started other).message = event.message →
    other.width = settings.width ∧ other.height = settings.height

/-- The record of a start announces it. -/
theorem announces_started (settings : Settings) : Announces (.started settings) settings where
  target := rfl
  level := rfl
  message := rfl
  size _ := LaunchEvent.size_eq_of_message_started_eq

section

variable {parser : Toml.Parser} {path : String} {file : FileState} {settings : Settings}
  {error : LoadError}

/-- The debug record accounts for an absent file, -/
theorem accounts_noFile (parser : Toml.Parser) (path : String) :
    Accounts parser path .absent {} (.noFile path) where
  target := rfl
  places := by decide
  debug_iff := iff_of_true rfl rfl
  info_iff := iff_of_false nofun fun ⟨_, h⟩ => h.ne_absent rfl
  warn_iff := iff_of_false nofun fun h => h.1 rfl
  default_of_debug _ := ⟨rfl, rfl⟩
  loaded_of_info := nofun
  default_of_warn := nofun

/-- the record of the settings for a file that holds them, -/
theorem FileState.Holds.accounts (h : file.Holds parser settings) (path : String) :
    Accounts parser path file settings (.loaded path settings) where
  target := rfl
  places := by
    obtain ⟨text, -, hdocument⟩ := h
    exact Settings.places_le_of_ofToml hdocument
  debug_iff := iff_of_false nofun h.ne_absent
  info_iff := iff_of_true rfl ⟨settings, h⟩
  warn_iff := iff_of_false nofun fun hnone => hnone.2 ⟨settings, h⟩
  default_of_debug := nofun
  loaded_of_info _ := ⟨h, rfl, fun _ => LaunchEvent.settings_eq_of_message_loaded_eq⟩
  default_of_warn := nofun

/-- and the warning for every other one. -/
theorem FileState.Fails.accounts (h : file.Fails parser path error) :
    Accounts parser path file {} (.fellBack error) where
  target := rfl
  places := by decide
  debug_iff := iff_of_false nofun h.ne_absent
  info_iff := iff_of_false nofun fun ⟨_, hheld⟩ => h.not_holds hheld
  warn_iff := iff_of_true rfl ⟨h.ne_absent, fun ⟨_, hheld⟩ => h.not_holds hheld⟩
  default_of_debug := nofun
  loaded_of_info := nofun
  default_of_warn _ := ⟨rfl, h.warns⟩

/-- Whatever there is at a path, loading accounts for it with one record. -/
theorem exists_accounts (parser : Toml.Parser) (path : String) (file : FileState) :
    ∃ settings event, Settings.loadOrDefault path file.read parser = ⟨settings, [event]⟩ ∧
      Accounts parser path file settings event := by
  rcases file.cases parser path with rfl | ⟨settings, h⟩ | ⟨error, h⟩
  · exact ⟨_, _, FileState.loadOrDefault_absent parser path, accounts_noFile parser path⟩
  · exact ⟨_, _, h.loadOrDefault path, h.accounts path⟩
  · exact ⟨_, _, h.loadOrDefault, h.accounts⟩

end

/-- **A broken settings file is never fatal and is always accounted for.** For every value of the
environment, every state of the file that it designates and every parser of documents, loading gives
settings and one record, which account for the file; the launch goes on with these settings, and its
only other record announces them. -/
theorem launch_accounts (parser : Toml.Parser) (value : Option ByteArray) (file : FileState) :
    Settings.Designates value (Settings.designatedPath value) ∧
    ∃ settings event,
      Settings.loadOrDefault (Settings.designatedPath value) file.read parser
        = ⟨settings, [event]⟩ ∧
      Accounts parser (Settings.designatedPath value) file settings event ∧
      ∃ start, launch (Settings.designatedPath value) file.read parser
          = ⟨settings, [event, start]⟩ ∧
        Announces start settings := by
  refine ⟨Settings.designates_designatedPath value, ?_⟩
  obtain ⟨settings, event, hload, haccounts⟩ :=
    exists_accounts parser (Settings.designatedPath value) file
  refine ⟨settings, event, hload, haccounts, .started settings, ?_, announces_started settings⟩
  rw [launch, hload]
  rfl

end PocketCalculator
