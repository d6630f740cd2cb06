import Mathlib.Data.List.Nodup
import PocketCalculator.Toml.Document

/-!
# The names in a table

A name stands at most once in the table of a document. A pair or a section changes a table in one of
two ways, `Table.Step`: by an entry of a new name, or by an entry in the place of those of its name.
Both keep the names distinct. Which value a name has can therefore be said without the order of the
entries: `Table.Assigns`.

* **`distinct_of_ofText?`**: no two entries in the table of a document have the same name, so that a
  name has one value at most (`Distinct.assigns_unique`).
-/

namespace PocketCalculator.Toml

namespace Table

variable {t u : Table} {name : String}

/-! ### One change of a table -/

/-- The table `u` is `t` with one more name, or with another value of a name. -/
inductive Step (t : Table) : Table → Prop
  | add (entry : Entry) (new : t.find? entry.name = none) : Step t (t.add entry)
  | replace (entry : Entry) : Step t (t.replace entry)

/-- A step that depends on something else being made. -/
theorem Step.of_bind {α : Type} {made? : Option α} {change : α → Table}
    (h : (do return change (← made?)) = some u) (hchange : ∀ made, Step t (change made)) :
    Step t u := by
  obtain ⟨made, -, h⟩ := Option.bind_eq_some_iff.mp h
  obtain rfl := Option.some.inj h
  exact hchange made

/-- A change at the end of a path is a step at its beginning. -/
theorem step_of_reach {dotted : Bool} {change : Table → Option Table} {path : List Key}
    (hchange : change t = some u → Step t u) (h : reach dotted change path t = some u) :
    Step t u := by
  cases path with
  | nil => exact hchange h
  | cons key path =>
      rw [reach] at h
      split at h
      case h_1 hnone => exact .of_bind h fun made => .add _ hnone
      case h_2 =>
        split at h
        · contradiction
        · exact .of_bind h fun changed => .replace _
      case h_3 => exact .of_bind h fun changed => .replace _
      case h_4 => contradiction

/-- A pair is one step, -/
theorem step_of_define {pair : Pair} (h : t.define pair = some u) : Step t u := by
  refine step_of_reach (fun h => ?_) h
  rw [defineHere] at h
  split at h
  case isTrue hopen =>
    obtain rfl := Option.some.inj h
    exact .add _ (Option.isNone_iff_eq_none.mp hopen.2)
  case isFalse => contradiction

/-- and so is a section. -/
theorem step_of_addSection {part : Header × List Pair} (h : t.addSection part = some u) :
    Step t u := by
  refine step_of_reach (fun h => ?_) h
  rw [openHere] at h
  split at h
  case h_1 hnone _ => exact .of_bind h fun made => .add _ hnone
  case h_2 => exact .of_bind h fun made => .replace _
  case h_3 hnone _ => exact .of_bind h fun made => .add _ hnone
  case h_4 => exact .of_bind h fun made => .replace _
  case h_5 => contradiction

/-! ### Distinct names -/

/-- The names of the entries. -/
def names (t : Table) : List String := t.entries.map Entry.name

/-- No two entries have the same name. -/
def Distinct (t : Table) : Prop := t.names.Nodup

/-- A new entry adds its name, -/
theorem names_add (t : Table) (entry : Entry) : (t.add entry).names = t.names ++ [entry.name] := by
  rw [names, add, entries, List.map_append, List.map_singleton, names]

/-- and one in the place of others adds none. -/
theorem names_replace (t : Table) (entry : Entry) : (t.replace entry).names = t.names := by
  rw [names, replace, entries, List.map_map]
  refine List.map_congr_left fun e _ => ?_
  by_cases h : e.name = entry.name <;> simp [h]

/-- The lookup finds nothing exactly if the name is none of these. -/
theorem find?_eq_none_iff : t.find? name = none ↔ name ∉ t.names := by
  simp [find?, names]

/-- A step keeps the names distinct. -/
theorem Step.distinct (h : Step t u) (ht : t.Distinct) : u.Distinct := by
  cases h with
  | add entry hnew =>
      rw [Distinct, names_add]
      exact List.nodup_append_comm.mp (List.nodup_cons.mpr ⟨find?_eq_none_iff.mp hnew, ht⟩)
  | replace entry =>
      rw [Distinct, names_replace]
      exact ht

/-- A run of steps keeps the names distinct. -/
theorem distinct_foldlM {α : Type} {change : Table → α → Option Table}
    (hstep : ∀ {t u : Table} {a : α}, change t a = some u → Step t u) {parts : List α}
    (ht : t.Distinct) (h : parts.foldlM change t = some u) : u.Distinct := by
  induction parts generalizing t with
  | nil =>
      obtain rfl := Option.some.inj h
      exact ht
  | cons a parts ih =>
      rw [List.foldlM_cons] at h
      obtain ⟨next, hnext, hrest⟩ := Option.bind_eq_some_iff.mp h
      exact ih ((hstep hnext).distinct ht) hrest

/-- No two entries in the table of a document have the same name. -/
theorem distinct_of_ofText? {text : String} (h : ofText? text = some t) : t.Distinct := by
  obtain ⟨⟨lines, rest⟩, -, h⟩ := Option.bind_eq_some_iff.mp h
  obtain ⟨top, htop, h⟩ := Option.bind_eq_some_iff.mp h
  have hempty : (empty .explicit).Distinct := List.nodup_nil
  exact distinct_foldlM step_of_addSection (distinct_foldlM step_of_define hempty htop) h

/-! ### The value of a name -/

/-- The name has the value in the table. -/
def Assigns (t : Table) (name : String) (v : Value) : Prop :=
  ∃ entry ∈ t.entries, entry.name = name ∧ entry.value = v

/-- What the lookup finds is an entry of the name. -/
theorem assigns_of_find? {entry : Entry} (h : t.find? name = some entry) :
    t.Assigns name entry.value :=
  ⟨entry, List.mem_of_find?_eq_some h, by simpa using List.find?_some h, rfl⟩

/-- What it does not find is a name without a value. -/
theorem find?_eq_none_iff_not_assigns : t.find? name = none ↔ ∀ v, ¬ t.Assigns name v := by
  simp only [find?_eq_none_iff, names, List.mem_map, Assigns]
  exact ⟨fun h v ⟨e, hmem, hname, _⟩ => h ⟨e, hmem, hname⟩,
    fun h ⟨e, hmem, hname⟩ => h e.value ⟨e, hmem, hname, rfl⟩⟩

/-- A name has one entry at most, -/
theorem Distinct.entry_unique (ht : t.Distinct) {entry entry' : Entry} (h : entry ∈ t.entries)
    (h' : entry' ∈ t.entries) (hname : entry.name = entry'.name) : entry = entry' :=
  List.inj_on_of_nodup_map ht h h' hname

/-- and one value. -/
theorem Distinct.assigns_unique (ht : t.Distinct) {v w : Value} (hv : t.Assigns name v)
    (hw : t.Assigns name w) : v = w := by
  obtain ⟨e, he, hname, rfl⟩ := hv
  obtain ⟨e', he', hname', rfl⟩ := hw
  rw [ht.entry_unique he he' (hname.trans hname'.symm)]

/-! ### The width of integers -/

/-- Where all integers are narrow, those of each entry are. -/
theorem allNarrow_of_mem {entries : List Entry} (h : entriesNarrow entries = true)
    {entry : Entry} (hmem : entry ∈ entries) : entry.value.allNarrow = true := by
  induction entries with
  | nil => contradiction
  | cons first entries ih =>
      obtain ⟨_, _, value⟩ := first
      rw [entriesNarrow, Bool.and_eq_true] at h
      rcases List.mem_cons.mp hmem with rfl | hmem
      · exact h.1
      · exact ih h.2 hmem

/-- An integer that a table of narrow integers gives to a name is narrow. -/
theorem fitsSigned_of_assigns {i : Int} (hnarrow : t.allNarrow = true)
    (h : t.Assigns name (.integer i)) : Binary.FitsSigned 64 i := by
  obtain ⟨entry, hmem, -, hvalue⟩ := h
  obtain ⟨kind, entries⟩ := t
  rw [allNarrow] at hnarrow
  have h := allNarrow_of_mem hnarrow hmem
  rw [hvalue, Value.allNarrow] at h
  exact of_decide_eq_true h

end Table

end PocketCalculator.Toml
