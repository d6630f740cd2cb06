import PocketCalculator.Proofs.Settings.Fields

/-!
# Why a document is refused

The four fields are read one after another, and the first one that its value does not fit refuses
the whole document. `Toml.Table.FaultAt` says that a fault is that of a name: it has the value and
the place of the name, and the value stands for nothing that the field takes.
`Toml.Table.FirstFault` says which one is reported: those before it give something to their fields.

* **`ofTable_eq_error_iff`**: the fault of a table is the first of the four fields, in the order
  `decimales`, `demarche`, `hauteur`, `largeur`.
-/

namespace PocketCalculator

namespace Toml.Table

variable {α : Type} {t : Table} {name : String} {Is : Value → α → Prop} {fault : Fault}

/-- The fault is that of a name: its value is none that the field takes. -/
structure FaultAt (t : Table) (name : String) (Is : Value → α → Prop) (expected : Expected)
    (fault : Fault) : Prop where
  entry : .mk name fault.span fault.found ∈ t.entries
  misfit : ∀ a, ¬ Is fault.found a
  expected : fault.expected = expected

/-- The fault is that of the first field whose value does not fit. -/
inductive FirstFault (t : Table) (fault : Fault) : Prop
  | places (h : t.FaultAt "decimales" Value.IsWord .word fault)
  | showWorking {n : UInt32} (hn : t.Gives "decimales" Value.IsWord 2 n)
      (h : t.FaultAt "demarche" Value.IsBoolean .boolean fault)
  | height {n : UInt32} {b : Bool} (hn : t.Gives "decimales" Value.IsWord 2 n)
      (hb : t.Gives "demarche" Value.IsBoolean true b)
      (h : t.FaultAt "hauteur" Value.IsSingle .single fault)
  | width {n : UInt32} {b : Bool} {x : Binary.Binary32} (hn : t.Gives "decimales" Value.IsWord 2 n)
      (hb : t.Gives "demarche" Value.IsBoolean true b)
      (hx : t.Gives "hauteur" Value.IsSingle 520 x)
      (h : t.FaultAt "largeur" Value.IsSingle .single fault)

/-- An entry found under a name is made of that name, its place and its value. -/
theorem mem_of_find? {entry : Entry} (h : t.find? name = some entry) :
    .mk name entry.span entry.value ∈ t.entries := by
  have hname : entry.name = name := by simpa using List.find?_some h
  cases entry
  subst hname
  exact List.mem_of_find?_eq_some h

/-- A value that is not read is the fault. -/
theorem field_eq_error_iff_of_find? {entry : Entry} (h : t.find? name = some entry)
    {expected : Expected} {read : Value → Option α} {default : α} :
    t.field name expected read default = .error fault ↔
      read entry.value = none ∧ fault = ⟨entry.span, entry.value, expected⟩ := by
  rw [field, h]
  cases hread : read entry.value <;> simp [hread, eq_comm]

/-- A field has the fault of its name. -/
theorem Distinct.field_eq_error_iff (ht : t.Distinct) {expected : Expected} {default : α}
    {read : Value → Option α} (hread : ∀ v, t.Assigns name v → ∀ a, read v = some a ↔ Is v a) :
    t.field name expected read default = .error fault ↔ t.FaultAt name Is expected fault := by
  cases hfind : t.find? name with
  | none =>
      have habsent := find?_eq_none_iff_not_assigns.mp hfind
      rw [field_of_absent hfind]
      exact iff_of_false nofun fun h => habsent fault.found ⟨_, h.entry, rfl, rfl⟩
  | some entry =>
      have hnone : read entry.value = none ↔ ∀ a, ¬ Is entry.value a := by
        simp only [Option.eq_none_iff_forall_ne_some, ne_eq, hread _ (assigns_of_find? hfind)]
      rw [field_eq_error_iff_of_find? hfind, hnone]
      constructor
      · rintro ⟨hmisfit, rfl⟩
        exact ⟨mem_of_find? hfind, hmisfit, rfl⟩
      · rintro ⟨hentry, hmisfit, hexpected⟩
        have heq := ht.entry_unique (mem_of_find? hfind) hentry rfl
        obtain ⟨-, hspan, hvalue⟩ := Entry.mk.inj heq
        obtain ⟨span, found, expected'⟩ := fault
        subst hspan hvalue hexpected
        exact ⟨hmisfit, rfl⟩

end Toml.Table

namespace Settings

open Toml

variable {t : Table} {fault : Fault}

/-- A step fails by its first half, or by its second one after the first has succeeded. -/
theorem bind_eq_error_iff {ε α β : Type} {x : Except ε α} {f : α → Except ε β} {e : ε} :
    x >>= f = .error e ↔ x = .error e ∨ ∃ a, x = .ok a ∧ f a = .error e := by
  cases x <;> simp [bind, Except.bind]

/-- **A table is refused for the first field whose value does not fit.** -/
theorem ofTable_eq_error_iff (ht : t.Distinct) (hnarrow : t.allNarrow = true) :
    ofTable t = .error fault ↔ t.FirstFault fault := by
  have hreads := t.reads_of_narrow hnarrow
  simp only [ofTable, bind_eq_error_iff, ht.field_eq_ok_iff (hreads.word _),
    ht.field_eq_ok_iff (hreads.boolean _), ht.field_eq_ok_iff (hreads.single _),
    ht.field_eq_error_iff (hreads.word _), ht.field_eq_error_iff (hreads.boolean _),
    ht.field_eq_error_iff (hreads.single _)]
  constructor
  · rintro (h | ⟨n, hn, h | ⟨b, hb, h | ⟨x, hx, h | ⟨y, -, h⟩⟩⟩⟩)
    · exact .places h
    · exact .showWorking hn h
    · exact .height hn hb h
    · exact .width hn hb hx h
    · contradiction
  · intro h
    cases h with
    | places h => exact .inl h
    | showWorking hn h => exact .inr ⟨_, hn, .inl h⟩
    | height hn hb h => exact .inr ⟨_, hn, .inr ⟨_, hb, .inl h⟩⟩
    | width hn hb hx h => exact .inr ⟨_, hn, .inr ⟨_, hb, .inr ⟨_, hx, .inl h⟩⟩⟩

end Settings

end PocketCalculator
