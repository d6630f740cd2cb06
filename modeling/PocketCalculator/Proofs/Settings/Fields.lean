import PocketCalculator.Proofs.Binary.Correct
import PocketCalculator.Proofs.Toml.Names
import PocketCalculator.Settings.Document

/-!
# The settings of a document, field by field

What the settings in a document are, said of the names in its table and not of the order in which
they are looked up. `Toml.Table.Gives` says what one name gives to its field: what its value stands
for, or the default if it has none. `Settings.ReadFrom` says it of the four fields,
`Toml.Table.FitsSettings` when all of them can be read.

* **`ofToml_of_documents`**: the settings of a document are those read from its table, there are
  some exactly if every value that is present fits, each field depends on its own name only, and
  documents that agree on the four names have the same settings or none.
-/

namespace PocketCalculator

open Binary

namespace Toml

/-- The text is a document with the table: it follows the grammar, and its integers are within the
64 bits with a sign that the language gives them. -/
structure Documents (text : String) (t : Table) : Prop where
  reads : Table.ofText? text = some t
  narrow : t.allNarrow = true

/-! ### What a value stands for -/

namespace Value

/-- The value is the unsigned integer of 32 bits. -/
def IsWord (v : Value) (n : UInt32) : Prop := v = .integer n.toNat

/-- The value is the Boolean. -/
def IsBoolean (v : Value) (b : Bool) : Prop := v = .boolean b

/-- The value is an integer or a float, and the number is the nearest to it in single precision. -/
inductive IsSingle : Value → Binary32 → Prop
  | integer {i : Int} {x : Binary32} (h : Number.IsRounded (decide (i < 0)) |(i : ℚ)| x) :
      IsSingle (.integer i) x
  | finite {negative : Bool} {steps : ℕ} {holds : Format.binary64.Holds steps} {x : Binary32}
      (h : Number.IsRounded negative (steps / Format.binary64.one) x) :
      IsSingle (.float (.finite negative steps holds)) x
  | infinity (negative : Bool) : IsSingle (.float (.infinity negative)) (.infinity negative)
  | nan : IsSingle (.float .nan) .nan

variable {v w : Value}

/-- What is read as an integer of 32 bits is one, -/
theorem word?_eq_some_iff {n : UInt32} : v.word? = some n ↔ v.IsWord n := by
  constructor
  · intro h
    cases v with
    | integer i =>
        rw [word?] at h
        split at h
        case isTrue hfits =>
          obtain ⟨hnonneg, hbelow⟩ := hfits
          obtain rfl := Option.some.inj h
          rw [IsWord, UInt32.toNat_ofNat', Nat.mod_eq_of_lt (by omega), Int.toNat_of_nonneg hnonneg]
        case isFalse => contradiction
    | _ => contradiction
  · rintro rfl
    have hfits : FitsUnsigned 32 n.toNat := ⟨Int.natCast_nonneg _, Int.ofNat_lt.mpr n.toNat_lt⟩
    rw [word?, if_pos hfits, Int.toNat_natCast, UInt32.ofNat_toNat]

/-- and what is read as a Boolean is one. -/
theorem boolean?_eq_some_iff {b : Bool} : v.boolean? = some b ↔ v.IsBoolean b := by
  cases v <;> simp [boolean?, IsBoolean]

/-- A value is one integer of 32 bits at most, -/
theorem IsWord.unique {n m : UInt32} (hn : v.IsWord n) (hm : v.IsWord m) : n = m := by
  have h := Value.integer.inj (hn.symm.trans hm)
  exact UInt32.toNat_inj.mp (Int.ofNat.inj h)

/-- and one Boolean at most. -/
theorem IsBoolean.unique {a b : Bool} (ha : v.IsBoolean a) (hb : v.IsBoolean b) : a = b :=
  Value.boolean.inj (ha.symm.trans hb)

/-- An integer is rounded once, -/
theorem isSingle_ofInt (i : Int) : IsSingle (.integer i) (Number.ofInt i) := by
  have h := Number.isRounded_ofRatio (f := .binary32) (decide (i < 0)) i.natAbs Nat.one_pos
  rw [Nat.cast_one, div_one, Nat.cast_natAbs, Int.cast_abs] at h
  exact .integer h

/-- and a float is rounded from double precision, in which it is exact. -/
theorem isSingle_convert (x : Binary64) : IsSingle (.float x) (x.convert .binary32) := by
  cases x with
  | nan => exact .nan
  | infinity negative => exact .infinity negative
  | finite negative steps holds =>
      exact .finite (Number.isRounded_ofRatio negative steps (Nat.two_pow_pos _))

/-- A value is one number in single precision at most. -/
theorem IsSingle.unique {x y : Binary32} (hx : v.IsSingle x) (hy : v.IsSingle y) : x = y := by
  cases hx with
  | integer hx =>
      cases hy with
      | integer hy => exact hx.unique (abs_nonneg _) hy
  | finite hx =>
      cases hy with
      | finite hy => exact hx.unique (by positivity) hy
  | infinity negative => cases hy with | infinity => rfl
  | nan => cases hy with | nan => rfl

/-- What is read as a number in single precision is the nearest one, if integers have 64 bits. -/
theorem single?_eq_some_iff (hnarrow : ∀ i, v = .integer i → FitsSigned 64 i) {x : Binary32} :
    v.single? = some x ↔ v.IsSingle x := by
  constructor
  · intro h
    cases v with
    | integer i =>
        rw [single?, if_pos (.inl (hnarrow i rfl))] at h
        obtain rfl := Option.some.inj h
        exact isSingle_ofInt i
    | float y =>
        obtain rfl := Option.some.inj h
        exact isSingle_convert y
    | _ => contradiction
  · intro h
    cases v with
    | integer i =>
        rw [single?, if_pos (.inl (hnarrow i rfl)), (isSingle_ofInt i).unique h]
    | float y => rw [single?, (isSingle_convert y).unique h]
    | _ => cases h

/-- The integers of 32 bits are those from zero to `2 ^ 32 - 1`. -/
theorem exists_isWord_iff : (∃ n, v.IsWord n) ↔ ∃ i : ℕ, v = .integer i ∧ i ≤ 4294967295 := by
  constructor
  · rintro ⟨n, rfl⟩
    exact ⟨n.toNat, rfl, Nat.le_of_lt_succ n.toNat_lt⟩
  · rintro ⟨i, rfl, hi⟩
    refine ⟨UInt32.ofNat i, ?_⟩
    rw [IsWord, UInt32.toNat_ofNat', Nat.mod_eq_of_lt (Nat.lt_succ_of_le hi)]

/-- Every integer and every float has a nearest number in single precision. -/
theorem exists_isSingle_iff :
    (∃ x, v.IsSingle x) ↔ (∃ i, v = .integer i) ∨ ∃ x, v = .float x := by
  constructor
  · rintro ⟨x, h⟩
    cases h with
    | integer => exact .inl ⟨_, rfl⟩
    | _ => exact .inr ⟨_, rfl⟩
  · rintro (⟨i, rfl⟩ | ⟨y, rfl⟩)
    · exact ⟨_, isSingle_ofInt i⟩
    · exact ⟨_, isSingle_convert y⟩

/-- The values are the same integer, float or Boolean, or neither is one. -/
structure Alike (v w : Value) : Prop where
  integer : ∀ i, v = .integer i ↔ w = .integer i
  float : ∀ x, v = .float x ↔ w = .float x
  boolean : ∀ b, v = .boolean b ↔ w = .boolean b

/-- A value is like itself, -/
theorem Alike.refl (v : Value) : v.Alike v := ⟨fun _ => .rfl, fun _ => .rfl, fun _ => .rfl⟩

/-- and likeness has no direction. -/
theorem Alike.symm (h : v.Alike w) : w.Alike v :=
  ⟨fun i => (h.integer i).symm, fun x => (h.float x).symm, fun b => (h.boolean b).symm⟩

/-- Alike values are the same integer of 32 bits, -/
theorem IsWord.of_alike {n : UInt32} (hv : v.IsWord n) (h : v.Alike w) : w.IsWord n :=
  (h.integer _).mp hv

/-- the same Boolean, -/
theorem IsBoolean.of_alike {b : Bool} (hv : v.IsBoolean b) (h : v.Alike w) : w.IsBoolean b :=
  (h.boolean _).mp hv

/-- and have the same nearest number. -/
theorem IsSingle.of_alike {x : Binary32} (hv : v.IsSingle x) (h : v.Alike w) : w.IsSingle x := by
  cases hv with
  | integer hx =>
      rw [(h.integer _).mp rfl]
      exact .integer hx
  | finite hx =>
      rw [(h.float _).mp rfl]
      exact .finite hx
  | infinity negative =>
      rw [(h.float _).mp rfl]
      exact .infinity negative
  | nan =>
      rw [(h.float _).mp rfl]
      exact .nan

end Value

/-! ### What a name gives to its field -/

namespace Table

variable {α : Type} {t u : Table} {name : String} {Is : Value → α → Prop} {default a b : α}

/-- The name gives `a` to its field: its value is `a`, or it has none and `a` is the default. -/
def Gives (t : Table) (name : String) (Is : Value → α → Prop) (default a : α) : Prop :=
  (∃ v, t.Assigns name v ∧ Is v a) ∨ (∀ v, ¬ t.Assigns name v) ∧ a = default

/-- The tables agree on a name: it has alike values in both, or in neither a value. -/
structure AgreeAt (t u : Table) (name : String) : Prop where
  left : ∀ v, t.Assigns name v → ∃ w, u.Assigns name w ∧ v.Alike w
  right : ∀ w, u.Assigns name w → ∃ v, t.Assigns name v ∧ v.Alike w

/-- Agreement has no direction. -/
theorem AgreeAt.symm (h : t.AgreeAt u name) : u.AgreeAt t name where
  left w hw := (h.right w hw).imp fun _ hv => ⟨hv.1, hv.2.symm⟩
  right v hv := (h.left v hv).imp fun _ hw => ⟨hw.1, hw.2.symm⟩

/-- A name without a value gives the default. -/
theorem field_of_absent (h : t.find? name = none) (expected : Expected)
    (read : Value → Option α) : t.field name expected read default = .ok default := by
  rw [field, h]

/-- A value gives what is read from it. -/
theorem field_eq_ok_iff_of_find? {entry : Entry} (h : t.find? name = some entry)
    {expected : Expected} {read : Value → Option α} :
    t.field name expected read default = .ok a ↔ read entry.value = some a := by
  rw [field, h]
  cases hread : read entry.value <;> simp [hread]

/-- What is read from the values of a table is what they stand for. -/
structure Reads (t : Table) : Prop where
  word : ∀ name v, t.Assigns name v → ∀ n, v.word? = some n ↔ v.IsWord n
  boolean : ∀ name v, t.Assigns name v → ∀ b, v.boolean? = some b ↔ v.IsBoolean b
  single : ∀ name v, t.Assigns name v → ∀ x, v.single? = some x ↔ v.IsSingle x

/-- In a table of narrow integers every value is read as what it stands for. -/
theorem reads_of_narrow (t : Table) (hnarrow : t.allNarrow = true) : t.Reads where
  word _ _ _ _ := Value.word?_eq_some_iff
  boolean _ _ _ _ := Value.boolean?_eq_some_iff
  single _ v hv _ := by
    refine Value.single?_eq_some_iff fun i hi => ?_
    subst hi
    exact fitsSigned_of_assigns hnarrow hv

/-- A field is what its name gives to it. -/
theorem Distinct.field_eq_ok_iff (ht : t.Distinct) {expected : Expected}
    {read : Value → Option α} (hread : ∀ v, t.Assigns name v → ∀ a, read v = some a ↔ Is v a) :
    t.field name expected read default = .ok a ↔ t.Gives name Is default a := by
  cases hfind : t.find? name with
  | none =>
      have habsent := find?_eq_none_iff_not_assigns.mp hfind
      rw [field_of_absent hfind, Except.ok.injEq]
      constructor
      · exact fun h => .inr ⟨habsent, h.symm⟩
      · rintro (⟨v, hv, -⟩ | ⟨-, rfl⟩)
        · exact absurd hv (habsent v)
        · rfl
  | some entry =>
      have hassigns := assigns_of_find? hfind
      rw [field_eq_ok_iff_of_find? hfind, hread _ hassigns]
      constructor
      · exact fun h => .inl ⟨_, hassigns, h⟩
      · rintro (⟨v, hv, h⟩ | ⟨habsent, -⟩)
        · rwa [ht.assigns_unique hassigns hv]
        · exact absurd hassigns (habsent _)

/-- A name gives one thing only, -/
theorem Distinct.gives_unique (ht : t.Distinct) (ha : t.Gives name Is default a)
    (hb : t.Gives name Is default b) (hunique : ∀ {v a b}, Is v a → Is v b → a = b) : a = b := by
  rcases ha with ⟨v, hv, ha⟩ | ⟨habsent, rfl⟩
  · rcases hb with ⟨w, hw, hb⟩ | ⟨habsent, -⟩
    · obtain rfl := ht.assigns_unique hv hw
      exact hunique ha hb
    · exact absurd hv (habsent v)
  · rcases hb with ⟨w, hw, -⟩ | ⟨-, rfl⟩
    · exact absurd hw (habsent w)
    · rfl

/-- and it gives something exactly if its value fits, should it have one. -/
theorem Distinct.exists_gives_iff (ht : t.Distinct) :
    (∃ a, t.Gives name Is default a) ↔ ∀ v, t.Assigns name v → ∃ a, Is v a := by
  constructor
  · rintro ⟨a, ⟨v, hv, ha⟩ | ⟨habsent, -⟩⟩ w hw
    · obtain rfl := ht.assigns_unique hv hw
      exact ⟨a, ha⟩
    · exact absurd hw (habsent w)
  · intro hfits
    by_cases hpresent : ∃ v, t.Assigns name v
    · obtain ⟨v, hv⟩ := hpresent
      obtain ⟨a, ha⟩ := hfits v hv
      exact ⟨a, .inl ⟨v, hv, ha⟩⟩
    · exact ⟨default, .inr ⟨fun v hv => hpresent ⟨v, hv⟩, rfl⟩⟩

/-- Where tables agree on a name, it gives the same. -/
theorem Gives.of_agreeAt (h : t.Gives name Is default a) (hagree : t.AgreeAt u name)
    (halike : ∀ {v w a}, Is v a → v.Alike w → Is w a) : u.Gives name Is default a := by
  rcases h with ⟨v, hv, ha⟩ | ⟨habsent, rfl⟩
  · obtain ⟨w, hw, hvw⟩ := hagree.left v hv
    exact .inl ⟨w, hw, halike ha hvw⟩
  · refine .inr ⟨fun w hw => ?_, rfl⟩
    obtain ⟨v, hv, -⟩ := hagree.right w hw
    exact habsent v hv

/-- Every value that is present fits its field. -/
structure FitsSettings (t : Table) : Prop where
  places : ∀ v, t.Assigns "decimales" v → ∃ i : ℕ, v = .integer i ∧ i ≤ 4294967295
  showWorking : ∀ v, t.Assigns "demarche" v → ∃ b, v = .boolean b
  height : ∀ v, t.Assigns "hauteur" v → (∃ i, v = .integer i) ∨ ∃ x, v = .float x
  width : ∀ v, t.Assigns "largeur" v → (∃ i, v = .integer i) ∨ ∃ x, v = .float x

end Table

end Toml

/-! ### The settings -/

namespace Settings

open Toml

variable {text other : String} {t u : Table} {settings settings' : Settings} {parser : Parser}

/-- The settings are those that the names of a table give: each field has its name and its default,
and the decimal places are at most ten. -/
structure ReadFrom (settings : Settings) (t : Table) : Prop where
  places : ∃ n, t.Gives "decimales" Value.IsWord 2 n ∧ settings.places = min n 10
  showWorking : t.Gives "demarche" Value.IsBoolean true settings.showWorking
  height : t.Gives "hauteur" Value.IsSingle 520 settings.height
  width : t.Gives "largeur" Value.IsSingle 360 settings.width

/-- Two steps succeed if the first does and then the second one. -/
theorem bind_eq_ok_iff {ε α β : Type} {x : Except ε α} {f : α → Except ε β} {b : β} :
    x >>= f = .ok b ↔ ∃ a, x = .ok a ∧ f a = .ok b := by
  cases x <;> simp [bind, Except.bind]

/-- The settings in a table are those read from it. -/
theorem ofTable_eq_ok_iff (ht : t.Distinct) (hnarrow : t.allNarrow = true) :
    ofTable t = .ok settings ↔ settings.ReadFrom t := by
  have hreads := t.reads_of_narrow hnarrow
  simp only [ofTable, bind_eq_ok_iff, ht.field_eq_ok_iff (hreads.word _),
    ht.field_eq_ok_iff (hreads.boolean _), ht.field_eq_ok_iff (hreads.single _)]
  constructor
  · rintro ⟨n, hn, b, hb, x, hx, y, hy, h⟩
    obtain rfl := Except.ok.inj h
    exact ⟨⟨n, hn, rfl⟩, hb, hx, hy⟩
  · rintro ⟨⟨n, hn, hplaces⟩, hb, hx, hy⟩
    refine ⟨n, hn, _, hb, _, hx, _, hy, ?_⟩
    obtain ⟨places, showWorking, width, height⟩ := settings
    obtain rfl : places = min n 10 := hplaces
    rfl

/-- There are settings in a table exactly if every value that is present fits. -/
theorem exists_readFrom_iff (ht : t.Distinct) :
    (∃ settings : Settings, settings.ReadFrom t) ↔ t.FitsSettings := by
  constructor
  · rintro ⟨settings, ⟨n, hn, -⟩, hb, hx, hy⟩
    exact {
      places := fun v hv => Value.exists_isWord_iff.mp (ht.exists_gives_iff.mp ⟨n, hn⟩ v hv)
      showWorking := ht.exists_gives_iff.mp ⟨_, hb⟩
      height := fun v hv => Value.exists_isSingle_iff.mp (ht.exists_gives_iff.mp ⟨_, hx⟩ v hv)
      width := fun v hv => Value.exists_isSingle_iff.mp (ht.exists_gives_iff.mp ⟨_, hy⟩ v hv) }
  · intro h
    obtain ⟨n, hn⟩ := ht.exists_gives_iff.mpr fun v hv =>
      Value.exists_isWord_iff.mpr (h.places v hv)
    obtain ⟨b, hb⟩ := ht.exists_gives_iff.mpr h.showWorking
    obtain ⟨x, hx⟩ := ht.exists_gives_iff.mpr fun v hv =>
      Value.exists_isSingle_iff.mpr (h.height v hv)
    obtain ⟨y, hy⟩ := ht.exists_gives_iff.mpr fun v hv =>
      Value.exists_isSingle_iff.mpr (h.width v hv)
    exact ⟨⟨min n 10, b, y, x⟩, ⟨n, hn, rfl⟩, hb, hx, hy⟩

/-- The settings of a document are those read from its table. -/
theorem ofToml_eq_ok_iff (ht : Documents text t) :
    ofToml text parser = .ok settings ↔ settings.ReadFrom t := by
  rw [← ofTable_eq_ok_iff (Table.distinct_of_ofText? ht.reads) ht.narrow, ofToml, ht.reads]
  cases h : ofTable t <;> simp [h]

/-! ### Two documents -/

/-- Where tables agree on a name, its field is the same. -/
structure SameWhereAgreed (t u : Table) (settings settings' : Settings) : Prop where
  places : t.AgreeAt u "decimales" → settings.places = settings'.places
  showWorking : t.AgreeAt u "demarche" → settings.showWorking = settings'.showWorking
  height : t.AgreeAt u "hauteur" → settings.height = settings'.height
  width : t.AgreeAt u "largeur" → settings.width = settings'.width

/-- Settings read from two tables are the same in each field on whose name the tables agree. -/
theorem ReadFrom.sameWhereAgreed (hu : u.Distinct) (h : settings.ReadFrom t)
    (h' : settings'.ReadFrom u) : SameWhereAgreed t u settings settings' where
  places hagree := by
    obtain ⟨n, hn, hplaces⟩ := h.places
    obtain ⟨m, hm, hplaces'⟩ := h'.places
    have hword := hn.of_agreeAt hagree Value.IsWord.of_alike
    rw [hplaces, hplaces', hu.gives_unique hword hm Value.IsWord.unique]
  showWorking hagree := hu.gives_unique (h.showWorking.of_agreeAt hagree Value.IsBoolean.of_alike)
    h'.showWorking Value.IsBoolean.unique
  height hagree := hu.gives_unique (h.height.of_agreeAt hagree Value.IsSingle.of_alike)
    h'.height Value.IsSingle.unique
  width hagree := hu.gives_unique (h.width.of_agreeAt hagree Value.IsSingle.of_alike)
    h'.width Value.IsSingle.unique

/-- The names of the settings. -/
def names : List String := ["decimales", "demarche", "hauteur", "largeur"]

/-- Tables that agree on the four names have the same settings. -/
theorem ReadFrom.of_agree (hagree : ∀ name ∈ names, t.AgreeAt u name)
    (h : settings.ReadFrom t) : settings.ReadFrom u where
  places := h.places.imp fun _ hn =>
    ⟨hn.1.of_agreeAt (hagree _ (by decide)) Value.IsWord.of_alike, hn.2⟩
  showWorking := h.showWorking.of_agreeAt (hagree _ (by decide)) Value.IsBoolean.of_alike
  height := h.height.of_agreeAt (hagree _ (by decide)) Value.IsSingle.of_alike
  width := h.width.of_agreeAt (hagree _ (by decide)) Value.IsSingle.of_alike

/-- Documents that agree on the four names have the same settings or none. -/
theorem toOption_eq_of_agree (ht : Documents text t) (hu : Documents other u)
    (hagree : ∀ name ∈ names, t.AgreeAt u name) :
    (ofToml text parser).toOption = (ofToml other parser).toOption := by
  have hsame (settings : Settings) :
      ofToml text parser = .ok settings ↔ ofToml other parser = .ok settings := by
    rw [ofToml_eq_ok_iff ht, ofToml_eq_ok_iff hu]
    exact ⟨.of_agree hagree, .of_agree fun name hname => (hagree name hname).symm⟩
  cases h : ofToml text parser with
  | ok settings => rw [(hsame settings).mp h]
  | error fault =>
      cases h' : ofToml other parser with
      | ok settings => rw [(hsame settings).mpr h'] at h; contradiction
      | error fault' => rfl

/-- **The settings of a document are read field by field, all or none.** There are settings exactly
if every value that is present fits its field, and otherwise there is an error. They are those that
the four names give. Two documents have the same value in each field on whose name they agree, and
the same settings or none if they agree on all four. None of it depends on what the parser reports
of other texts. -/
theorem ofToml_of_documents (parser : Parser) (ht : Documents text t) :
    ((∃ settings, ofToml text parser = .ok settings) ↔ t.FitsSettings) ∧
    (¬ t.FitsSettings → ∃ error, ofToml text parser = .error error) ∧
    (∀ settings, ofToml text parser = .ok settings ↔ settings.ReadFrom t) ∧
    ∀ other u, Documents other u →
      (∀ settings settings', ofToml text parser = .ok settings →
        ofToml other parser = .ok settings' → SameWhereAgreed t u settings settings') ∧
      ((∀ name ∈ names, t.AgreeAt u name) →
        (ofToml text parser).toOption = (ofToml other parser).toOption) := by
  have hsuccess : (∃ settings, ofToml text parser = .ok settings) ↔ t.FitsSettings := by
    simp only [ofToml_eq_ok_iff ht]
    exact exists_readFrom_iff (Table.distinct_of_ofText? ht.reads)
  refine ⟨hsuccess, fun hmisfit => ?_, fun settings => ofToml_eq_ok_iff ht, fun other u hu =>
    ⟨fun settings settings' h h' => ?_, toOption_eq_of_agree ht hu⟩⟩
  · cases h : ofToml text parser with
    | ok settings => exact absurd (hsuccess.mp ⟨settings, h⟩) hmisfit
    | error error => exact ⟨error, rfl⟩
  · exact ReadFrom.sameWhereAgreed (Table.distinct_of_ofText? hu.reads) ((ofToml_eq_ok_iff ht).mp h)
      ((ofToml_eq_ok_iff hu).mp h')

/-- Whether the table gives the decimal places and no other setting. -/
def givesPlacesOnly (n : UInt32) (t : Table) : Bool :=
  t.allNarrow && ((t.find? "decimales").bind (·.value.word?) == some n &&
    ["demarche", "hauteur", "largeur"].all fun name => (t.find? name).isNone)

/-- A table of a document that gives the decimal places only, in terms of its names. -/
theorem exists_documents (text : String) (n : UInt32)
    (h : (Table.ofText? text).any (givesPlacesOnly n) = true) :
    ∃ t, Documents text t ∧ t.Assigns "decimales" (.integer n.toNat) ∧
      ∀ name ∈ ["demarche", "hauteur", "largeur"], ∀ v, ¬ t.Assigns name v := by
  obtain ⟨t, hreads, ht⟩ := (Option.any_eq_true _ _).mp h
  simp only [givesPlacesOnly, Bool.and_eq_true, beq_iff_eq, Option.bind_eq_some_iff,
    List.all_eq_true, Option.isNone_iff_eq_none] at ht
  obtain ⟨hnarrow, ⟨entry, hfind, hword⟩, habsent⟩ := ht
  have hassigns := Table.assigns_of_find? hfind
  rw [Value.word?_eq_some_iff.mp hword] at hassigns
  exact ⟨t, ⟨hreads, hnarrow⟩, hassigns, fun name hname =>
    Table.find?_eq_none_iff_not_assigns.mp (habsent name hname)⟩

/-- One document in two ways of writing it: a key in quotes, an integer in base sixteen, a comment
and a section of its own make no difference. -/
theorem ofToml_of_documents_ninety_nine :
    (∃ settings, ofToml "decimales = 99" = .ok settings) ∧
      (ofToml "decimales = 99").toOption
        = (ofToml "# dix\n'decimales' = 0x63\n[autre]\nlargeur = 1").toOption := by
  obtain ⟨t, ht, hplaces, habsent⟩ := exists_documents "decimales = 99" 99 (by decide +kernel)
  obtain ⟨u, hu, hplaces', habsent'⟩ := exists_documents
    "# dix\n'decimales' = 0x63\n[autre]\nlargeur = 1" 99 (by decide +kernel)
  have hdistinct := Table.distinct_of_ofText? ht.reads
  have hdistinct' := Table.distinct_of_ofText? hu.reads
  obtain ⟨hsuccess, -, -, hother⟩ := ofToml_of_documents {} ht
  refine ⟨hsuccess.mpr ⟨fun v hv => ?_, fun v hv => ?_, fun v hv => ?_, fun v hv => ?_⟩,
    (hother _ u hu).2 fun name hname => ?_⟩
  · exact ⟨99, hdistinct.assigns_unique hv hplaces, by decide⟩
  · exact absurd hv (habsent _ (by decide) v)
  · exact absurd hv (habsent _ (by decide) v)
  · exact absurd hv (habsent _ (by decide) v)
  · rcases List.mem_cons.mp hname with rfl | hname
    · refine ⟨fun v hv => ⟨_, hplaces', ?_⟩, fun w hw => ⟨_, hplaces, ?_⟩⟩
      · rw [hdistinct.assigns_unique hv hplaces]
        exact .refl _
      · rw [hdistinct'.assigns_unique hw hplaces']
        exact .refl _
    · exact ⟨fun v hv => absurd hv (habsent name hname v),
        fun w hw => absurd hw (habsent' name hname w)⟩

end Settings

end PocketCalculator
