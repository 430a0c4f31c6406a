import KeyIndex.Json.Record
import KeyIndex.Proofs.Json.Value
import KeyIndex.Proofs.Lookup
import Mathlib.Data.List.Count
import Mathlib.Data.List.Nodup

/-!
# Records that are written are read again

What is written of a value of some type is read again as the value if the tree that it stands for
is read as it.  So it is enough to look at trees: a number is read from the digits that it is
written with, and the fields of a record are found under the names that they are written with.

Main results:

- Definition `IsReadBack`, Theorem `IsReadBack.read?_write`: what is read from its own text.
- Theorems `isReadBack_string`, `isReadBack_uint32`, `isReadBack_uint64`, `isReadBack_list`,
  `isReadBack_some`: strings and numbers are, and lists and options of what is.
- Theorems `fields?_tree`, `Fields.need_eq`, `Fields.get_eq`: what is found of a record that is
  written.
-/

namespace KeyIndex.Json

/-- The tree that a value of some type is written as is read as the value. -/
def IsReadBack {α : Type} [Form α] (a : α) : Prop := ofTree? (toValue a).tree = some a

/-- What is read back is read from its own text. -/
theorem IsReadBack.read?_write {α : Type} [Form α] {a : α} (h : IsReadBack a) :
    read? α (write a) = some a := by
  rw [read?, write, Value.parse?_render, Option.bind_some, h]

/-! ## Strings and numbers -/

theorem isReadBack_string (s : String) : IsReadBack s := rfl

theorem numeral_ofInt (n : Nat) :
    (Number.ofInt n).numeral = ⟨false, Nat.toDigits 10 n, [], none⟩ := by
  have hsign : ¬ (n : Int) < 0 := by omega
  simp [Number.ofInt, Number.numeral, hsign]

/-- A natural number is read from its digits. -/
theorem nat?_tree (n : Nat) : (Value.nat n).tree.nat? = some n := by
  have htree : (Value.nat n).tree = .number ⟨false, Nat.toDigits 10 n, [], none⟩ :=
    congrArg Tree.number (numeral_ofInt n)
  rw [htree, Tree.nat?, digitsValue_toDigits]
  rfl

theorem natBelow?_tree {n bound : Nat} (h : n < bound) :
    (Value.nat n).tree.natBelow? bound = some n := by
  rw [Tree.natBelow?, nat?_tree, Option.filter_some_pos (by simpa using h)]

theorem isReadBack_uint32 (n : UInt32) : IsReadBack n := by
  have hvalue : toValue n = Value.nat n.toNat := rfl
  rw [IsReadBack, hvalue]
  show ((Value.nat n.toNat).tree.natBelow? UInt32.size).map UInt32.ofNat = some n
  rw [natBelow?_tree n.toNat_lt_size, Option.map_some, UInt32.ofNat_toNat]

theorem isReadBack_uint64 (n : UInt64) : IsReadBack n := by
  have hvalue : toValue n = Value.nat n.toNat := rfl
  rw [IsReadBack, hvalue]
  show ((Value.nat n.toNat).tree.natBelow? UInt64.size).map UInt64.ofNat = some n
  rw [natBelow?_tree n.toNat_lt_size, Option.map_some, UInt64.ofNat_toNat]

/-! ## Lists and options -/

/-- A list is read back if each of its items is. -/
theorem isReadBack_list {α : Type} [Form α] {items : List α} (h : ∀ a ∈ items, IsReadBack a) :
    IsReadBack items := by
  show (Value.itemTrees (items.map toValue)).mapM ofTree? = some items
  induction items with
  | nil => rfl
  | cons a items ih =>
    rw [List.forall_mem_cons] at h
    rw [List.map_cons, Value.itemTrees, List.mapM_cons, h.1, ih h.2]
    rfl

theorem isReadBack_none {α : Type} [Form α] : IsReadBack (none : Option α) := rfl

/-- What is not written as nothing is read back as something. -/
theorem isReadBack_some {α : Type} [Form α] {a : α} (h : IsReadBack a)
    (hne : (toValue a).tree ≠ .null) : IsReadBack (some a) := by
  show Tree.option? ofTree? (toValue a).tree = some (some a)
  unfold Tree.option?
  split
  case h_1 hnull => exact absurd hnull hne
  case h_2 => rw [h, Option.map_some]

/-! ## Members of an object -/

/-- The object with some members. -/
def Tree.ofMembers (members : Fields) : Tree :=
  .object (members.map fun (name, tree) => (some name, tree))

theorem namedMembers?_cons (name : String) (tree : Tree) (members : List (Text × Tree)) :
    namedMembers? ((some name, tree) :: members) =
      (namedMembers? members).map ((name, tree) :: ·) := by
  have hmapM : namedMembers? ((some name, tree) :: members) =
      (namedMembers? members).bind fun fields => some ((name, tree) :: fields) := List.mapM_cons
  rw [hmapM, Option.map_eq_bind]
  rfl

/-- The names of some members have text if these are the members of an object. -/
theorem namedMembers?_eq_some_iff {members : List (Text × Tree)} {fields : Fields} :
    namedMembers? members = some fields ↔
      members = fields.map fun (name, tree) => (some name, tree) := by
  constructor
  · intro h
    induction members generalizing fields with
    | nil => cases h; rfl
    | cons member members ih =>
      rcases member with ⟨_ | name, tree⟩
      · cases h
      · rw [namedMembers?_cons] at h
        rcases Option.map_eq_some_iff.mp h with ⟨more, hmore, rfl⟩
        rw [List.map_cons, ih hmore]
  · rintro rfl
    induction fields with
    | nil => rfl
    | cons field fields ih => rw [List.map_cons, namedMembers?_cons, ih, Option.map_some]

/-- No field of a record stands twice among some members. -/
def Fields.AreOnce (names : List String) (members : Fields) : Prop :=
  ∀ name ∈ names, (members.map (·.1)).count name ≤ 1

instance (names : List String) (members : Fields) : Decidable (members.AreOnce names) :=
  inferInstanceAs (Decidable (∀ name ∈ names, (members.map (·.1)).count name ≤ 1))

/-- The members that are fields of a record. -/
def Fields.among (names : List String) (members : Fields) : Fields :=
  members.filter (names.contains ·.1)

theorem Fields.map_among (names : List String) (members : Fields) :
    (members.among names).map (·.1) = (members.map (·.1)).filter names.contains := by
  rw [Fields.among, List.filter_map]
  rfl

theorem Fields.AreOnce.nodup {names : List String} {members : Fields}
    (h : members.AreOnce names) : ((members.among names).map (·.1)).Nodup := by
  rw [Fields.map_among, List.nodup_iff_count_le_one]
  intro name
  by_cases hname : name ∈ names
  · rw [List.count_filter (List.contains_iff_mem.mpr hname)]
    exact h name hname
  · rw [List.count_eq_zero_of_not_mem]
    · exact Nat.zero_le 1
    · exact fun hmem => hname (List.contains_iff_mem.mp (List.mem_filter.mp hmem).2)

/-- Of the members of an object the fields of a record are found, unless one stands twice. -/
theorem fields?_ofMembers {names : List String} {members : Fields} (h : members.AreOnce names) :
    (Tree.ofMembers members).fields? names = some (members.among names) := by
  rw [Tree.ofMembers, Tree.fields?, namedMembers?_eq_some_iff.mpr rfl, Option.bind_eq_bind,
    Option.bind_some]
  exact if_pos h.nodup

/-- Nothing is found of an object in which a field stands twice. -/
theorem fields?_of_repeated {names : List String} {members : List (Text × Tree)} {name : String}
    (hname : name ∈ names) (h : 2 ≤ (members.map (·.1)).count (some name)) :
    (Tree.object members).fields? names = none := by
  rw [Tree.fields?]
  cases hnamed : namedMembers? members with
  | none => rfl
  | some fields =>
    -- The names of the members are those of the fields, and in these the name stands twice too.
    have hcount : 2 ≤ (fields.map (·.1)).count name := by
      have hnames : members.map (·.1) = (fields.map (·.1)).map some := by
        rw [namedMembers?_eq_some_iff.mp hnamed, List.map_map, List.map_map]
        rfl
      rwa [hnames, List.count_map_of_injective _ some fun _ _ => Option.some.inj] at h
    have htwice : ¬ ((Fields.among names fields).map (·.1)).Nodup := by
      rw [List.nodup_iff_count_le_one, not_forall]
      refine ⟨name, ?_⟩
      rw [Fields.map_among, List.count_filter (List.contains_iff_mem.mpr hname)]
      omega
    rw [Option.bind_eq_bind, Option.bind_some]
    exact if_neg htwice

/-- A member of an object is found if it is a field of the record. -/
theorem get?_of_fields? {names : List String} {members : List (Text × Tree)} {fields : Fields}
    {name : String} {tree : Tree} (h : (Tree.object members).fields? names = some fields)
    (hname : name ∈ names) (hmem : (some name, tree) ∈ members) :
    fields.get? name = some tree := by
  rw [Tree.fields?] at h
  rcases Option.bind_eq_some_iff.mp h with ⟨named, hnamed, hfields⟩
  rcases Option.ite_none_right_eq_some.mp hfields with ⟨hnodup, hamong⟩
  rw [← Option.some.inj hamong]
  apply (mem_iff_lookup hnodup).mp
  rw [namedMembers?_eq_some_iff.mp hnamed] at hmem
  rcases List.mem_map.mp hmem with ⟨field, hfield, heq⟩
  cases heq
  exact List.mem_filter.mpr ⟨hfield, List.contains_iff_mem.mpr hname⟩

/-- In a record of which all fields must be given there is nothing else. -/
theorem exactFields?_ofMembers {names : List String} {members : Fields}
    (h : (members.map (·.1)).Perm names) :
    (Tree.ofMembers members).exactFields? names = some members := by
  rw [Tree.ofMembers, Tree.exactFields?, namedMembers?_eq_some_iff.mpr rfl, Option.bind_eq_bind,
    Option.bind_some]
  exact if_pos h

/-! ## Fields that are given -/

/-- What some members give for a field: nothing if it is not among them, otherwise a value that
its tree says. -/
inductive Gives {α : Type} (states : α → Tree → Prop) (name : String) (members : Fields) :
    Option α → Prop where
  | absent : name ∉ members.map (·.1) → Gives states name members none
  | present {a : α} {tree : Tree} : (name, tree) ∈ members → states a tree →
      Gives states name members (some a)

/-- What is given for a field can be told otherwise. -/
theorem Gives.map {α β : Type} {states : α → Tree → Prop} {otherwise : β → Tree → Prop}
    {name : String} {members : Fields} {given : Option α} {f : α → β}
    (h : Gives states name members given)
    (hf : ∀ a tree, states a tree → otherwise (f a) tree) :
    Gives otherwise name members (given.map f) := by
  cases h with
  | absent hnot => exact .absent hnot
  | present hmem htree => exact .present hmem (hf _ _ htree)

/-- A field has the value that is given for it, or else its default. -/
theorem Fields.get_among {α : Type} [Form α] {states : α → Tree → Prop} {names : List String}
    {members : Fields} {name : String} {given : Option α} (honce : members.AreOnce names)
    (hstates : ∀ a tree, states a tree → ofTree? tree = some a) (hname : name ∈ names)
    (h : Gives states name members given) (default : α) :
    (members.among names).get name default = some (given.getD default) := by
  cases h with
  | absent hnot =>
    have hnone : (members.among names).get? name = none := by
      rw [Fields.get?, List.lookup_eq_none_iff]
      intro field hfield
      rw [bne_iff_ne]
      rintro rfl
      exact hnot (List.mem_map_of_mem (List.mem_filter.mp hfield).1)
    rw [Fields.get, hnone]
    rfl
  | @present a tree hmem htree =>
    have hsome : (members.among names).get? name = some tree :=
      (mem_iff_lookup honce.nodup).mp
        (List.mem_filter.mpr ⟨hmem, List.contains_iff_mem.mpr hname⟩)
    rw [Fields.get, hsome]
    exact hstates a tree htree

/-! ## Fields that are written -/

theorem Value.tree_object (members : List (String × Value)) :
    (Value.object members).tree =
      .ofMembers (members.map fun (name, value) => (name, value.tree)) := by
  have hmembers : Value.memberTrees members = (members.map fun (name, value) =>
      (name, value.tree)).map fun (name, tree) => (some name, tree) := by
    induction members with
    | nil => rfl
    | cons member members ih => rw [Value.memberTrees, ih]; rfl
  rw [Value.tree, hmembers, Tree.ofMembers]

/-- In a record that is written, just its fields are found. -/
theorem fields?_tree {members : List (String × Value)} (h : (members.map (·.1)).Nodup) :
    (Value.object members).tree.fields? (members.map (·.1)) =
      some (members.map fun (name, value) => (name, value.tree)) := by
  have hnames : (members.map fun (name, value) => (name, value.tree)).map (·.1) =
      members.map (·.1) := by
    rw [List.map_map]
    rfl
  have honce : Fields.AreOnce (members.map (·.1))
      (members.map fun (name, value) => (name, value.tree)) := by
    intro name _
    rw [hnames]
    exact List.nodup_iff_count_le_one.mp h name
  rw [Value.tree_object, fields?_ofMembers honce, Fields.among, List.filter_eq_self.mpr]
  intro field hfield
  rw [List.contains_iff_mem, ← hnames]
  exact List.mem_map_of_mem hfield

/-- So it is in a record of which all fields must be given. -/
theorem exactFields?_tree {members : List (String × Value)} :
    (Value.object members).tree.exactFields? (members.map (·.1)) =
      some (members.map fun (name, value) => (name, value.tree)) := by
  rw [Value.tree_object, exactFields?_ofMembers]
  rw [List.map_map]
  exact .refl _

/-- A field that is read back is found under its name. -/
theorem Fields.need_eq {α : Type} [Form α] {a : α} {fields : Fields} {name : String}
    (h : IsReadBack a) (hfound : fields.get? name = some (toValue a).tree) :
    fields.need name = some a := by
  rw [Fields.need, hfound, Option.bind_some, h]

/-- So is a field that has a default. -/
theorem Fields.get_eq {α : Type} [Form α] {a default : α} {fields : Fields} {name : String}
    (h : IsReadBack a) (hfound : fields.get? name = some (toValue a).tree) :
    fields.get name default = some a := by
  rw [Fields.get, hfound]
  exact h

end KeyIndex.Json
