import Mathlib.Data.List.Basic

/-!
# Lists of names with values

Main results:

- Theorem `mem_iff_lookup`: in a list in which no name stands twice, a lookup finds what stands
  there.
-/

namespace KeyIndex

/-- No name stands twice: what is found under it is what stands there. -/
theorem mem_iff_lookup {β : Type} {entries : List (String × β)} {name : String} {value : β}
    (h : (entries.map (·.1)).Nodup) :
    (name, value) ∈ entries ↔ entries.lookup name = some value := by
  induction entries with
  | nil => simp
  | cons entry entries ih =>
    rcases entry with ⟨other, otherValue⟩
    rcases List.nodup_cons.mp h with ⟨hother, hrest⟩
    by_cases hname : name = other
    · subst hname
      have hnone : (name, value) ∉ entries := fun hmem =>
        hother (List.mem_map.mpr ⟨_, hmem, rfl⟩)
      simp [hnone, eq_comm]
    · have htest : (name == other) = false := beq_eq_false_iff_ne.mpr hname
      simp [List.lookup_cons, htest, hname, ih hrest]

end KeyIndex
