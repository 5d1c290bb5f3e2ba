import GoOidc.Vocabulary

/-!
Go's `[]string` slices as the provider builder gets them: `f(ids...)` passes the caller's slice,
a view of a backing array the caller still holds, and `append` writes into that array when the
view has room. The arrays are a list that only grows; an append leaves every other well-formed
view reading the same (`read_append_of_ne`, `wellFormed_append`).
-/

namespace GoOidc

/-- A Go slice: `len` elements of the array at address `array` from `offset`, with room for `cap`. -/
structure Slice where
  array : Nat
  offset : Nat
  len : Nat
  cap : Nat
  deriving DecidableEq, Repr

namespace Slice

def read (arrays : List (List String)) (s : Slice) : List String :=
  ((arrays.getD s.array []).drop s.offset).take s.len

/-- A view of an allocated array, with its room inside the array. -/
def WellFormed (arrays : List (List String)) (s : Slice) : Prop :=
  s.array < arrays.length ∧ s.len ≤ s.cap ∧ s.offset + s.cap ≤ (arrays.getD s.array []).length

instance (arrays : List (List String)) (s : Slice) : Decidable (s.WellFormed arrays) :=
  inferInstanceAs (Decidable (_ ∧ _ ∧ _))

/-- `append(s, item)`: into the backing array when there is room, else into a new array. Go may
    give that array more room, but only the provider's private configuration holds it. -/
def append (arrays : List (List String)) (s : Slice) (item : String) : List (List String) × Slice :=
  if s.len < s.cap then
    (arrays.set s.array ((arrays.getD s.array []).set (s.offset + s.len) item), { s with len := s.len + 1 })
  else (arrays ++ [s.read arrays ++ [item]], ⟨arrays.length, 0, s.len + 1, s.len + 1⟩)

/-- `if !goidc.ContainsAll(ids, item) { ids = append(ids, item) }`, as the two key-ID calls
    complete their argument with the default key. -/
def appendIfMissing (arrays : List (List String)) (s : Slice) (item : String) :
    List (List String) × Slice :=
  if !containsAll (s.read arrays) [item] then append arrays s item else (arrays, s)

theorem length_read_le (arrays : List (List String)) (s : Slice) : (s.read arrays).length ≤ s.len :=
  List.length_take_le _ _

theorem take_drop_set {α : Type} (xs : List α) (offset len : Nat) (item : α)
    (room : offset + len < xs.length) :
    ((xs.set (offset + len) item).drop offset).take (len + 1) = (xs.drop offset).take len ++ [item] := by
  rw [← List.set_drop, List.take_succ, List.set_take, List.getElem?_set_self (by simp; omega),
    List.set_eq_of_length_le (List.length_take_le _ _)]
  rfl

section Arrays
variable (arrays : List (List String))

theorem getD_set_ne {i j : Nat} (a : List String) (ne : i ≠ j) :
    (arrays.set i a).getD j [] = arrays.getD j [] := by
  simp [List.getD_eq_getElem?_getD, List.getElem?_set_ne ne]

theorem getD_set_self {i : Nat} (a : List String) (lt : i < arrays.length) :
    (arrays.set i a).getD i [] = a := by
  simp [List.getD_eq_getElem?_getD, lt]

theorem getD_append_of_lt (extra : List (List String)) {j : Nat} (lt : j < arrays.length) :
    (arrays ++ extra).getD j [] = arrays.getD j [] := by
  simp [List.getD_eq_getElem?_getD, List.getElem?_append_left lt]

theorem getD_concat_length (a : List String) : (arrays ++ [a]).getD arrays.length [] = a := by
  simp [List.getD_eq_getElem?_getD]

end Arrays

theorem WellFormed.grow {arrays : List (List String)} {s : Slice} (wf : s.WellFormed arrays)
    (extra : List (List String)) : s.WellFormed (arrays ++ extra) :=
  ⟨by simpa using Nat.lt_add_right _ wf.1, wf.2.1, by rw [getD_append_of_lt _ _ wf.1]; exact wf.2.2⟩

/-! ### What an append changes -/

section Append
variable {arrays : List (List String)} {s : Slice} (item : String)

theorem read_append (wf : s.WellFormed arrays) :
    (append arrays s item).2.read (append arrays s item).1 = s.read arrays ++ [item] := by
  unfold append
  split
  · obtain ⟨allocated, -, fits⟩ := wf
    simp only [read, getD_set_self _ _ allocated]
    exact take_drop_set _ _ _ _ (by omega)
  · show ((_ ++ [s.read arrays ++ [item]]).getD arrays.length [] |>.drop 0).take (s.len + 1) = _
    rw [getD_concat_length, List.drop_zero]
    exact List.take_of_length_le (by simpa using length_read_le arrays s)

theorem read_append_of_ne {other : Slice} (wf : other.WellFormed arrays) (apart : other.array ≠ s.array) :
    other.read (append arrays s item).1 = other.read arrays := by
  unfold append
  split
  · simp only [read, getD_set_ne _ _ (Ne.symm apart)]
  · simp only [read, getD_append_of_lt _ _ wf.1]

theorem wellFormed_append {other : Slice} (wfs : s.WellFormed arrays) (wf : other.WellFormed arrays) :
    other.WellFormed (append arrays s item).1 := by
  unfold append
  split
  · refine ⟨by simpa using wf.1, wf.2.1, ?_⟩
    by_cases same : other.array = s.array
    · rw [same, getD_set_self _ _ wfs.1, List.length_set, ← same]
      exact wf.2.2
    · rw [getD_set_ne _ _ (Ne.symm same)]
      exact wf.2.2
  · exact wf.grow _

theorem wellFormed_append_self (wf : s.WellFormed arrays) :
    (append arrays s item).2.WellFormed (append arrays s item).1 := by
  unfold append
  split
  · next room =>
    exact ⟨by simpa using wf.1, room, by rw [getD_set_self _ _ wf.1, List.length_set]; exact wf.2.2⟩
  · have copied : (s.read arrays).length = s.len := by
      obtain ⟨-, fitsCap, fits⟩ := wf
      simp only [read, List.length_take, List.length_drop]
      omega
    simp [WellFormed, List.getD_eq_getElem?_getD, copied]

theorem array_append :
    (append arrays s item).2.array = s.array ∨ (append arrays s item).2.array = arrays.length := by
  unfold append
  split
  · exact .inl rfl
  · exact .inr rfl

end Append

/-! ### The completion of a key-ID argument -/

section AppendIfMissing
variable {arrays : List (List String)} {s : Slice} (item : String)

theorem mem_read_appendIfMissing (wf : s.WellFormed arrays) :
    item ∈ (appendIfMissing arrays s item).2.read (appendIfMissing arrays s item).1 := by
  unfold appendIfMissing
  split
  · rw [read_append _ wf]
    exact List.mem_append_right _ (List.mem_singleton_self _)
  · next present => simpa using present

theorem read_appendIfMissing_of_ne {other : Slice} (wf : other.WellFormed arrays)
    (apart : other.array ≠ s.array) :
    other.read (appendIfMissing arrays s item).1 = other.read arrays := by
  unfold appendIfMissing
  split
  · exact read_append_of_ne _ wf apart
  · rfl

theorem wellFormed_appendIfMissing {other : Slice} (wfs : s.WellFormed arrays)
    (wf : other.WellFormed arrays) : other.WellFormed (appendIfMissing arrays s item).1 := by
  unfold appendIfMissing
  split
  · exact wellFormed_append _ wfs wf
  · exact wf

theorem wellFormed_appendIfMissing_self (wf : s.WellFormed arrays) :
    (appendIfMissing arrays s item).2.WellFormed (appendIfMissing arrays s item).1 := by
  unfold appendIfMissing
  split
  · exact wellFormed_append_self _ wf
  · exact wf

theorem array_appendIfMissing :
    (appendIfMissing arrays s item).2.array = s.array ∨
      (appendIfMissing arrays s item).2.array = arrays.length := by
  unfold appendIfMissing
  split
  · exact array_append _
  · exact .inl rfl

end AppendIfMissing

end Slice

end GoOidc
