import Lanewise.Code.Lowering
import Lanewise.Proofs.Failure

namespace Lanewise
set_option autoImplicit true

namespace Capacities

/-- Whether 64 bits count the elements of all sections. -/
def Fits (sizes : Capacities) : Prop := sizes.sum < indexLimit

instance (sizes : Capacities) : Decidable sizes.Fits := inferInstanceAs (Decidable (_ < _))

theorem before_disjoint (sizes : Capacities) (h : r ≠ r') :
    sizes.before r + sizes.of r ≤ sizes.before r' ∨ sizes.before r' + sizes.of r' ≤ sizes.before r := by
  cases r <;> cases r' <;> simp [before, Region.all, of] at h ⊢ <;> omega

theorem before_add_le_sum (sizes : Capacities) (r : Region) :
    sizes.before r + sizes.of r ≤ sizes.sum := by
  cases r <;> simp [before, sum, Region.all, of] <;> omega

theorem exists_region_of_lt_sum {sizes : Capacities} (h : k < sizes.sum) :
    ∃ r, ∃ i < sizes.of r, sizes.before r + i = k := by
  by_contra hnone
  have hout (r : Region) : sizes.before r ≤ k → sizes.before r + sizes.of r ≤ k := by
    intro hle
    by_contra hlt
    exact hnone ⟨r, k - sizes.before r, by omega, by omega⟩
  -- each section ends where the next one starts, so the index lies behind all of them
  have hu := hout .uniform
  have ha := hout .attribute
  have hv := hout .varying
  have hr := hout .result
  have ht := hout .temp
  have hs := hout .scratch
  simp [before, sum, Region.all, of] at h hu ha hv hr ht hs
  omega

theorem total_lt (sizes : Capacities) : sizes.total < indexLimit :=
  Nat.mod_lt _ (by decide)

theorem cell_eq_mod (sizes : Capacities) (r : Region) (i : Nat) :
    sizes.cell r i = (sizes.before r + i) % indexLimit :=
  Nat.mod_add_mod ..

namespace Fits

variable {sizes : Capacities} (h : sizes.Fits)
include h

theorem total_eq : sizes.total = sizes.sum := Nat.mod_eq_of_lt h

theorem before_add_lt (hi : i ≤ sizes.of r) : sizes.before r + i < indexLimit := by
  have hr := sizes.before_add_le_sum r
  exact Nat.lt_of_le_of_lt (by omega) h

theorem of_lt (r : Region) : sizes.of r < indexLimit :=
  Nat.lt_of_le_of_lt (Nat.le_add_left _ _) (h.before_add_lt (Nat.le_refl _))

theorem cell_eq (hi : i ≤ sizes.of r) : sizes.cell r i = sizes.before r + i := by
  rw [cell_eq_mod, Nat.mod_eq_of_lt (h.before_add_lt hi)]

theorem offset_eq (r : Region) : sizes.offset r = sizes.before r :=
  Nat.mod_eq_of_lt (h.before_add_lt (Nat.zero_le _))

theorem offset_add_le_total (r : Region) : sizes.offset r + sizes.of r ≤ sizes.total := by
  rw [h.offset_eq, h.total_eq]
  exact sizes.before_add_le_sum r

theorem holds (r : Region) : sizes.holds r := by
  have hr := h.offset_add_le_total r
  rw [h.offset_eq] at hr
  rw [Capacities.holds, h.cell_eq (Nat.le_refl _), h.offset_eq]
  simpa using hr

theorem cell_lt_total (hi : i < sizes.of r) : sizes.cell r i < sizes.total := by
  have hr := sizes.before_add_le_sum r
  rw [h.cell_eq (Nat.le_of_lt hi), h.total_eq]
  omega

/-- Elements share a cell only if they are the same element of the same section. -/
theorem cell_inj (hi : i < sizes.of r) (hj : j < sizes.of r') (hc : sizes.cell r i = sizes.cell r' j) :
    r = r' ∧ i = j := by
  rw [h.cell_eq (Nat.le_of_lt hi), h.cell_eq (Nat.le_of_lt hj)] at hc
  by_cases hr : r = r'
  · subst hr
    exact ⟨rfl, Nat.add_left_cancel hc⟩
  · have hd := sizes.before_disjoint hr
    omega

end Fits

theorem exists_cell_of_not_fits {sizes : Capacities} (h : ¬ sizes.Fits) :
    ∃ r, ∃ i < sizes.of r, sizes.before r + i = indexLimit - 1 := by
  apply exists_region_of_lt_sum
  have hpos : 0 < indexLimit := by decide
  rw [Fits] at h
  omega

/-- Every element has a cell of the buffer exactly if the layout fits. -/
theorem fits_iff_cell_lt_total {sizes : Capacities} :
    sizes.Fits ↔ ∀ r, ∀ i < sizes.of r, sizes.cell r i < sizes.total := by
  refine ⟨fun h r i => h.cell_lt_total, fun h => ?_⟩
  by_contra hf
  obtain ⟨r, i, hi, hk⟩ := exists_cell_of_not_fits hf
  have hc := h r i hi
  have ht := sizes.total_lt
  rw [cell_eq_mod, hk, Nat.mod_eq_of_lt (by omega)] at hc
  omega

/-- The buffer holds every section exactly if the layout fits. -/
theorem fits_iff_holds {sizes : Capacities} (hsizes : ∀ r, sizes.of r < indexLimit) :
    sizes.Fits ↔ ∀ r, sizes.holds r := by
  refine ⟨fun h => h.holds, fun h => ?_⟩
  by_contra hf
  -- the section with the last index ends before it starts
  obtain ⟨r, i, hi, hk⟩ := exists_cell_of_not_fits hf
  have hr := h r
  have hl := hsizes r
  have hs : sizes.offset r = sizes.before r := Nat.mod_eq_of_lt (by omega)
  have he : sizes.cell r (sizes.of r) = sizes.before r + sizes.of r - indexLimit := by
    rw [cell_eq_mod, Nat.mod_eq_sub_mod (by omega), Nat.mod_eq_of_lt (by omega)]
  rw [holds, hs, he, Bool.and_eq_true, decide_eq_true_eq] at hr
  omega

end Capacities

namespace Buffer

@[simp] theorem get_set_self (b : Buffer sizes) (h : i < sizes.total) (v : Float32) :
    (b.set i v).get i = v := by
  simp [get, set, h]

@[simp] theorem get_set_of_ne (b : Buffer sizes) (h : i ≠ j) (v : Float32) :
    (b.set i v).get j = b.get j := by
  simp [get, set, Vector.getElem?_setIfInBounds_ne h]

theorem getElem?_region (b : Buffer sizes) (r : Region) (i : Nat) :
    (b.region r)[i]? = if i < sizes.of r then some (b.get (sizes.cell r i)) else none := by
  simp only [region, List.getElem?_map]
  split
  · rename_i hi
    rw [List.getElem?_range hi]
    rfl
  · rename_i hi
    rw [List.getElem?_eq_none (by simpa using hi)]
    rfl

/-- The value of an element; zero if there is no such element. -/
def element (b : Buffer sizes) (e : Element) : Float32 :=
  match Region.ofName? e.array with
  | some r => (b.region r)[e.index]?.getD 0.0
  | none => 0.0

/-- Gives an element a value; nothing happens if there is no such element. -/
def assign (b : Buffer sizes) (e : Element) (value : Float32) : Buffer sizes :=
  match Region.ofName? e.array with
  | some r => b.poke r e.index value
  | none => b

end Buffer

/-- The number that a literal stands for; zero if it is no number. -/
def literalValue (text : String) : Float32 :=
  match readFloat (Text.trim text) with
  | .ok value => value
  | .error _ => 0.0

def Atom.value (b : Buffer sizes) : Atom → Float32
  | .element e => b.element e
  | .literal text => literalValue text
  | .const value => value

/-- Whether the storage that an element names exists and has its index. -/
def Element.InBounds (sizes : Capacities) (e : Element) : Prop :=
  ∃ r, Region.ofName? e.array = some r ∧ e.index < sizes.of r

theorem Element.locate_eq_ok_iff {e : Element} : e.locate sizes = .ok i ↔
    ∃ r, Region.ofName? e.array = some r ∧ e.index < sizes.of r ∧ sizes.cell r e.index = i := by
  unfold locate
  split
  · rename_i hr
    simp [hr]
  · rename_i r hr
    simp only [hr, Option.some.injEq, exists_eq_left']
    split
    · rename_i hi
      simp [hi]
    · rename_i hi
      simp [hi]

theorem Element.inBounds_iff {e : Element} : e.InBounds sizes ↔ ∃ i, e.locate sizes = .ok i := by
  simp only [InBounds, locate_eq_ok_iff]
  constructor
  · rintro ⟨r, hr, hi⟩
    exact ⟨_, r, hr, hi, rfl⟩
  · rintro ⟨_, r, hr, hi, _⟩
    exact ⟨r, hr, hi⟩

theorem Element.locate_lt_total {e : Element} (hs : sizes.Fits) (h : e.locate sizes = .ok i) :
    i < sizes.total := by
  obtain ⟨r, _, hi, rfl⟩ := locate_eq_ok_iff.1 h
  exact hs.cell_lt_total hi

theorem Buffer.element_eq_get (b : Buffer sizes) (h : e.locate sizes = .ok i) :
    b.element e = b.get i := by
  obtain ⟨r, hr, hi, rfl⟩ := Element.locate_eq_ok_iff.1 h
  simp [element, hr, getElem?_region, hi]

theorem Buffer.assign_eq_set (b : Buffer sizes) (h : e.locate sizes = .ok i) (v : Float32) :
    b.assign e v = b.set i v := by
  obtain ⟨r, hr, hi, rfl⟩ := Element.locate_eq_ok_iff.1 h
  simp [assign, hr, poke, hi]

theorem Atom.value_lower {a : Atom} (h : a.lower sizes = .ok x) (b : Buffer sizes) :
    a.value b = x.value b := by
  cases a with
  | element e =>
    obtain ⟨i, hi, h⟩ := bind_eq_ok_iff.1 h
    cases h
    exact b.element_eq_get hi
  | literal text =>
    simp only [lower] at h
    split at h
    · rename_i v hv
      cases h
      simp only [value, literalValue, hv, Input.value]
    · cases h
  | const v =>
    cases h
    rfl

end Lanewise
