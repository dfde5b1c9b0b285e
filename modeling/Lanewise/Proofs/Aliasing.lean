import Lanewise.Proofs.Saving

namespace Lanewise
set_option autoImplicit true

theorem arrayName_eq_iff (h : Region.ofName? name = some r) :
    arrayName name = arrayName name' ↔ Region.ofName? name = Region.ofName? name' := by
  constructor
  · intro ha
    rw [← Region.ofName?_arrayName name, ha, Region.ofName?_arrayName]
  · intro hr
    apply arrays_eq_of_storageName_eq (hasArraySuffix_arrayName name)
      (hasArraySuffix_arrayName name')
    rw [storageName_arrayName, storageName_arrayName, ← Region.name_eq_of_ofName? h]
    exact Region.name_eq_of_ofName? (hr.symm.trans h)

namespace Element

theorem exists_region_of_locate {name : String}
    (h : (Element.mk (arrayName name) i).locate sizes = .ok k) :
    ∃ r, Region.ofName? name = some r := by
  obtain ⟨r, hr, _⟩ := locate_eq_ok_iff.1 h
  exact ⟨r, (Region.ofName?_arrayName name).symm.trans hr⟩

theorem eq_of_locate_eq {e e' : Element} (hfits : sizes.Fits) (hs : hasArraySuffix e.array)
    (hs' : hasArraySuffix e'.array) (h : e.locate sizes = .ok k) (h' : e'.locate sizes = .ok k) :
    e = e' := by
  have hp : e.Proper sizes := ⟨inBounds_iff.2 ⟨k, h⟩, hs⟩
  have hp' : e'.Proper sizes := ⟨inBounds_iff.2 ⟨k, h'⟩, hs'⟩
  exact hp.locate_inj hfits hp' h h'

theorem locate_arrayName_eq_iff {name name' : String} (hfits : sizes.Fits)
    (h : (Element.mk (arrayName name) i).locate sizes = .ok k)
    (h' : (Element.mk (arrayName name') i').locate sizes = .ok k') :
    k = k' ↔ Element.mk (arrayName name) i = ⟨arrayName name', i'⟩ := by
  constructor
  · rintro rfl
    exact eq_of_locate_eq hfits (hasArraySuffix_arrayName name) (hasArraySuffix_arrayName name') h h'
  · intro he
    rw [he, h'] at h
    cases h
    rfl

end Element

theorem Instruction.inArrays_writes (i : Instruction) : ∀ w ∈ i.writes, w.InArrays := by
  intro w hw
  rw [writes] at hw
  split at hw
  · rename_i r hr
    split at hw
    · rename_i body array start channels _ hd
      obtain ⟨_, hdest, _⟩ := resolve_eq_ok hr
      rw [hd] at hdest
      obtain ⟨name, address, swizzle, _, ha⟩ := register_of_resolve? hdest
      exact inArrays_laneWrites hr ha body w hw
    · cases hw
  · cases hw

theorem Instruction.exists_hazard_iff {i : Instruction} (hfits : sizes.Fits) :
    (∃ e ∈ hazards i.writes, e.locate sizes = .ok k) ↔
      ∃ (p q : Nat) (w v : Write), p < q ∧ i.writes[p]? = some w ∧ i.writes[q]? = some v ∧
        w.target.locate sizes = .ok k ∧ ∃ x ∈ v.value.elements, x.locate sizes = .ok k := by
  constructor
  · rintro ⟨e, he, hk⟩
    obtain ⟨p, q, w, v, hlt, hw, hv, rfl, hread⟩ := mem_hazards_iff.1 he
    exact ⟨p, q, w, v, hlt, hw, hv, hk, w.target, hread, hk⟩
  · rintro ⟨p, q, w, v, hlt, hw, hv, hk, x, hx, hxk⟩
    have htarget := (i.inArrays_writes w (List.mem_of_getElem? hw)).1
    have hread := (i.inArrays_writes v (List.mem_of_getElem? hv)).2 x hx
    obtain rfl := Element.eq_of_locate_eq hfits hread htarget hxk hk
    exact ⟨_, mem_hazards_iff.2 ⟨p, q, w, v, hlt, hw, hv, rfl, hx⟩, hk⟩

/-- The array of a name is in the section of the name. In a layout that fits, elements of arrays are in
the same cell exactly if they are equal, and so if their names mean the same section and their indices
are equal.
What an instruction saves is therefore what it writes to a cell that it reads later. -/
theorem Element.cells_eq_iff_eq (sizes : Capacities) :
    (∀ name, Region.ofName? (arrayName name) = Region.ofName? name) ∧
    (sizes.Fits →
      (∀ name₁ name₂ i₁ i₂ k₁ k₂, (Element.mk (arrayName name₁) i₁).locate sizes = .ok k₁ →
        (Element.mk (arrayName name₂) i₂).locate sizes = .ok k₂ →
        (k₁ < sizes.total ∧ k₂ < sizes.total) ∧
        (k₁ = k₂ ↔ Element.mk (arrayName name₁) i₁ = ⟨arrayName name₂, i₂⟩) ∧
        (k₁ = k₂ ↔ Region.ofName? name₁ = Region.ofName? name₂ ∧ i₁ = i₂)) ∧
      ∀ (i : Instruction) (k : Nat), (∃ e ∈ hazards i.writes, e.locate sizes = .ok k) ↔
        ∃ (p q : Nat) (w v : Write), p < q ∧ i.writes[p]? = some w ∧ i.writes[q]? = some v ∧
          w.target.locate sizes = .ok k ∧ ∃ x ∈ v.value.elements, x.locate sizes = .ok k) := by
  refine ⟨Region.ofName?_arrayName, fun hfits => ⟨?_, fun i k => Instruction.exists_hazard_iff hfits⟩⟩
  intro name₁ name₂ i₁ i₂ k₁ k₂ h₁ h₂
  have hcells := locate_arrayName_eq_iff hfits h₁ h₂
  refine ⟨⟨locate_lt_total hfits h₁, locate_lt_total hfits h₂⟩, hcells, ?_⟩
  obtain ⟨r, hr⟩ := exists_region_of_locate h₁
  rw [hcells, Element.mk.injEq, arrayName_eq_iff hr]

theorem Element.cells_eq_iff_eq_spelled :
    let sizes : Capacities := ⟨0, 0, 0, 4, 4, 0⟩
    let cell (name : String) (i : Nat) : Except BuildError Nat :=
      (Element.mk (arrayName name) i).locate sizes
    cell "temp" 0 = .ok 4 ∧ cell "temp_f32" 0 = .ok 4 ∧ cell "result" 3 = .ok 3 ∧
    Element.mk (arrayName "temp") 0 = ⟨arrayName "temp_f32", 0⟩ ∧
    Element.mk (arrayName "temp") 0 ≠ ⟨arrayName "result", 3⟩ := by
  intro sizes cell
  have htemp : cell "temp" 0 = .ok 4 := by decide +kernel
  have harray : cell "temp_f32" 0 = .ok 4 := by decide +kernel
  have hresult : cell "result" 3 = .ok 3 := by decide +kernel
  obtain ⟨hcells, _⟩ := (Element.cells_eq_iff_eq sizes).2 (by decide)
  refine ⟨htemp, harray, hresult, ?_, ?_⟩
  · exact (hcells _ _ _ _ _ _ htemp harray).2.1.1 rfl
  · intro he
    have hsame := (hcells _ _ _ _ _ _ htemp hresult).2.1.2 he
    cases hsame

end Lanewise
