import Lanewise.Access
import Lanewise.Proofs.Memory

namespace Lanewise
set_option autoImplicit true

theorem hasArraySuffix_iff {name : String} :
    hasArraySuffix name ↔ ∃ stem, name = String.ofList (stem ++ arraySuffix) := by
  rw [hasArraySuffix, List.isSuffixOf_iff_suffix]
  constructor
  · intro ⟨stem, h⟩
    exact ⟨stem, by rw [h, String.ofList_toList]⟩
  · intro ⟨stem, h⟩
    exact ⟨stem, by rw [h, String.toList_ofList]⟩

theorem storageName_ofList (stem : List Char) :
    storageName (String.ofList (stem ++ arraySuffix)) = String.ofList stem := by
  have hs : hasArraySuffix (String.ofList (stem ++ arraySuffix)) := hasArraySuffix_iff.2 ⟨stem, rfl⟩
  rw [storageName, if_pos hs, String.toList_ofList, String.length_ofList, List.length_append,
    Nat.add_sub_cancel, List.take_left]

theorem hasArraySuffix_arrayName (name : String) : hasArraySuffix (arrayName name) := by
  rw [arrayName]
  split
  · assumption
  · exact hasArraySuffix_iff.2 ⟨name.toList, rfl⟩

@[simp] theorem storageName_arrayName (name : String) :
    storageName (arrayName name) = storageName name := by
  by_cases h : hasArraySuffix name
  · rw [arrayName, if_pos h]
  · rw [arrayName, if_neg h, storageName_ofList, String.ofList_toList, storageName, if_neg h]

/-- Arrays with the same storage have the same name. -/
theorem arrays_eq_of_storageName_eq (ha : hasArraySuffix a) (hb : hasArraySuffix b)
    (h : storageName a = storageName b) : a = b := by
  obtain ⟨s, rfl⟩ := hasArraySuffix_iff.1 ha
  obtain ⟨t, rfl⟩ := hasArraySuffix_iff.1 hb
  rw [storageName_ofList, storageName_ofList] at h
  rw [String.ofList_injective h]

namespace Region

@[simp] theorem ofName?_arrayName (name : String) : ofName? (arrayName name) = ofName? name := by
  rw [ofName?, ofName?, storageName_arrayName]

theorem name_eq_of_ofName? {s : String} (h : ofName? s = some r) : r.name = storageName s := by
  have hr := List.find?_some (show all.find? (·.name == storageName s) = some r from h)
  exact eq_of_beq hr

theorem ofName?_name (r : Region) : ofName? r.name = some r := by
  cases r <;> decide +kernel

theorem ofName?_array (r : Region) : ofName? r.array = some r := by
  rw [array, ofName?_arrayName, ofName?_name]

end Region

/-- Whether an element is one of an array, and the array has its index. -/
structure Element.Proper (sizes : Capacities) (e : Element) : Prop where
  inBounds : e.InBounds sizes
  hasSuffix : hasArraySuffix e.array

theorem Element.ext {e e' : Element} (ha : e.array = e'.array) (hi : e.index = e'.index) : e = e' := by
  cases e
  cases e'
  cases ha
  cases hi
  rfl

/-- Elements of arrays share a cell only if they are the same. -/
theorem Element.Proper.locate_inj {e e' : Element} (hfits : sizes.Fits) (he : e.Proper sizes)
    (he' : e'.Proper sizes) (h : e.locate sizes = .ok i) (h' : e'.locate sizes = .ok i) : e = e' := by
  obtain ⟨r, hr, hi, rfl⟩ := locate_eq_ok_iff.1 h
  obtain ⟨r', hr', hi', hc⟩ := locate_eq_ok_iff.1 h'
  obtain ⟨rfl, hx⟩ := hfits.cell_inj hi' hi hc
  have hn := (Region.name_eq_of_ofName? hr).symm.trans (Region.name_eq_of_ofName? hr')
  have ha := arrays_eq_of_storageName_eq he.hasSuffix he'.hasSuffix hn
  exact Element.ext ha hx.symm

theorem Buffer.element_assign (b : Buffer sizes) {e e' : Element} (hfits : sizes.Fits)
    (he : e.Proper sizes) (he' : e'.Proper sizes) (v : Float32) :
    (b.assign e v).element e' = if e' = e then v else b.element e' := by
  obtain ⟨i, hi⟩ := Element.inBounds_iff.1 he.inBounds
  obtain ⟨j, hj⟩ := Element.inBounds_iff.1 he'.inBounds
  rw [assign_eq_set b hi, element_eq_get _ hj, element_eq_get _ hj]
  split
  · rename_i h
    subst h
    cases hi.symm.trans hj
    exact get_set_self b (Element.locate_lt_total hfits hi) v
  · rename_i h
    apply get_set_of_ne
    intro hij
    subst hij
    exact h (he'.locate_inj hfits he hj hi)

theorem Buffer.element_arrayName (b : Buffer sizes) (name : String) (i : Nat) :
    b.element ⟨arrayName name, i⟩ = b.element ⟨name, i⟩ := by
  rw [element, element, Region.ofName?_arrayName]

theorem Buffer.assign_arrayName (b : Buffer sizes) (name : String) (i : Nat) (v : Float32) :
    b.assign ⟨arrayName name, i⟩ v = b.assign ⟨name, i⟩ v := by
  rw [assign, assign, Region.ofName?_arrayName]

/-- The channel at a position of a swizzle: that of the letter there, or of the last letter. -/
def swizzleChannel (swizzle : Option String) (position : Nat) : Nat :=
  let letters := (swizzleLetters swizzle).toList
  (letters[min position (letters.length - 1)]?.bind channel?).getD 0

theorem swizzleChannel_le (swizzle : Option String) (position : Nat) :
    swizzleChannel swizzle position ≤ 3 := by
  rw [swizzleChannel]
  cases hc : (swizzleLetters swizzle).toList[min position
      ((swizzleLetters swizzle).toList.length - 1)]?.bind channel? with
  | none => exact Nat.zero_le 3
  | some n =>
    obtain ⟨c, _, hn⟩ := Option.bind_eq_some_iff.1 hc
    rw [channel?.eq_def] at hn
    split at hn <;> cases hn <;> decide

theorem getElem?_of_mapM {f : α → Option β} {l : List α} (h : l.mapM f = some l') (k : Nat) :
    l'[k]? = l[k]?.bind f := by
  induction l generalizing l' k with
  | nil =>
    cases h
    rfl
  | cons a l ih =>
    rw [List.mapM_cons] at h
    obtain ⟨y, hy, h⟩ := Option.bind_eq_some_iff.1 h
    obtain ⟨ys, hys, h⟩ := Option.bind_eq_some_iff.1 h
    cases h
    cases k with
    | zero => exact hy.symm
    | succ k => exact ih hys k

theorem length_of_mapM {f : α → Option β} {l : List α} (h : l.mapM f = some l') :
    l'.length = l.length := by
  induction l generalizing l' with
  | nil =>
    cases h
    rfl
  | cons a l ih =>
    rw [List.mapM_cons] at h
    obtain ⟨y, hy, h⟩ := Option.bind_eq_some_iff.1 h
    obtain ⟨ys, hys, h⟩ := Option.bind_eq_some_iff.1 h
    cases h
    rw [List.length_cons, List.length_cons, ih hys]

namespace Access

theorem channelAt_eq (channels : List Nat) (position : Nat) :
    channelAt channels position = channels[min position (channels.length - 1)]?.getD 0 := by
  rw [channelAt]
  split
  · rename_i channel hc
    have hl := (List.getElem?_eq_some_iff.1 hc).1
    rw [Nat.min_eq_left (by omega), hc]
    rfl
  · rename_i hc
    have hl := List.getElem?_eq_none_iff.1 hc
    rw [List.getLast?_eq_getElem?, Nat.min_eq_right (by omega)]

/-- Repeating the last channel changes no position. -/
theorem channelAt_fill (role : Role) (channels : List Nat) (position : Nat) :
    channelAt (role.fill channels) position = channelAt channels position := by
  cases role with
  | destination => rfl
  | source =>
    rw [Role.fill]
    rcases Nat.lt_or_ge position channels.length with hp | hp
    · rw [channelAt, channelAt, List.getElem?_append_left hp, List.getElem?_eq_getElem hp]
    · have hlast : channelAt channels position = channels.getLast?.getD 0 := by
        rw [channelAt, List.getElem?_eq_none hp]
      rw [hlast, channelAt, List.getElem?_append_right hp, List.getElem?_replicate]
      split
      · rename_i channel hc
        split at hc <;> cases hc
        rfl
      · rw [List.getLast?_append, List.getLast?_replicate]
        split <;> rfl

end Access

/-- The channels of an accepted swizzle, for either role. -/
theorem exists_of_swizzleChannels (h : swizzleChannels swizzle role = .ok channels) :
    ∃ selected, channels = role.fill selected ∧
      selected.length = (swizzleLetters swizzle).toList.length ∧
      ∀ position, Access.channelAt selected position = swizzleChannel swizzle position := by
  simp only [swizzleChannels] at h
  split at h
  · rename_i selected hs
    split at h
    · cases h
      refine ⟨selected, rfl, length_of_mapM hs, fun position => ?_⟩
      rw [Access.channelAt_eq, swizzleChannel, getElem?_of_mapM hs, length_of_mapM hs]
    · cases h
  · cases h

theorem registerStart_eq_ok (h : registerStart name address = .ok start) :
    start = 4 * address ∧ 4 * address + 3 < indexLimit := by
  rw [registerStart] at h
  split at h
  · rename_i hl
    cases h
    exact ⟨rfl, hl⟩
  · cases h

/-- The elements of a register stand in its array, and their indices need no limit. -/
theorem elementAt_of_resolve {name : String} {address : Nat} {swizzle : Option String}
    (h : (Operand.register name address swizzle).resolve role = .ok (.elements array start channels))
    (position : Nat) : Access.elementAt array start channels position =
      ⟨arrayName name, 4 * address + swizzleChannel swizzle position⟩ := by
  obtain ⟨start, hs, h⟩ := bind_eq_ok_iff.1 h
  obtain ⟨channels, hc, h⟩ := bind_eq_ok_iff.1 h
  cases h
  obtain ⟨selected, rfl, _, hp⟩ := exists_of_swizzleChannels hc
  obtain ⟨rfl, hl⟩ := registerStart_eq_ok hs
  have hle := swizzleChannel_le swizzle position
  rw [Access.elementAt, Access.channelAt_fill, hp position, Nat.min_eq_left (by omega)]

/-- The value of an operand at a position. -/
def Operand.valueAt (b : Buffer sizes) (position : Nat) : Operand → Float32
  | .literal text => literalValue text
  | .register name address swizzle =>
    b.element ⟨name, 4 * address + swizzleChannel swizzle position⟩

theorem Operand.value_atomAt {o : Operand} (h : o.resolve role = .ok access) (b : Buffer sizes)
    (position : Nat) : (access.atomAt position).value b = o.valueAt b position := by
  cases o with
  | literal text =>
    cases h
    rfl
  | register name address swizzle =>
    cases access with
    | literal text =>
      obtain ⟨_, _, h⟩ := bind_eq_ok_iff.1 h
      obtain ⟨_, _, h⟩ := bind_eq_ok_iff.1 h
      cases h
    | elements array start channels =>
      rw [Access.atomAt, elementAt_of_resolve h, valueAt, Atom.value, Buffer.element_arrayName]

end Lanewise
