import Lanewise.Proofs.Resolution
import Mathlib.Algebra.Group.Nat.Defs

namespace Lanewise
set_option autoImplicit true

/-- The letters of the channels of a register, in order. -/
def channelLetters : List Char := ['x', 'y', 'z', 'w']

/-- Whether a swizzle has letters, but too many of them or one of no channel. -/
def Malformed (letters : String) : Prop :=
  letters ≠ "" ∧ (4 < letters.length ∨ ∃ c ∈ letters.toList, c ∉ channelLetters)

instance (letters : String) : Decidable (Malformed letters) :=
  -- Not an instance for all characters: only those of the letters are looked at.
  @instDecidableAnd _ _ _ (@instDecidableOr _ _ _ (List.decidableBEx _ _))

/-- The channels that a swizzle selects, letter by letter. -/
def selectedChannels (swizzle : Option String) : List Nat :=
  (swizzleLetters swizzle).toList.map channelLetters.idxOf

theorem channel?_eq (c : Char) :
    channel? c = if c ∈ channelLetters then some (channelLetters.idxOf c) else none := by
  rw [channel?.eq_def]
  split
  case h_5 hx hy hz hw =>
    have hc : c ∉ channelLetters := by
      simp only [channelLetters, List.mem_cons, List.not_mem_nil, or_false, not_or]
      exact ⟨hx, hy, hz, hw⟩
    rw [if_neg hc]
  all_goals rfl

theorem mapM_channel?_eq_some_iff {cs : List Char} : cs.mapM channel? = some channels ↔
    (∀ c ∈ cs, c ∈ channelLetters) ∧ channels = cs.map channelLetters.idxOf := by
  induction cs generalizing channels with
  | nil => simp [eq_comm]
  | cons c cs ih =>
    rw [List.mapM_cons, channel?_eq, List.forall_mem_cons, List.map_cons]
    constructor
    · intro h
      obtain ⟨n, hn, h⟩ := Option.bind_eq_some_iff.1 h
      obtain ⟨rest, hr, h⟩ := Option.bind_eq_some_iff.1 h
      obtain ⟨hc, hn⟩ := Option.ite_none_right_eq_some.1 hn
      obtain ⟨hcs, rfl⟩ := ih.1 hr
      cases hn
      cases h
      exact ⟨⟨hc, hcs⟩, rfl⟩
    · rintro ⟨⟨hc, hcs⟩, rfl⟩
      rw [if_pos hc, ih.2 ⟨hcs, rfl⟩]
      rfl

theorem swizzleLetters_ne_empty (swizzle : Option String) : swizzleLetters swizzle ≠ "" := by
  cases swizzle with
  | none => decide
  | some letters =>
    rw [swizzleLetters]
    split
    · decide
    · assumption

theorem malformed_swizzleLetters_iff : Malformed (swizzleLetters swizzle) ↔
    ∃ letters, swizzle = some letters ∧ Malformed letters := by
  have hall : ¬ Malformed "xyzw" := by decide +kernel
  cases swizzle with
  | none => simp [swizzleLetters, hall]
  | some letters =>
    rw [swizzleLetters]
    split
    · rename_i hl
      have hempty : ¬ Malformed letters := fun h => h.1 hl
      simp [hall, hempty]
    · simp

theorem swizzleChannels_eq (swizzle : Option String) (role : Role) :
    swizzleChannels swizzle role =
      if Malformed (swizzleLetters swizzle) then
        .error (.malformedSwizzle (swizzleLetters swizzle))
      else .ok (role.fill (selectedChannels swizzle)) := by
  have hne := swizzleLetters_ne_empty swizzle
  simp only [swizzleChannels]
  split
  · rename_i channels hc
    obtain ⟨hletters, rfl⟩ := mapM_channel?_eq_some_iff.1 hc
    have hmalformed : Malformed (swizzleLetters swizzle) ↔
        4 < (swizzleLetters swizzle).length := by
      simpa [Malformed, hne] using fun c hm hn => absurd (hletters c hm) hn
    simp only [hmalformed, List.length_map, String.length_toList, registerWidth, selectedChannels]
    split
    · rw [if_neg (by omega)]
    · rw [if_pos (by omega)]
  · rename_i hc
    rw [if_pos]
    refine ⟨hne, .inr ?_⟩
    by_contra hnone
    have hall : ∀ c ∈ (swizzleLetters swizzle).toList, c ∈ channelLetters := by
      intro c hm
      by_contra hn
      exact hnone ⟨c, hm, hn⟩
    cases hc.symm.trans (mapM_channel?_eq_some_iff.2 ⟨hall, rfl⟩)

theorem registerStart_eq (name : String) (address : Nat) :
    registerStart name address =
      if 2 ^ 62 ≤ address then .error (.addressOverflow name address) else .ok (4 * address) := by
  have hlimit : registerWidth * address + (registerWidth - 1) < indexLimit ↔
      ¬ 2 ^ 62 ≤ address := by
    simp only [registerWidth, indexLimit, Nat.pow_eq]
    omega
  simp only [registerStart, hlimit, ite_not]
  rfl

theorem resolve_register (name : String) (address : Nat) (swizzle : Option String) (role : Role) :
    (Operand.register name address swizzle).resolve role =
      if 2 ^ 62 ≤ address then .error (.addressOverflow name address)
      else if Malformed (swizzleLetters swizzle) then
        .error (.malformedSwizzle (swizzleLetters swizzle))
      else .ok (.elements (arrayName name) (4 * address) (role.fill (selectedChannels swizzle))) := by
  rw [Operand.resolve, registerStart_eq, swizzleChannels_eq]
  split
  · rfl
  · split <;> rfl

/-- Why an operand is refused. A fault of its address hides one of its swizzle. -/
inductive Operand.Refused : Operand → ObjectError → Prop
  | address : 2 ^ 62 ≤ address →
      Refused (.register name address swizzle) (.addressOverflow name address)
  | swizzle : address < 2 ^ 62 → Malformed letters →
      Refused (.register name address (some letters)) (.malformedSwizzle letters)

/-- Either role refuses the same operands. -/
theorem resolve_eq_error_iff {o : Operand} : o.resolve role = .error e ↔ o.Refused e := by
  cases o with
  | literal text => exact ⟨fun h => (nomatch h), fun h => (nomatch h)⟩
  | register name address swizzle =>
    rw [resolve_register]
    constructor
    · intro h
      split at h
      · rename_i ha
        cases h
        exact .address ha
      · rename_i ha
        split at h
        · rename_i hm
          cases h
          obtain ⟨letters, rfl, hl⟩ := malformed_swizzleLetters_iff.1 hm
          rw [swizzleLetters, if_neg hl.1]
          exact .swizzle (Nat.lt_of_not_le ha) hl
        · cases h
    · intro h
      cases h with
      | address ha => rw [if_pos ha]
      | swizzle ha hl =>
        rw [if_neg (Nat.not_le.2 ha), swizzleLetters, if_neg hl.1, if_pos hl]

theorem exists_resolve_iff {o : Operand} :
    (∃ access, o.resolve role = .ok access) ↔ ∀ e, ¬ o.Refused e := by
  rw [exists_eq_ok_iff]
  simp only [ne_eq, resolve_eq_error_iff]

theorem refused_addressOverflow_iff :
    (Operand.register name address swizzle).Refused (.addressOverflow name address) ↔
      2 ^ 62 ≤ address := by
  constructor
  · intro h
    cases h with
    | address ha => exact ha
  · exact .address

theorem refused_malformedSwizzle_iff :
    (Operand.register name address swizzle).Refused (.malformedSwizzle letters) ↔
      address < 2 ^ 62 ∧ swizzle = some letters ∧ Malformed letters := by
  constructor
  · intro h
    cases h with
    | swizzle ha hl => exact ⟨ha, rfl, hl⟩
  · rintro ⟨ha, rfl, hl⟩
    exact .swizzle ha hl

theorem resolve_register_eq_ok_iff :
    (Operand.register name address swizzle).resolve role = .ok access ↔
      address < 2 ^ 62 ∧ ¬ Malformed (swizzleLetters swizzle) ∧
        access = .elements (arrayName name) (4 * address) (role.fill (selectedChannels swizzle)) := by
  rw [resolve_register]
  split
  · rename_i ha
    exact ⟨fun h => (nomatch h), fun h => absurd ha (Nat.not_le.2 h.1)⟩
  · rename_i ha
    split
    · rename_i hm
      exact ⟨fun h => (nomatch h), fun h => absurd hm h.2.1⟩
    · rename_i hm
      rw [Except.ok.injEq]
      exact ⟨fun h => ⟨Nat.lt_of_not_le ha, hm, h.symm⟩, fun h => h.2.2.symm⟩

section Selected

variable {swizzle : Option String} (h : ¬ Malformed (swizzleLetters swizzle))
include h

theorem letters_of_not_malformed : (swizzleLetters swizzle).length ≤ 4 ∧
    ∀ c ∈ (swizzleLetters swizzle).toList, c ∈ channelLetters := by
  have hne := swizzleLetters_ne_empty swizzle
  constructor
  · by_contra hl
    exact h ⟨hne, .inl (Nat.lt_of_not_le hl)⟩
  · intro c hm
    by_contra hc
    exact h ⟨hne, .inr ⟨c, hm, hc⟩⟩

theorem length_selectedChannels :
    1 ≤ (selectedChannels swizzle).length ∧ (selectedChannels swizzle).length ≤ 4 := by
  have hpos : 0 < (swizzleLetters swizzle).length := by
    rw [Nat.pos_iff_ne_zero, Ne, String.length_eq_zero_iff]
    exact swizzleLetters_ne_empty swizzle
  rw [selectedChannels, List.length_map, String.length_toList]
  exact ⟨hpos, (letters_of_not_malformed h).1⟩

theorem exists_selected (position : Nat) : ∃ channel ≤ 3,
    (selectedChannels swizzle)[min position ((selectedChannels swizzle).length - 1)]? =
      some channel := by
  have hpos := (length_selectedChannels h).1
  have hlt : min position ((selectedChannels swizzle).length - 1) <
      (selectedChannels swizzle).length := by omega
  refine ⟨_, ?_, List.getElem?_eq_getElem hlt⟩
  obtain ⟨c, hm, hc⟩ := List.mem_map.1 (List.getElem_mem hlt)
  rw [← hc]
  exact Nat.le_of_lt_succ
    (List.idxOf_lt_length_of_mem ((letters_of_not_malformed h).2 c hm))

theorem fill_source_selectedChannels : ∃ last, (selectedChannels swizzle).getLast? = some last ∧
    Role.source.fill (selectedChannels swizzle) =
      selectedChannels swizzle ++ List.replicate (4 - (selectedChannels swizzle).length) last := by
  have hne : selectedChannels swizzle ≠ [] :=
    List.ne_nil_of_length_pos (length_selectedChannels h).1
  have hlast := List.getLast?_eq_some_getLast hne
  refine ⟨(selectedChannels swizzle).getLast hne, hlast, ?_⟩
  rw [Role.fill, hlast]
  rfl

end Selected

theorem exists_resolve_register_iff :
    (∃ access, (Operand.register name address swizzle).resolve role = .ok access) ↔
      address < 2 ^ 62 ∧ ∀ letters, swizzle = some letters → ¬ Malformed letters := by
  have hwell : (∀ letters, swizzle = some letters → ¬ Malformed letters) ↔
      ¬ Malformed (swizzleLetters swizzle) := by
    simp [malformed_swizzleLetters_iff]
  simp only [resolve_register_eq_ok_iff, hwell, exists_and_left, exists_eq, and_true]

theorem atomAt_of_resolve {name : String} {address : Nat} {swizzle : Option String}
    (h : (Operand.register name address swizzle).resolve role = .ok access) (position : Nat) :
    ∃ channel ≤ 3,
      (selectedChannels swizzle)[min position ((selectedChannels swizzle).length - 1)]? =
        some channel ∧
      access.atomAt position = .element ⟨arrayName name, 4 * address + channel⟩ ∧
      4 * address + channel < 2 ^ 64 := by
  obtain ⟨ha, hm, rfl⟩ := resolve_register_eq_ok_iff.1 h
  obtain ⟨channel, hle, hc⟩ := exists_selected hm position
  have hlimit : indexLimit = 2 ^ 64 := rfl
  refine ⟨channel, hle, hc, ?_, by omega⟩
  rw [Access.atomAt, Access.elementAt, Access.channelAt_fill, Access.channelAt_eq, hc,
    Option.getD_some, Nat.min_eq_left (by omega)]

/-- A register is refused if its address is too large, or else if its swizzle is malformed. Any
other one has the selected channels, the last of them repeated in a source, and at every position
the element of the channel selected there. -/
theorem Operand.resolve_register_iff (name : String) (address : Nat) (swizzle : Option String)
    (role : Role) :
    let operand := Operand.register name address swizzle
    let channels := selectedChannels swizzle
    (operand.resolve role = .error (.addressOverflow name address) ↔ 2 ^ 62 ≤ address) ∧
    (∀ letters, operand.resolve role = .error (.malformedSwizzle letters) ↔
      address < 2 ^ 62 ∧ swizzle = some letters ∧ Malformed letters) ∧
    ((∃ access, operand.resolve role = .ok access) ↔
      address < 2 ^ 62 ∧ ∀ letters, swizzle = some letters → ¬ Malformed letters) ∧
    ∀ access, operand.resolve role = .ok access →
      (1 ≤ channels.length ∧ channels.length ≤ 4) ∧
      (role = .destination → access = .elements (arrayName name) (4 * address) channels) ∧
      (role = .source → ∃ last, channels.getLast? = some last ∧
        access = .elements (arrayName name) (4 * address)
          (channels ++ List.replicate (4 - channels.length) last)) ∧
      ∀ position, ∃ channel ≤ 3, channels[min position (channels.length - 1)]? = some channel ∧
        access.atomAt position = .element ⟨arrayName name, 4 * address + channel⟩ ∧
        4 * address + channel < 2 ^ 64 := by
  intro operand channels
  refine ⟨resolve_eq_error_iff.trans refused_addressOverflow_iff,
    fun letters => resolve_eq_error_iff.trans refused_malformedSwizzle_iff,
    exists_resolve_register_iff, ?_⟩
  intro access h
  obtain ⟨_, hm, he⟩ := resolve_register_eq_ok_iff.1 h
  refine ⟨length_selectedChannels hm, ?_, ?_, atomAt_of_resolve h⟩
  · intro hrole
    rw [he, hrole]
    rfl
  · intro hrole
    obtain ⟨last, hlast, hfill⟩ := fill_source_selectedChannels hm
    refine ⟨last, hlast, ?_⟩
    rw [he, hrole, hfill]

/-- The last register that has an address, read with its last letter repeated. -/
theorem Operand.resolve_register_iff_last :
    let operand := Operand.register "temp" (2 ^ 62 - 1) (some "wz")
    let access := Access.elements "temp_f32" (2 ^ 64 - 4) [3, 2, 2, 2]
    operand.resolve .source = .ok access ∧
    (∀ position, ∃ channel ≤ 3, [3, 2][min position 1]? = some channel ∧
      access.atomAt position = .element ⟨"temp_f32", 4 * (2 ^ 62 - 1) + channel⟩ ∧
      4 * (2 ^ 62 - 1) + channel < 2 ^ 64) := by
  intro operand access
  have h : operand.resolve .source = .ok access := by decide +kernel
  obtain ⟨_, _, _, hok⟩ := Operand.resolve_register_iff "temp" (2 ^ 62 - 1) (some "wz") .source
  exact ⟨h, (hok access h).2.2.2⟩

end Lanewise
