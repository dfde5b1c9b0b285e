import Lanewise.Proofs.Merging
import Lanewise.Proofs.Numerals
import Mathlib.Algebra.Group.Nat.Defs

namespace Lanewise
set_option autoImplicit true

/-- Whether `t` is what `s` has between the white space at its two ends. -/
def Text.Stripped (s t : List Char) : Prop :=
  ∃ front back, s = front ++ t ++ back ∧ (∀ c ∈ front ++ back, isBlank c) ∧
    ∀ c, t.head? = some c ∨ t.getLast? = some c → ¬ isBlank c

/-- Whether a text has decimal digits, at least one of them, that make a number. -/
def DecimalDigits (text : List Char) (n : Nat) : Prop :=
  text ≠ [] ∧ (∀ c ∈ text, c.isDigit) ∧ Nat.ofDigitChars 10 text 0 = n

/-- Whether a text is a number in digits with at most one plus sign before them. -/
def IndexNumeral (text : List Char) (n : Nat) : Prop :=
  DecimalDigits text n ∨ ∃ digits, text = '+' :: digits ∧ DecimalDigits digits n

/-- Whether a text is the number of an element, with or without white space around it. -/
def IndexText (text : List Char) (n : Nat) : Prop :=
  ∃ t, Text.Stripped text t ∧ IndexNumeral t n ∧ n < 2 ^ 64

/-- Whether a label ends in an `@` and the number of an element. -/
def LabelNumber (label : String) (n : Nat) : Prop :=
  ∃ before behind, label.toList = before ++ '@' :: behind ∧ '@' ∉ behind ∧ IndexText behind n

theorem dropWhile_append_eq {p : α → Bool} {l r : List α} (hl : ∀ a ∈ l, p a)
    (hr : ∀ a, r.head? = some a → ¬ p a) : (l ++ r).dropWhile p = r := by
  rw [List.dropWhile_append_of_pos hl]
  cases r with
  | nil => rfl
  | cons a r => exact List.dropWhile_cons_of_neg (hr a rfl)

theorem not_of_head?_dropWhile {p : α → Bool} {l : List α} (h : (l.dropWhile p).head? = some a) :
    ¬ p a := by
  have hhead := List.head?_dropWhile_not p l
  rw [h] at hhead
  exact Bool.not_eq_true _ ▸ hhead

namespace Text

theorem Stripped.trimBlank_eq (h : Stripped s t) : trimBlank s = t := by
  obtain ⟨front, back, rfl, hblank, hends⟩ := h
  rw [List.forall_mem_append] at hblank
  rw [trimBlank]
  by_cases ht : t = []
  · subst ht
    rw [List.append_nil, List.dropWhile_append_of_pos hblank.1,
      List.dropWhile_eq_nil_iff.2 hblank.2]
    rfl
  · have hhead : ∀ c, (t ++ back).head? = some c → ¬ isBlank c := by
      intro c hc
      rw [List.head?_append_of_ne_nil _ ht] at hc
      exact hends c (.inl hc)
    have hlast : ∀ c, t.reverse.head? = some c → ¬ isBlank c := by
      intro c hc
      rw [List.head?_reverse] at hc
      exact hends c (.inr hc)
    have hback : ∀ c ∈ back.reverse, isBlank c := fun c hc => hblank.2 c (List.mem_reverse.1 hc)
    rw [List.append_assoc, dropWhile_append_eq hblank.1 hhead, List.reverse_append,
      dropWhile_append_eq hback hlast, List.reverse_reverse]

theorem stripped_trimBlank (s : List Char) : Stripped s (trimBlank s) := by
  have hsplit := List.takeWhile_append_dropWhile (p := isBlank) (l := s)
  have hrest := List.takeWhile_append_dropWhile (p := isBlank) (l := (s.dropWhile isBlank).reverse)
  have hcut := congrArg List.reverse hrest
  rw [List.reverse_append, List.reverse_reverse] at hcut
  refine ⟨s.takeWhile isBlank, ((s.dropWhile isBlank).reverse.takeWhile isBlank).reverse, ?_, ?_, ?_⟩
  · rw [List.append_assoc, trimBlank, hcut, hsplit]
  · refine List.forall_mem_append.2 ⟨fun c hc => List.mem_takeWhile_imp hc, fun c hc => ?_⟩
    exact List.mem_takeWhile_imp (List.mem_reverse.1 hc)
  · rintro c (hc | hc)
    · apply not_of_head?_dropWhile
      rw [← hcut, List.head?_append]
      exact Option.or_eq_some_iff.2 (.inl hc)
    · apply not_of_head?_dropWhile
      rwa [trimBlank, List.getLast?_reverse] at hc

end Text

theorem readDigit_eq_ok_iff : readDigit k c = .ok m ↔
    c.isDigit ∧ 10 * k + digitValue c = m ∧ m < indexLimit := by
  unfold readDigit
  split
  · rename_i hc
    refine iff_of_false nofun fun h => ?_
    rw [h.1] at hc
    cases hc
  · rename_i hc
    rw [Bool.not_eq_true, Bool.not_eq_false'] at hc
    split
    · rename_i hlt
      rw [Except.ok.injEq]
      exact ⟨fun h => ⟨hc, h, h ▸ hlt⟩, fun h => h.2.1⟩
    · rename_i hlt
      exact iff_of_false nofun fun h => hlt (h.2.1 ▸ h.2.2)

theorem foldlM_readDigit_eq_ok_iff {digits : List Char} (hk : k < indexLimit) :
    digits.foldlM readDigit k = .ok n ↔
      (∀ c ∈ digits, c.isDigit) ∧ Nat.ofDigitChars 10 digits k = n ∧ n < indexLimit := by
  induction digits generalizing k with
  | nil =>
    constructor
    · intro h
      cases h
      exact ⟨List.forall_mem_nil _, rfl, hk⟩
    · rintro ⟨_, rfl, _⟩
      rfl
  | cons c digits ih =>
    rw [List.foldlM_cons, List.forall_mem_cons, Nat.ofDigitChars_cons, bind_eq_ok_iff]
    constructor
    · rintro ⟨m, hm, h⟩
      obtain ⟨hc, rfl, hlt⟩ := readDigit_eq_ok_iff.1 hm
      obtain ⟨hdigits, hn, hlimit⟩ := (ih hlt).1 h
      exact ⟨⟨hc, hdigits⟩, hn, hlimit⟩
    · rintro ⟨⟨hc, hdigits⟩, hn, hlimit⟩
      -- the number only grows with its digits, so it fits at every digit
      have hle : 10 * k + digitValue c ≤ n := hn ▸ Json.le_foldl_digits digits _
      have hlt : 10 * k + digitValue c < indexLimit := Nat.lt_of_le_of_lt hle hlimit
      exact ⟨_, readDigit_eq_ok_iff.2 ⟨hc, rfl, hlt⟩, (ih hlt).2 ⟨hdigits, hn, hlimit⟩⟩

theorem readDigits_eq_ok_iff {digits : List Char} (h : digits ≠ []) :
    digits.foldlM readDigit 0 = .ok n ↔ DecimalDigits digits n ∧ n < indexLimit := by
  rw [foldlM_readDigit_eq_ok_iff (by decide), DecimalDigits, and_iff_right h, and_assoc]

theorem indexNumeral_plus_iff {digits : List Char} :
    IndexNumeral ('+' :: digits) n ↔ DecimalDigits digits n := by
  constructor
  · rintro (⟨_, hd, _⟩ | ⟨_, h, hd⟩)
    · cases hd '+' List.mem_cons_self
    · cases h
      exact hd
  · intro h
    exact .inr ⟨digits, rfl, h⟩

theorem indexNumeral_iff_of_ne {text : List Char} (h : ∀ digits, text ≠ '+' :: digits) :
    IndexNumeral text n ↔ DecimalDigits text n := by
  refine ⟨?_, .inl⟩
  rintro (hd | ⟨digits, rfl, _⟩)
  · exact hd
  · exact absurd rfl (h digits)

theorem readIndexChars_eq_ok_iff {text : List Char} :
    readIndexChars text = .ok n ↔ IndexNumeral text n ∧ n < indexLimit := by
  have hempty : ¬ DecimalDigits [] n := fun h => h.1 rfl
  have hnil : ∀ digits, [] ≠ '+' :: digits := fun _ h => nomatch h
  rw [readIndexChars.eq_def]
  split
  · rw [indexNumeral_iff_of_ne hnil]
    exact iff_of_false nofun fun h => hempty h.1
  · rw [indexNumeral_plus_iff]
    exact iff_of_false nofun fun h => hempty h.1
  · rename_i digits hne
    rw [indexNumeral_plus_iff]
    exact readDigits_eq_ok_iff fun h => hne h
  · rename_i hne _ hplus
    rw [indexNumeral_iff_of_ne hplus]
    exact readDigits_eq_ok_iff hne

theorem readIndexChars_trimBlank_eq_ok_iff {text : List Char} :
    readIndexChars (Text.trimBlank text) = .ok n ↔ IndexText text n := by
  rw [readIndexChars_eq_ok_iff]
  constructor
  · rintro ⟨hn, hlimit⟩
    exact ⟨_, Text.stripped_trimBlank text, hn, hlimit⟩
  · rintro ⟨t, ht, hn, hlimit⟩
    rw [ht.trimBlank_eq]
    exact ⟨hn, hlimit⟩

theorem exists_last_append_cons {a : α} {l : List α} (h : a ∈ l) :
    ∃ p s, l = p ++ a :: s ∧ a ∉ s := by
  obtain ⟨s, p, hl, hs⟩ := List.eq_append_cons_of_mem (List.mem_reverse.2 h)
  refine ⟨p.reverse, s.reverse, ?_, fun hm => hs (List.mem_reverse.1 hm)⟩
  rw [← List.reverse_reverse l, hl]
  simp

theorem reverse_takeWhile_reverse (h : '@' ∉ s) (p : List Char) :
    ((p ++ '@' :: s).reverse.takeWhile (· != '@')).reverse = s := by
  have hs : ∀ c ∈ s.reverse, (c != '@') = true := by
    intro c hc
    exact bne_iff_ne.2 fun he => h (he ▸ List.mem_reverse.1 hc)
  rw [List.reverse_append, List.reverse_cons, List.append_assoc, List.takeWhile_append_of_pos hs]
  simp

theorem decimalDigits_decimal (n : Nat) : DecimalDigits (Nat.toDigits 10 n) n :=
  ⟨Nat.toDigits_ne_nil, fun _ hc => isDigit_of_mem_decimal hc, digitsValue_decimal n⟩

theorem Text.not_isBlank_of_isDigit (h : c.isDigit) : ¬ isBlank c := by
  have hc : 48 ≤ c.toNat ∧ c.toNat ≤ 57 := Char.isDigit_iff_toNat.1 h
  simp only [isBlank, inRanges, blankRanges, List.any_cons, List.any_nil, Bool.or_eq_true,
    Bool.and_eq_true, decide_eq_true_eq, Bool.false_eq_true, or_false]
  omega

theorem indexText_decimal (h : n < 2 ^ 64) : IndexText (Nat.toDigits 10 n) n := by
  have hdigits := decimalDigits_decimal n
  refine ⟨Nat.toDigits 10 n, ⟨[], [], (List.append_nil _).symm, List.forall_mem_nil _, ?_⟩,
    .inl hdigits, h⟩
  rintro c (hc | hc)
  · exact Text.not_isBlank_of_isDigit (hdigits.2.1 c (List.mem_of_head? hc))
  · exact Text.not_isBlank_of_isDigit (hdigits.2.1 c (List.mem_of_getLast? hc))

/-- A label that is made from a number has that number. -/
theorem labelNumber_decimal (p : String) (h : n < 2 ^ 64) :
    LabelNumber (p ++ "@" ++ toString n) n := by
  refine ⟨p.toList, Nat.toDigits 10 n, ?_, ?_, indexText_decimal h⟩
  · rw [String.toList_append, String.toList_append, toList_toString, List.append_assoc]
    rfl
  · intro hm
    cases isDigit_of_mem_decimal hm

namespace Declaration

theorem offset_eq_ok_iff_of_split {d : Declaration} (h : d.label.toList = p ++ '@' :: s)
    (hs : '@' ∉ s) : d.offset = .ok n ↔ IndexText s n := by
  have hm : (p ++ '@' :: s).contains '@' = true := by simp
  rw [← readIndexChars_trimBlank_eq_ok_iff]
  simp only [offset, h, hm, if_true, reverse_takeWhile_reverse hs]
  cases readIndexChars (Text.trimBlank s) <;> simp [Except.toOption]

theorem offset_eq_ok_iff {d : Declaration} : d.offset = .ok n ↔ LabelNumber d.label n := by
  constructor
  · intro h
    by_cases hm : '@' ∈ d.label.toList
    · obtain ⟨before, behind, hl, hs⟩ := exists_last_append_cons hm
      exact ⟨before, behind, hl, hs, (offset_eq_ok_iff_of_split hl hs).1 h⟩
    · simp [offset, hm] at h
  · rintro ⟨before, behind, hl, hs, hn⟩
    exact (offset_eq_ok_iff_of_split hl hs).2 hn

/-- A label places its variable at the number behind its last `@`, and is malformed if there is no
such number. What stands before the last `@` does not matter. -/
theorem offset_of_label (d : Declaration) :
    (∀ n, d.offset = .ok n ↔ LabelNumber d.label n) ∧
    ((∀ n, ¬ LabelNumber d.label n) → d.offset = .error (.malformedLocation d.name d.label)) ∧
    ∀ (p : String) (n : Nat), n < 2 ^ 64 → d.label = p ++ "@" ++ toString n → d.offset = .ok n := by
  refine ⟨fun n => offset_eq_ok_iff, fun h => ?_, fun p n hn hl => ?_⟩
  · cases ho : d.offset with
    | ok n => exact absurd (offset_eq_ok_iff.1 ho) (h n)
    | error e => rw [offset_eq_error ho]
  · rw [offset_eq_ok_iff, hl]
    exact labelNumber_decimal p hn

/-- The largest number, spelled with a plus sign and leading zeros between two kinds of white space
and behind a second `@`; the number that follows it; and a label made from a number. -/
theorem offset_of_label_largest :
    let largest : Declaration :=
      ⟨"tint", "vec4", "uni@form@\u00a0+0018446744073709551615\u3000"⟩
    let beyond : Declaration := ⟨"tint", "vec4", "uniform@18446744073709551616"⟩
    let made : Declaration := ⟨"tint", "vec4", "uni@form" ++ "@" ++ toString 8⟩
    LabelNumber largest.label 18446744073709551615 ∧ largest.offset = .ok 18446744073709551615 ∧
    (∀ n, ¬ LabelNumber beyond.label n) ∧
      beyond.offset = .error (.malformedLocation "tint" "uniform@18446744073709551616") ∧
    made.offset = .ok 8 := by
  intro largest beyond made
  have hlargest : LabelNumber largest.label 18446744073709551615 := by
    refine ⟨"uni@form".toList, "\u00a0+0018446744073709551615\u3000".toList, by decide +kernel,
      by decide +kernel, "+0018446744073709551615".toList, ?_, ?_, by decide⟩
    · have hblank : ['\u00a0', '\u3000'].all Text.isBlank = true := by decide +kernel
      refine ⟨['\u00a0'], ['\u3000'], by decide +kernel, List.all_eq_true.1 hblank, ?_⟩
      rintro c (hc | hc) <;> cases hc <;> decide +kernel
    · have hdigits : "0018446744073709551615".toList.all Char.isDigit = true := by decide +kernel
      exact .inr ⟨"0018446744073709551615".toList, by decide +kernel, by decide +kernel,
        List.all_eq_true.1 hdigits, by decide +kernel⟩
  have hbeyond : ∀ n, ¬ LabelNumber beyond.label n := by
    intro n h
    have herror : beyond.offset.toOption = none := by decide +kernel
    rw [((offset_of_label beyond).1 n).2 h] at herror
    cases herror
  exact ⟨hlargest, ((offset_of_label largest).1 _).2 hlargest, hbeyond,
    (offset_of_label beyond).2.1 hbeyond, (offset_of_label made).2.2 "uni@form" 8 (by decide) rfl⟩

end Declaration

end Lanewise
