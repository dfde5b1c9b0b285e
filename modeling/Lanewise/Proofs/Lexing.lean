import Lanewise.Json.Writer
import Lanewise.Proofs.Numerals

namespace Lanewise.Json
set_option autoImplicit true

mutual

/-- The words of the text of a value. -/
def tokens : Json → List Token
  | .null => [.null]
  | .bool value => [.bool value]
  | .number lexeme => [.number lexeme]
  | .string text => [.string text]
  | .array [] => [.openBracket, .closeBracket]
  | .array (item :: items) => .openBracket :: (tokens item ++ tailTokens items ++ [.closeBracket])
  | .object [] => [.openBrace, .closeBrace]
  | .object ((key, value) :: fields) => .openBrace :: .string key :: .colon ::
      (tokens value ++ fieldTokens fields ++ [.closeBrace])

def tailTokens : List Json → List Token
  | [] => []
  | item :: items => .comma :: (tokens item ++ tailTokens items)

def fieldTokens : List (Option String × Json) → List Token
  | [] => []
  | (key, value) :: fields =>
    .comma :: .string key :: .colon :: (tokens value ++ fieldTokens fields)

end

/-- Whether the text of a value says all of it: a number is written as one, and a string has a
text. -/
inductive Readable : Json → Prop
  | null : Readable .null
  | bool : Readable (.bool value)
  | number : isNumber lexeme.toList → Readable (.number lexeme)
  | string : Readable (.string (some text))
  | array : (∀ item ∈ items, Readable item) → Readable (.array items)
  | object : (∀ field ∈ fields, field.1.isSome) → (∀ field ∈ fields, Readable field.2) →
      Readable (.object fields)

/-- Whether the lexer has read just these words, the last of which may still go on. -/
inductive Settled : Lexing × List Token → List Token → Prop
  | between : Settled (.between, words) words
  | bare : bareToken? pending.reverse = some word → Settled (.bare pending, words) (word :: words)

section

variable {words : List Token} {cs pending : List Char} {c : Char} {points : List Nat}

/-- A character that belongs to no bare word ends one. -/
theorem Settled.lexChar_eq (h : Settled state words) (hc : isBare c = false) :
    lexChar state c = startToken words c := by
  cases h with
  | between => rfl
  | bare hw =>
    rw [lexChar, hc, hw]
    rfl

theorem isSpace_of_isBare (h : isBare c = true) : isSpace c = false := by
  cases hs : isSpace c with
  | false => rfl
  | true =>
    simp only [isSpace, Bool.or_eq_true, decide_eq_true_eq] at hs
    rcases hs with ((rfl | rfl) | rfl) | rfl <;> cases h

theorem startToken_of_isBare (h : isBare c = true) : startToken words c = some (.bare [c], words) := by
  have hs := isSpace_of_isBare h
  unfold startToken
  split
  all_goals first | cases h | skip
  rw [hs, h]
  rfl

theorem lex_bare (h : ∀ c ∈ cs, isBare c = true) :
    cs.foldlM lexChar (.bare pending, words) = some (.bare (cs.reverse ++ pending), words) := by
  induction cs generalizing pending with
  | nil => rfl
  | cons c cs ih =>
    rw [List.forall_mem_cons] at h
    rw [List.foldlM_cons, lexChar, if_pos h.1, List.reverse_cons, List.append_assoc]
    exact ih h.2

theorem isBare_of_isDigit (h : c.isDigit = true) : isBare c = true := by
  simp [isBare, Char.isAlphanum, h]

theorem mem_splitSign (h : c ∈ cs) : c = '+' ∨ c = '-' ∨ c ∈ (splitSign cs).2 := by
  rw [splitSign.eq_def]
  split
  · rcases List.mem_cons.1 h with hc | hc
    · exact .inl hc
    · exact .inr (.inr hc)
  · rcases List.mem_cons.1 h with hc | hc
    · exact .inr (.inl hc)
    · exact .inr (.inr hc)
  · exact .inr (.inr h)

theorem isBare_of_readExponent? (h : Numeral.readExponent? cs = some e) (hc : c ∈ cs) :
    isBare c = true := by
  cases cs with
  | nil => cases hc
  | cons mark cs =>
    simp only [Numeral.readExponent?] at h
    split at h
    · rename_i hd
      simp only [Bool.and_eq_true, Bool.or_eq_true, decide_eq_true_eq, List.all_eq_true] at hd
      obtain ⟨⟨hmark, _⟩, hd⟩ := hd
      rcases List.mem_cons.1 hc with rfl | hc
      · rcases hmark with rfl | rfl <;> rfl
      · rcases mem_splitSign hc with rfl | rfl | hc
        · rfl
        · rfl
        · exact isBare_of_isDigit (hd c hc)
    · cases h

theorem isBare_of_read? (h : Numeral.read? cs = some n) (hc : c ∈ cs) : isBare c = true := by
  have hdigits : ∀ {l : List Char}, c ∈ l.takeWhile Char.isDigit → isBare c = true :=
    fun hm => isBare_of_isDigit (List.mem_takeWhile_imp hm)
  rw [← List.takeWhile_append_dropWhile (p := Char.isDigit) (l := cs), List.mem_append] at hc
  rcases hc with hc | hc
  · exact hdigits hc
  unfold Numeral.read? at h
  split at h
  · rename_i rest hr
    obtain ⟨e, he, _⟩ := Option.map_eq_some_iff.1 h
    rw [hr] at hc
    rcases List.mem_cons.1 hc with rfl | hc
    · rfl
    rw [← List.takeWhile_append_dropWhile (p := Char.isDigit) (l := rest), List.mem_append] at hc
    rcases hc with hc | hc
    · exact hdigits hc
    · exact isBare_of_readExponent? he hc
  · obtain ⟨e, he, _⟩ := Option.map_eq_some_iff.1 h
    exact isBare_of_readExponent? he hc

theorem isBare_of_isNumber (h : isNumber cs = true) (hc : c ∈ cs) : isBare c = true := by
  unfold isNumber at h
  split at h
  · rename_i cs
    rcases List.mem_cons.1 hc with rfl | hc
    · rfl
    cases hn : Numeral.read? cs with
    | none => simp [hn] at h
    | some n => exact isBare_of_read? hn hc
  · cases hn : Numeral.read? cs with
    | none => simp [hn] at h
    | some n => exact isBare_of_read? hn hc

theorem bareToken?_of_isNumber (h : isNumber cs = true) :
    bareToken? cs = some (.number (String.ofList cs)) := by
  unfold bareToken?
  split
  · subst cs
    cases h
  split
  · subst cs
    cases h
  split
  · subst cs
    cases h
  · rfl

/-- The code points of a text, none of which is half of a pair. -/
theorem joinHalves?_map_toNat (cs : List Char) : joinHalves? (cs.map Char.toNat) = some cs := by
  induction cs with
  | nil => rfl
  | cons c cs ih =>
    have hv : c.toNat < 0xD800 ∨ 0xDFFF < c.toNat ∧ c.toNat < 0x110000 := c.valid
    have hlow : isLowHalf c.toNat = false := by
      simp only [isLowHalf, Bool.and_eq_false_iff, decide_eq_false_iff_not]
      omega
    have hhigh : isHighHalf c.toNat = false := by
      simp only [isHighHalf, Bool.and_eq_false_iff, decide_eq_false_iff_not]
      omega
    rw [List.map_cons, joinHalves?.eq_def]
    simp [hlow, hhigh, ih]

theorem stringToken_eq (s : String) : stringToken (s.toList.map Char.toNat).reverse = .string (some s) := by
  rw [stringToken, List.reverse_reverse, joinHalves?_map_toNat, Option.map_some, String.ofList_toList]

theorem hexDigits_eq : ∀ n < 0x20,
    hexDigits n = ['0', '0', Nat.digitChar (n / 16), Nat.digitChar (n % 16)] := by
  decide

theorem hexValue?_digitChar : ∀ n < 16, hexValue? (Nat.digitChar n) = some n := by
  decide

/-- The four digits of a control character are its code. -/
theorem lex_hexDigits (h : n < 0x20) : (hexDigits n).foldlM lexChar (.hex 4 0 points, words) =
    some (.text (n :: points), words) := by
  have hq := hexValue?_digitChar (n / 16) (by omega)
  have hr := hexValue?_digitChar (n % 16) (by omega)
  have hz : hexValue? '0' = some 0 := rfl
  have hn : 16 * (n / 16) + n % 16 = n := by omega
  simp [hexDigits_eq n h, lexChar, hz, hq, hr, hn]

/-- A character of a string is read from its escape. -/
theorem lex_escapedChar (c : Char) : (escapedChar c).foldlM lexChar (.text points, words) =
    some (.text (c.toNat :: points), words) := by
  unfold escapedChar
  split
  · subst c
    rfl
  split
  · subst c
    rfl
  split
  · subst c
    rfl
  split
  · subst c
    rfl
  split
  · subst c
    rfl
  split
  · subst c
    rfl
  split
  · subst c
    rfl
  split
  · rename_i hc
    exact lex_hexDigits hc
  · rename_i hq hb _ _ _ _ _ hc
    simp [lexChar, hq, hb, hc]

theorem lex_flatMap_escapedChar (cs : List Char) :
    (cs.flatMap escapedChar).foldlM lexChar (.text points, words) =
      some (.text ((cs.map Char.toNat).reverse ++ points), words) := by
  induction cs generalizing points with
  | nil => rfl
  | cons c cs ih =>
    rw [List.flatMap_cons, List.foldlM_append, lex_escapedChar, List.map_cons, List.reverse_cons,
      List.append_assoc]
    exact ih

end

/-- Whether a text that begins between two words spells these words. -/
def Spells (cs : List Char) (spelled : List Token) : Prop :=
  ∀ words, ∃ state, cs.foldlM lexChar (.between, words) = some state ∧
    Settled state (spelled.reverse ++ words)

/-- Whether a text spells these words wherever it follows others. -/
def Continues (cs : List Char) (spelled : List Token) : Prop :=
  ∀ state words, Settled state words →
    ∃ state', cs.foldlM lexChar state = some state' ∧ Settled state' (spelled.reverse ++ words)

/-- Whether a character is a word by itself. -/
structure IsMark (c : Char) (word : Token) : Prop where
  notBare : isBare c = false
  start_eq : ∀ words, startToken words c = some (.between, word :: words)

theorem Continues.nil : Continues [] [] :=
  fun state _ h => ⟨state, rfl, h⟩

theorem Continues.spells (h : Continues cs spelled) : Spells cs spelled :=
  fun words => h _ words .between

theorem Spells.append (h : Spells cs spelled) (h' : Continues cs' spelled') :
    Spells (cs ++ cs') (spelled ++ spelled') := by
  intro words
  obtain ⟨state, hr, hs⟩ := h words
  obtain ⟨state', hr', hs'⟩ := h' state _ hs
  refine ⟨state', ?_, ?_⟩
  · rw [List.foldlM_append, hr]
    exact hr'
  · rw [List.reverse_append, List.append_assoc]
    exact hs'

theorem IsMark.continues (hc : IsMark c word) (h : Spells cs spelled) :
    Continues (c :: cs) (word :: spelled) := by
  intro state words hs
  obtain ⟨state', hr, hs'⟩ := h (word :: words)
  refine ⟨state', ?_, ?_⟩
  · rw [List.foldlM_cons, hs.lexChar_eq hc.notBare, hc.start_eq]
    exact hr
  · rw [List.reverse_cons, List.append_assoc]
    exact hs'

theorem Spells.bare (hne : cs ≠ []) (hb : ∀ c ∈ cs, isBare c = true) (hw : bareToken? cs = some word) :
    Spells cs [word] := by
  intro words
  cases cs with
  | nil => exact absurd rfl hne
  | cons c cs =>
    rw [List.forall_mem_cons] at hb
    refine ⟨(.bare (cs.reverse ++ [c]), words), ?_, .bare ?_⟩
    · rw [List.foldlM_cons, lexChar, startToken_of_isBare hb.1]
      exact lex_bare hb.2
    · rw [List.reverse_append, List.reverse_reverse]
      exact hw

theorem Spells.number (h : isNumber lexeme.toList) : Spells lexeme.toList [.number lexeme] := by
  have hne : lexeme.toList ≠ [] := by
    intro he
    rw [he] at h
    cases h
  have hw := bareToken?_of_isNumber h
  rw [String.ofList_toList] at hw
  exact .bare hne (fun c hc => isBare_of_isNumber h hc) hw

/-- A string is read from its quoted text. -/
theorem Continues.string (s : String) (h : Continues cs spelled) :
    Continues (stringChars s ++ cs) (.string (some s) :: spelled) := by
  intro state words hs
  obtain ⟨state', hr, hs'⟩ := h _ (.string (some s) :: words) .between
  have hopen : lexChar state '"' = some (.text [], words) := hs.lexChar_eq rfl
  have hbody : (s.toList.flatMap escapedChar).foldlM lexChar (.text [], words) =
      some (.text (s.toList.map Char.toNat).reverse, words) := by
    rw [lex_flatMap_escapedChar, List.append_nil]
  have hclose : lexChar (.text (s.toList.map Char.toNat).reverse, words) '"' =
      some (.between, .string (some s) :: words) := by
    rw [← stringToken_eq]
    rfl
  refine ⟨state', ?_, ?_⟩
  · simp only [stringChars, List.cons_append, List.append_assoc, List.nil_append, List.foldlM_cons,
      List.foldlM_append, hopen, hbody, hclose, Option.bind_eq_bind, Option.bind_some]
    exact hr
  · rw [List.reverse_cons, List.append_assoc]
    exact hs'

theorem openBracket_isMark : IsMark '[' .openBracket := ⟨rfl, fun _ => rfl⟩

theorem closeBracket_isMark : IsMark ']' .closeBracket := ⟨rfl, fun _ => rfl⟩

theorem openBrace_isMark : IsMark '\x7b' .openBrace := ⟨rfl, fun _ => rfl⟩

theorem closeBrace_isMark : IsMark '\x7d' .closeBrace := ⟨rfl, fun _ => rfl⟩

theorem colon_isMark : IsMark ':' .colon := ⟨rfl, fun _ => rfl⟩

theorem comma_isMark : IsMark ',' .comma := ⟨rfl, fun _ => rfl⟩

theorem Continues.tail (h : ∀ item ∈ items, Spells (chars item) (tokens item)) :
    Continues (tailChars items) (tailTokens items) := by
  induction items with
  | nil => exact .nil
  | cons item items ih =>
    rw [List.forall_mem_cons] at h
    rw [tailChars, tailTokens]
    exact comma_isMark.continues (h.1.append (ih h.2))

/-- A key with its value. -/
theorem Continues.field (hk : key.isSome) (hv : Spells (chars value ++ cs) (tokens value ++ spelled)) :
    Continues (textChars key ++ ':' :: (chars value ++ cs))
      (.string key :: .colon :: (tokens value ++ spelled)) := by
  obtain ⟨s, rfl⟩ := Option.isSome_iff_exists.1 hk
  exact .string s (colon_isMark.continues hv)

theorem Continues.fields {fields : List (Option String × Json)}
    (hk : ∀ field ∈ fields, field.1.isSome)
    (h : ∀ field ∈ fields, Spells (chars field.2) (tokens field.2)) :
    Continues (fieldChars fields) (fieldTokens fields) := by
  induction fields with
  | nil => exact .nil
  | cons field fields ih =>
    obtain ⟨key, value⟩ := field
    rw [List.forall_mem_cons] at hk h
    have hfields := ih hk.2 h.2
    rw [fieldChars, fieldTokens]
    exact comma_isMark.continues (Continues.field hk.1 (h.1.append hfields)).spells

/-- The text of a value spells its words. -/
theorem Readable.spells (h : Readable value) : Spells (chars value) (tokens value) := by
  induction h with
  | null => exact .bare (by decide) (List.all_eq_true.1 rfl) rfl
  | @bool value =>
    cases value with
    | true => exact .bare (by decide) (List.all_eq_true.1 rfl) rfl
    | false => exact .bare (by decide) (List.all_eq_true.1 rfl) rfl
  | number hn => exact .number hn
  | @string text =>
    have hs := (Continues.string text .nil).spells
    rwa [List.append_nil] at hs
  | @array items _ ih =>
    have hclose := closeBracket_isMark.continues Continues.nil.spells
    cases items with
    | nil => exact (openBracket_isMark.continues hclose.spells).spells
    | cons item items =>
      rw [List.forall_mem_cons] at ih
      have hbody := (ih.1.append (.tail ih.2)).append hclose
      exact (openBracket_isMark.continues hbody).spells
  | @object fields hk _ ih =>
    have hclose := closeBrace_isMark.continues Continues.nil.spells
    cases fields with
    | nil => exact (openBrace_isMark.continues hclose.spells).spells
    | cons field fields =>
      obtain ⟨key, value⟩ := field
      rw [List.forall_mem_cons] at hk ih
      have hvalue := (ih.1.append (.fields hk.2 ih.2)).append hclose
      rw [List.append_assoc, List.append_assoc] at hvalue
      have hbody := (Continues.field hk.1 hvalue).spells
      rw [← List.append_assoc, ← List.append_assoc] at hbody
      exact (openBrace_isMark.continues hbody).spells

theorem Spells.tokens?_eq (h : Spells cs spelled) : tokens? cs = some spelled := by
  obtain ⟨state, hr, hs⟩ := h []
  rw [tokens?, hr]
  generalize hw : spelled.reverse ++ [] = words at hs
  have hrev : words.reverse = spelled := by
    rw [← hw, List.append_nil, List.reverse_reverse]
  cases hs with
  | between => exact congrArg some hrev
  | bare hb =>
    change (do some ((← bareToken? _) :: _).reverse) = _
    rw [hb]
    exact congrArg some hrev

end Lanewise.Json
