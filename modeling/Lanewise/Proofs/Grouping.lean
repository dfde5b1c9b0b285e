namespace Lanewise
set_option autoImplicit true

/-- What may follow the arguments of a call. -/
def seriesEnds : List Char := [')']

/-- What may follow a chain of operands. -/
def chainEnds : List Char := ',' :: seriesEnds

/-- What may follow an operand. -/
def termEnds : List Char := ' ' :: chainEnds

/-- The characters that divide a printed expression into words. -/
def dividers : List Char := '(' :: termEnds

/-- A text without dividers. -/
structure Word where
  chars : List Char
  plain : chars.all fun c => !dividers.contains c
  deriving DecidableEq

theorem plain_iff {chars : List Char} :
    (chars.all fun c => !dividers.contains c) ↔ ∀ c ∈ chars, c ∉ dividers := by
  simp

mutual

/-- A printed operand: a word, or what stands in parentheses with the words right before and behind. -/
inductive Term where
  | word (w : Word)
  | call (name : Word) (body : Series) (suffix : Word)

/-- Operands with words between them, set off by blanks. -/
inductive Chain where
  | one (t : Term)
  | more (t : Term) (w : Word) (rest : Chain)

/-- Arguments with commas between them. -/
inductive Series where
  | one (c : Chain)
  | more (c : Chain) (rest : Series)

end

mutual

def Term.text : Term → List Char
  | .word w => w.chars
  | .call name body suffix => name.chars ++ '(' :: (body.text ++ ')' :: suffix.chars)

def Chain.text : Chain → List Char
  | .one t => t.text
  | .more t w rest => t.text ++ ' ' :: (w.chars ++ ' ' :: rest.text)

def Series.text : Series → List Char
  | .one c => c.text
  | .more c rest => c.text ++ ',' :: ' ' :: rest.text

end

theorem Term.text_call_append (name : Word) (body : Series) (suffix : Word) (r : List Char) :
    (Term.call name body suffix).text ++ r =
      name.chars ++ '(' :: (body.text ++ ')' :: (suffix.chars ++ r)) := by
  simp only [text, List.append_assoc, List.cons_append]

theorem Chain.text_more_append (t : Term) (w : Word) (rest : Chain) (r : List Char) :
    (Chain.more t w rest).text ++ r =
      t.text ++ ' ' :: (w.chars ++ ' ' :: (rest.text ++ r)) := by
  simp only [text, List.append_assoc, List.cons_append]

theorem Series.text_more_append (c : Chain) (rest : Series) (r : List Char) :
    (Series.more c rest).text ++ r = c.text ++ ',' :: ' ' :: (rest.text ++ r) := by
  simp only [text, List.append_assoc, List.cons_append]

/-- Whether a text is at its end or goes on with one of the given characters. -/
def Stops (marks text : List Char) : Prop := ∀ c ∈ text.head?, c ∈ marks

theorem stops_nil (marks : List Char) : Stops marks [] := by
  intro c hc
  cases hc

theorem stops_cons_iff : Stops marks (c :: text) ↔ c ∈ marks := by
  rw [Stops, List.head?_cons]
  exact ⟨fun h => h c rfl, fun h d hd => Option.some.inj hd ▸ h⟩

theorem Stops.mono (h : Stops marks text) (hs : marks ⊆ marks') : Stops marks' text :=
  fun c hc => hs (h c hc)

theorem Stops.dividers (h : Stops termEnds text) : Stops dividers text := h.mono (List.subset_cons_self _ _)

theorem Stops.termEnds (h : Stops chainEnds text) : Stops termEnds text := h.mono (List.subset_cons_self _ _)

theorem Stops.chainEnds (h : Stops seriesEnds text) : Stops chainEnds text := h.mono (List.subset_cons_self _ _)

theorem stops_open (text : List Char) : Stops dividers ('(' :: text) :=
  stops_cons_iff.2 (by decide)

theorem stops_blank (text : List Char) : Stops termEnds (' ' :: text) :=
  stops_cons_iff.2 (by decide)

theorem stops_comma (text : List Char) : Stops chainEnds (',' :: text) :=
  stops_cons_iff.2 (by decide)

theorem stops_close (text : List Char) : Stops seriesEnds (')' :: text) :=
  stops_cons_iff.2 (by decide)

/-- A word ends where the first divider stands. -/
theorem chars_append_inj {chars chars' : List Char} (hw : ∀ c ∈ chars, c ∉ dividers)
    (hw' : ∀ c ∈ chars', c ∉ dividers) (hr : Stops dividers r) (hr' : Stops dividers r')
    (h : chars ++ r = chars' ++ r') : chars = chars' ∧ r = r' := by
  induction chars generalizing chars' with
  | nil =>
    cases chars' with
    | nil => exact ⟨rfl, h⟩
    | cons c chars' =>
      subst h
      exact absurd (stops_cons_iff.1 hr) (hw' c List.mem_cons_self)
  | cons c chars ih =>
    cases chars' with
    | nil =>
      subst h
      exact absurd (stops_cons_iff.1 hr') (hw c List.mem_cons_self)
    | cons c' chars' =>
      obtain ⟨rfl, htail⟩ := List.cons.inj h
      rw [List.forall_mem_cons] at hw hw'
      obtain ⟨rfl, rfl⟩ := ih hw.2 hw'.2 htail
      exact ⟨rfl, rfl⟩

theorem Word.append_inj {w w' : Word} (hr : Stops dividers r) (hr' : Stops dividers r')
    (h : w.chars ++ r = w'.chars ++ r') : w = w' ∧ r = r' := by
  obtain ⟨chars, hw⟩ := w
  obtain ⟨chars', hw'⟩ := w'
  obtain ⟨rfl, rfl⟩ := chars_append_inj (plain_iff.1 hw) (plain_iff.1 hw') hr hr' h
  exact ⟨rfl, rfl⟩

mutual

/-- Where an operand ends is seen from its text alone, and so is the operand. -/
theorem Term.text_append_inj (t t' : Term) {r r' : List Char} (hr : Stops termEnds r)
    (hr' : Stops termEnds r') (h : t.text ++ r = t'.text ++ r') : t = t' ∧ r = r' := by
  -- The induction is on all three levels at once, as the body of a call is a series. What follows a
  -- level must not be able to go on with it, and each level is followed by one mark less.
  match t, t' with
  | .word w, .word w' =>
    obtain ⟨rfl, rfl⟩ := Word.append_inj hr.dividers hr'.dividers h
    exact ⟨rfl, rfl⟩
  | .word w, .call name body suffix =>
    rw [Term.text_call_append] at h
    obtain ⟨_, rfl⟩ := Word.append_inj hr.dividers (stops_open _) h
    exact absurd (stops_cons_iff.1 hr) (by decide)
  | .call name body suffix, .word w =>
    rw [Term.text_call_append] at h
    obtain ⟨_, rfl⟩ := Word.append_inj (stops_open _) hr'.dividers h
    exact absurd (stops_cons_iff.1 hr') (by decide)
  | .call name body suffix, .call name' body' suffix' =>
    rw [Term.text_call_append, Term.text_call_append] at h
    obtain ⟨rfl, hopen⟩ := Word.append_inj (stops_open _) (stops_open _) h
    obtain ⟨rfl, hclose⟩ := Series.text_append_inj body body' (stops_close _) (stops_close _)
      (List.cons.inj hopen).2
    obtain ⟨rfl, rfl⟩ := Word.append_inj hr.dividers hr'.dividers (List.cons.inj hclose).2
    exact ⟨rfl, rfl⟩

theorem Chain.text_append_inj (c c' : Chain) {r r' : List Char} (hr : Stops chainEnds r)
    (hr' : Stops chainEnds r') (h : c.text ++ r = c'.text ++ r') : c = c' ∧ r = r' := by
  match c, c' with
  | .one t, .one t' =>
    obtain ⟨rfl, rfl⟩ := Term.text_append_inj t t' hr.termEnds hr'.termEnds h
    exact ⟨rfl, rfl⟩
  | .one t, .more t' w' rest' =>
    rw [Chain.text_more_append] at h
    obtain ⟨_, rfl⟩ := Term.text_append_inj t t' hr.termEnds (stops_blank _) h
    exact absurd (stops_cons_iff.1 hr) (by decide)
  | .more t w rest, .one t' =>
    rw [Chain.text_more_append] at h
    obtain ⟨_, rfl⟩ := Term.text_append_inj t t' (stops_blank _) hr'.termEnds h
    exact absurd (stops_cons_iff.1 hr') (by decide)
  | .more t w rest, .more t' w' rest' =>
    rw [Chain.text_more_append, Chain.text_more_append] at h
    obtain ⟨rfl, hblank⟩ := Term.text_append_inj t t' (stops_blank _) (stops_blank _) h
    obtain ⟨rfl, hnext⟩ := Word.append_inj (stops_blank _).dividers (stops_blank _).dividers
      (List.cons.inj hblank).2
    obtain ⟨rfl, rfl⟩ := Chain.text_append_inj rest rest' hr hr' (List.cons.inj hnext).2
    exact ⟨rfl, rfl⟩

theorem Series.text_append_inj (s s' : Series) {r r' : List Char} (hr : Stops seriesEnds r)
    (hr' : Stops seriesEnds r') (h : s.text ++ r = s'.text ++ r') : s = s' ∧ r = r' := by
  match s, s' with
  | .one c, .one c' =>
    obtain ⟨rfl, rfl⟩ := Chain.text_append_inj c c' hr.chainEnds hr'.chainEnds h
    exact ⟨rfl, rfl⟩
  | .one c, .more c' rest' =>
    rw [Series.text_more_append] at h
    obtain ⟨_, rfl⟩ := Chain.text_append_inj c c' hr.chainEnds (stops_comma _) h
    exact absurd (stops_cons_iff.1 hr) (by decide)
  | .more c rest, .one c' =>
    rw [Series.text_more_append] at h
    obtain ⟨_, rfl⟩ := Chain.text_append_inj c c' (stops_comma _) hr'.chainEnds h
    exact absurd (stops_cons_iff.1 hr') (by decide)
  | .more c rest, .more c' rest' =>
    rw [Series.text_more_append, Series.text_more_append] at h
    obtain ⟨rfl, hcomma⟩ := Chain.text_append_inj c c' (stops_comma _) (stops_comma _) h
    obtain ⟨rfl, rfl⟩ := Series.text_append_inj rest rest' hr hr'
      (List.cons.inj (List.cons.inj hcomma).2).2
    exact ⟨rfl, rfl⟩

end

theorem Chain.text_injective {c c' : Chain} (h : c.text = c'.text) : c = c' := by
  apply (text_append_inj c c' (stops_nil _) (stops_nil _) _).1
  rw [h]

end Lanewise
