import Lanewise.Expr.Render
import Lanewise.Proofs.Grouping
import Lanewise.Proofs.Numerals

namespace Lanewise
set_option autoImplicit true

/-- The word of a function of one argument. -/
def UnaryFn.word (fn : UnaryFn) : Word := ⟨fn.callName.toList, by cases fn <;> decide +kernel⟩

/-- The text that stands for a function of two arguments. -/
def BinaryFn.symbol : BinaryFn → String
  | .add => "+"
  | .sub => "-"
  | .mul => "*"
  | .min => "min"
  | .max => "max"
  | .pow => "pow"
  | .lt => "<"
  | .ge => ">="
  | .eq => "=="
  | .ne => "!="

def BinaryFn.word (fn : BinaryFn) : Word := ⟨fn.symbol.toList, by cases fn <;> decide +kernel⟩

namespace Word

def empty : Word := ⟨[], by decide⟩

def one : Word := ⟨['1', '.', '0'], by decide⟩

def zero : Word := ⟨['0', '.', '0'], by decide⟩

def slash : Word := ⟨['/'], by decide⟩

def question : Word := ⟨['?'], by decide⟩

def colon : Word := ⟨[':'], by decide⟩

def tex : Word := ⟨['t', 'e', 'x'], by decide⟩

theorem not_mem_dividers_of_isDigit (h : c.isDigit = true) : c ∉ dividers := by
  intro hm
  simp only [dividers, termEnds, chainEnds, seriesEnds, List.mem_cons, List.not_mem_nil, or_false] at hm
  rcases hm with rfl | rfl | rfl | rfl <;> cases h

/-- A number in brackets. -/
def bracketed (n : Nat) : Word := ⟨'[' :: (Nat.toDigits 10 n ++ [']']), plain_iff.2 <| by
  intro c hc
  rw [List.mem_cons, List.mem_append, List.mem_singleton] at hc
  rcases hc with rfl | hc | rfl
  · decide
  · exact not_mem_dividers_of_isDigit (isDigit_of_mem_decimal hc)
  · decide⟩

theorem bracketed_injective (h : bracketed n = bracketed n') : n = n' := by
  have hchars : '[' :: (Nat.toDigits 10 n ++ [']']) = '[' :: (Nat.toDigits 10 n' ++ [']']) :=
    congrArg chars h
  have hdigits := List.append_cancel_right (List.cons.inj hchars).2
  rw [← digitsValue_decimal n, hdigits, digitsValue_decimal]

end Word

theorem UnaryFn.word_injective {fn fn' : UnaryFn} (h : fn.word = fn'.word) : fn = fn' := by
  have hname : fn.callName = fn'.callName := String.toList_injective (congrArg Word.chars h)
  cases fn <;> cases fn' <;> first | rfl | exact absurd hname (by decide)

theorem BinaryFn.word_injective {fn fn' : BinaryFn} (h : fn.word = fn'.word) : fn = fn' := by
  have hname : fn.symbol = fn'.symbol := String.toList_injective (congrArg Word.chars h)
  cases fn <;> cases fn' <;> first | rfl | exact absurd hname (by decide)

theorem UnaryFn.word_ne_empty (fn : UnaryFn) : fn.word ≠ .empty := by
  cases fn <;> decide +kernel

theorem BinaryFn.word_ne_slash (fn : BinaryFn) : fn.word ≠ .slash := by
  cases fn <;> decide +kernel

/-- A chain in parentheses. -/
def Term.group (c : Chain) : Term := .call .empty (.one c) .empty

/-- A choice between two operands. -/
def Chain.choice (test yes no : Term) : Chain := .more test .question (.more yes .colon (.one no))

def Chain.first : Chain → Term
  | .one t => t
  | .more t _ _ => t

/-- Where the sign of a function of two operands stands. -/
inductive Placing where
  | between
  | before
  /-- Between the operands of a test that chooses one or zero. -/
  | tested
  deriving DecidableEq

def BinaryFn.placing : BinaryFn → Placing
  | .add | .sub | .mul => .between
  | .min | .max | .pow => .before
  | .lt | .ge | .eq | .ne => .tested

/-- How a function of two operands is printed. -/
def BinaryFn.chain (fn : BinaryFn) (a b : Term) : Chain :=
  match fn.placing with
  | .between => .more a fn.word (.one b)
  | .before => .one (.call fn.word (.more (.one a) (.one (.one b))) .empty)
  | .tested => .choice (.group (.more a fn.word (.one b))) (.word .one) (.word .zero)

theorem BinaryFn.toList_render (fn : BinaryFn) {a b : String} {s t : Term} (ha : a.toList = s.text)
    (hb : b.toList = t.text) : (fn.render a b).toList = (fn.chain s t).text := by
  cases fn <;> simp [render, ha, hb, chain, placing, word, symbol, Chain.choice, Term.group, Chain.text,
    Term.text, Series.text, Word.empty, Word.one, Word.zero, Word.question, Word.colon]

theorem BinaryFn.chain_inj {fn fn' : BinaryFn} (h : fn.chain a b = fn'.chain a' b') :
    fn = fn' ∧ a = a' ∧ b = b' := by
  suffices hword : fn.word = fn'.word ∧ a = a' ∧ b = b' from ⟨word_injective hword.1, hword.2⟩
  cases hp : fn.placing <;> cases hp' : fn'.placing <;>
    simp only [chain, hp, hp', Chain.choice, Term.group, Chain.more.injEq, Chain.one.injEq,
      Term.call.injEq, Series.more.injEq, Series.one.injEq, reduceCtorEq, and_false, and_true,
      true_and] at h
  · exact ⟨h.2.1, h.1, h.2.2⟩
  · exact h
  · exact ⟨h.2.1, h.1, h.2.2⟩

namespace Expr

/-- Expressions that are the same but for a choice between one and zero by the sign of a value, which
may stand for the comparison of that value with zero. -/
inductive Alike (leafText : α → String) : Expr α → Expr α → Prop
  | refl (e) : Alike leafText e e
  | symm : Alike leafText e e' → Alike leafText e' e
  | trans : Alike leafText e e' → Alike leafText e' e'' → Alike leafText e e''
  | comparison (c) : leafText one = "1.0" → leafText zero = "0.0" →
      Alike leafText (.select c (.leaf one) (.leaf zero)) (.binary .lt c (.leaf zero))
  | unary (fn) : Alike leafText x x' → Alike leafText (.unary fn x) (.unary fn x')
  | binary (fn) : Alike leafText a a' → Alike leafText b b' →
      Alike leafText (.binary fn a b) (.binary fn a' b')
  | select : Alike leafText c c' → Alike leafText n n' → Alike leafText o o' →
      Alike leafText (.select c n o) (.select c' n' o')
  | sample (channel) : Alike leafText u u' → Alike leafText v v' → Alike leafText lod lod' →
      Alike leafText (.sample u v lod channel) (.sample u' v' lod' channel)

/-- How an expression is printed as an operand if it is printed as a chain by itself. -/
def operand (e : Expr α) (c : Chain) : Term := if e.isCompound then .group c else c.first

/-- How an expression is printed, given the words of its leaves. -/
def chain (word : α → Word) : Expr α → Chain
  | .leaf a => .one (.word (word a))
  | .unary .rcp x => .more (.word .one) .slash (.one (x.operand (x.chain word)))
  | .unary fn x => .one (.call fn.word (.one (x.chain word)) .empty)
  | .binary fn a b => fn.chain (a.operand (a.chain word)) (b.operand (b.chain word))
  | .select cond negative otherwise =>
    .choice (.group (.more (cond.operand (cond.chain word)) (BinaryFn.word .lt) (.one (.word .zero))))
      (negative.operand (negative.chain word)) (otherwise.operand (otherwise.chain word))
  | .sample u v lod channel =>
    .one (.call .tex (.more (u.chain word) (.more (v.chain word) (.one (lod.chain word))))
      (.bracketed channel))

variable {α : Type} {word : α → Word} {e e' : Expr α}

theorem chain_unary {fn : UnaryFn} (x : Expr α) (h : fn ≠ .rcp) :
    (Expr.unary fn x).chain word = .one (.call fn.word (.one (x.chain word)) .empty) := by
  cases fn with
  | rcp => exact absurd rfl h
  | _ => rfl

theorem render_unary {fn : UnaryFn} (leafText : α → String) (x : Expr α) (h : fn ≠ .rcp) :
    (Expr.unary fn x).render leafText = fn.callName ++ "(" ++ x.render leafText ++ ")" := by
  cases fn with
  | rcp => exact absurd rfl h
  | _ => rfl

theorem chain_eq_one (h : e.isCompound = false) : e.chain word = .one (e.chain word).first := by
  cases e with
  | leaf a => rfl
  | unary fn x =>
    cases fn with
    | rcp => cases h
    | _ => rfl
  | binary fn a b => cases h
  | select c n o => cases h
  | sample u v lod n => rfl

theorem toList_enclose {text : String} (h : text.toList = (e.chain word).text) :
    (e.enclose text).toList = (e.operand (e.chain word)).text := by
  rw [enclose, operand]
  cases hc : e.isCompound with
  | true =>
    rw [if_pos rfl, if_pos rfl, String.toList_append, String.toList_append, h]
    rfl
  | false =>
    rw [if_neg Bool.false_ne_true, if_neg Bool.false_ne_true, h, chain_eq_one hc]
    rfl

/-- The text of an expression is that of its printed form. -/
theorem toList_render {leafText : α → String} (hw : ∀ a, (leafText a).toList = (word a).chars)
    (e : Expr α) : (e.render leafText).toList = (e.chain word).text := by
  induction e with
  | leaf a => exact hw a
  | unary fn x ih =>
    by_cases hf : fn = .rcp
    · subst hf
      rw [render, String.toList_append, toList_enclose ih]
      rfl
    · rw [render_unary leafText x hf, chain_unary x hf]
      simp [ih, Chain.text, Term.text, Series.text, UnaryFn.word, Word.empty]
  | binary fn a b iha ihb => exact fn.toList_render (toList_enclose iha) (toList_enclose ihb)
  | select c n o ihc ihn iho =>
    simp [render, toList_enclose ihc, toList_enclose ihn, toList_enclose iho, chain, Chain.choice,
      Term.group, Chain.text, Term.text, Series.text, BinaryFn.word, BinaryFn.symbol, Word.empty,
      Word.zero, Word.question, Word.colon]
  | sample u v lod n ihu ihv ihl =>
    simp [render, ihu, ihv, ihl, chain, Chain.text, Term.text, Series.text, Word.tex,
      Word.bracketed]

theorem first_ne_group (h : e.isCompound = false) : (e.chain word).first ≠ .group c := by
  intro hc
  cases e with
  | leaf a => cases hc
  | unary fn x =>
    cases fn with
    | rcp => cases h
    | _ => exact UnaryFn.word_ne_empty _ (Term.call.inj hc).1
  | binary fn a b => cases h
  | select c n o => cases h
  | sample u v lod n => cases (Term.call.inj hc).2.1

theorem operand_inj (h : e.operand (e.chain word) = e'.operand (e'.chain word)) :
    e.chain word = e'.chain word := by
  rw [operand, operand] at h
  cases hc : e.isCompound with
  | true =>
    cases hc' : e'.isCompound with
    | true =>
      rw [hc, hc', if_pos rfl, if_pos rfl] at h
      exact Series.one.inj (Term.call.inj h).2.1
    | false =>
      rw [hc, hc', if_pos rfl, if_neg Bool.false_ne_true] at h
      exact absurd h.symm (first_ne_group hc')
  | false =>
    cases hc' : e'.isCompound with
    | true =>
      rw [hc, hc', if_neg Bool.false_ne_true, if_pos rfl] at h
      exact absurd h (first_ne_group hc)
    | false =>
      rw [hc, hc', if_neg Bool.false_ne_true, if_neg Bool.false_ne_true] at h
      rw [chain_eq_one hc, chain_eq_one hc', h]

theorem eq_leaf_of_chain (h : e.chain word = .one (.word w)) : ∃ a, e = .leaf a ∧ word a = w := by
  cases e with
  | leaf a => exact ⟨a, rfl, Term.word.inj (Chain.one.inj h)⟩
  | unary fn x => cases fn <;> cases h
  | binary fn a b => cases fn <;> cases h
  | select c n o => cases h
  | sample u v lod n => cases h

theorem eq_leaf_of_operand (h : e.operand (e.chain word) = .word w) :
    ∃ a, e = .leaf a ∧ word a = w := by
  rw [operand] at h
  cases hc : e.isCompound with
  | true =>
    rw [hc, if_pos rfl] at h
    cases h
  | false =>
    rw [hc, if_neg Bool.false_ne_true] at h
    have hone : e.chain word = .one (e.chain word).first := chain_eq_one hc
    rw [h] at hone
    exact eq_leaf_of_chain hone

theorem eq_rcp_of_chain (h : e.chain word = .more (.word .one) .slash (.one t)) :
    ∃ x, e = .unary .rcp x ∧ x.operand (x.chain word) = t := by
  cases e with
  | leaf a => cases h
  | unary fn x =>
    cases fn with
    | rcp => exact ⟨x, rfl, Chain.one.inj (Chain.more.inj h).2.2⟩
    | _ => cases h
  | binary fn a b =>
    cases fn with
    | add | sub | mul => exact absurd (Chain.more.inj h).2.1 (BinaryFn.word_ne_slash _)
    | lt | ge | eq | ne => cases (Chain.more.inj h).1
    | _ => cases h
  | select c n o => cases (Chain.more.inj h).1
  | sample u v lod n => cases h

theorem eq_call_of_chain (h : e.chain word = .one (.call name (.one c) suffix)) :
    ∃ fn x, e = .unary fn x ∧ fn.word = name ∧ x.chain word = c := by
  cases e with
  | leaf a => cases h
  | unary fn x =>
    cases fn with
    | rcp => cases h
    | _ =>
      obtain ⟨hn, hb, _⟩ := Term.call.inj (Chain.one.inj h)
      exact ⟨_, x, rfl, hn, Series.one.inj hb⟩
  | binary fn a b =>
    cases fn with
    | min | max | pow => cases (Term.call.inj (Chain.one.inj h)).2.1
    | _ => cases h
  | select c n o => cases h
  | sample u v lod n => cases (Term.call.inj (Chain.one.inj h)).2.1

/-- What is printed like a function of two operands is that function, or a choice between one and
zero that is printed like a comparison with zero. -/
theorem binary_or_select_of_chain {fn : BinaryFn} (h : e.chain word = fn.chain s t) :
    (∃ a b, e = .binary fn a b ∧ a.operand (a.chain word) = s ∧ b.operand (b.chain word) = t) ∨
    ∃ c one zero, e = .select c (.leaf one) (.leaf zero) ∧ fn = .lt ∧
      c.operand (c.chain word) = s ∧ t = .word .zero ∧ word one = .one ∧ word zero = .zero := by
  cases e with
  | leaf a => cases fn <;> cases h
  | unary f x =>
    cases f with
    | rcp =>
      cases fn with
      | add | sub | mul => exact absurd (Chain.more.inj h).2.1.symm (BinaryFn.word_ne_slash _)
      | lt | ge | eq | ne => cases (Chain.more.inj h).1
      | _ => cases h
    | _ =>
      cases fn with
      | min | max | pow => cases (Term.call.inj (Chain.one.inj h)).2.1
      | _ => cases h
  | binary f a b =>
    obtain ⟨rfl, ha, hb⟩ := BinaryFn.chain_inj h
    exact .inl ⟨a, b, rfl, ha, hb⟩
  | select c n o =>
    -- A choice has three operands, like nothing but a comparison; its branches are then words.
    cases hp : fn.placing with
    | between =>
      simp only [chain, BinaryFn.chain, hp, Chain.choice, Chain.more.injEq, reduceCtorEq,
        and_false] at h
    | before =>
      simp only [chain, BinaryFn.chain, hp, Chain.choice, reduceCtorEq] at h
    | tested =>
      simp only [chain, BinaryFn.chain, hp, Chain.choice, Term.group, Chain.more.injEq,
        Chain.one.injEq, Term.call.injEq, Series.one.injEq, true_and, and_true] at h
      obtain ⟨⟨hc, hf, ht⟩, hn, ho⟩ := h
      obtain ⟨one, rfl, hone⟩ := eq_leaf_of_operand hn
      obtain ⟨zero, rfl, hzero⟩ := eq_leaf_of_operand ho
      exact .inr ⟨c, one, zero, rfl, (BinaryFn.word_injective hf).symm, hc, ht.symm, hone, hzero⟩
  | sample u v lod n =>
    cases fn with
    | min | max | pow => cases Series.more.inj (Term.call.inj (Chain.one.inj h)).2.1 |>.2
    | _ => cases h

theorem eq_sample_of_chain
    (h : e.chain word = .one (.call name (.more c₁ (.more c₂ (.one c₃))) (.bracketed n))) :
    ∃ u v lod, e = .sample u v lod n ∧ u.chain word = c₁ ∧ v.chain word = c₂ ∧
      lod.chain word = c₃ := by
  cases e with
  | leaf a => cases h
  | unary fn x =>
    cases fn with
    | rcp => cases h
    | _ => cases (Term.call.inj (Chain.one.inj h)).2.1
  | binary fn a b =>
    cases fn with
    | min | max | pow => cases Series.more.inj (Term.call.inj (Chain.one.inj h)).2.1 |>.2
    | _ => cases h
  | select c n o => cases h
  | sample u v lod n' =>
    obtain ⟨_, hb, hs⟩ := Term.call.inj (Chain.one.inj h)
    obtain ⟨hu, hb⟩ := Series.more.inj hb
    obtain ⟨hv, hl⟩ := Series.more.inj hb
    cases Word.bracketed_injective hs
    exact ⟨u, v, lod, rfl, hu, hv, Series.one.inj hl⟩

namespace Alike

variable {leafText : α → String}

theorem isCompound_eq (h : Alike leafText e e') : e.isCompound = e'.isCompound := by
  induction h with
  | refl e => rfl
  | symm _ ih => exact ih.symm
  | trans _ _ ih ih' => exact ih.trans ih'
  | comparison => rfl
  | unary fn => cases fn <;> rfl
  | binary | select | sample => rfl

theorem render_eq (h : Alike leafText e e') : e.render leafText = e'.render leafText := by
  have hoperand : ∀ {x x' : Expr α}, Alike leafText x x' →
      x.render leafText = x'.render leafText →
      x.enclose (x.render leafText) = x'.enclose (x'.render leafText) := by
    intro x x' hx hr
    rw [enclose, enclose, hx.isCompound_eq, hr]
  induction h with
  | refl e => rfl
  | symm _ ih => exact ih.symm
  | trans _ _ ih ih' => exact ih.trans ih'
  | comparison c hone hzero =>
    have hclosed : " < 0.0) ? " ++ ("1.0" ++ (" : " ++ "0.0")) =
        " < " ++ ("0.0" ++ ") ? 1.0 : 0.0") := by decide +kernel
    simp only [render, BinaryFn.render, enclose, isCompound, hone, hzero, String.append_assoc,
      Bool.false_eq_true, if_false]
    rw [hclosed]
  | unary fn hx ih =>
    cases fn with
    | rcp => rw [render, render, hoperand hx ih]
    | _ => simp only [render, ih]
  | binary fn ha hb iha ihb => rw [render, render, hoperand ha iha, hoperand hb ihb]
  | select hc hn ho ihc ihn iho =>
    rw [render, render, hoperand hc ihc, hoperand hn ihn, hoperand ho iho]
  | sample n _ _ _ ihu ihv ihl => rw [render, render, ihu, ihv, ihl]

theorem eval_eq (h : Alike leafText e e') (sampler : Sampler) {value : α → Float32}
    (hone : ∀ a, leafText a = "1.0" → value a = 1.0)
    (hzero : ∀ a, leafText a = "0.0" → value a = 0.0) :
    e.eval sampler value = e'.eval sampler value := by
  induction h with
  | refl e => rfl
  | symm _ ih => exact ih.symm
  | trans _ _ ih ih' => exact ih.trans ih'
  | comparison c h1 h0 =>
    simp only [eval, BinaryFn.apply, truth, hone _ h1, hzero _ h0, decide_eq_true_eq]
  | unary fn _ ih => rw [eval, eval, ih]
  | binary fn _ _ iha ihb => rw [eval, eval, iha, ihb]
  | select _ _ _ ihc ihn iho => rw [eval, eval, ihc, ihn, iho]
  | sample n _ _ _ ihu ihv ihl => rw [eval, eval, ihu, ihv, ihl]

section Printed

variable (hw : ∀ a, (leafText a).toList = (word a).chars)
include hw

theorem leafText_eq (h : word a = w) : leafText a = String.ofList w.chars := by
  rw [← h, ← hw a, String.ofList_toList]

theorem leaf_inj (hinj : Function.Injective leafText) (h : word a = word a') : a = a' := by
  apply hinj
  rw [leafText_eq hw h, leafText_eq hw rfl]

/-- A comparison with what is printed as zero is alike to the choice that is printed like it. -/
theorem lt_select (hinj : Function.Injective leafText) (ha : Alike leafText a c)
    (hb : b.operand (b.chain word) = .word .zero) (hone : word one = .one)
    (hzero : word zero = .zero) :
    Alike leafText (.binary .lt a b) (.select c (.leaf one) (.leaf zero)) := by
  obtain ⟨zero', rfl, hzero'⟩ := eq_leaf_of_operand hb
  cases leaf_inj hw hinj (hzero'.trans hzero.symm)
  have hlt : Alike leafText (.binary .lt a (.leaf zero)) (.binary .lt c (.leaf zero)) :=
    .binary .lt ha (.refl _)
  exact hlt.trans (.symm (.comparison c (leafText_eq hw hone) (leafText_eq hw hzero)))

/-- Expressions that are printed alike are alike. -/
theorem of_chain_eq (hinj : Function.Injective leafText) (h : e.chain word = e'.chain word) :
    Alike leafText e e' := by
  induction e generalizing e' with
  | leaf a =>
    obtain ⟨a', rfl, ha⟩ := eq_leaf_of_chain h.symm
    cases leaf_inj hw hinj ha
    exact .refl _
  | unary fn x ih =>
    by_cases hf : fn = .rcp
    · subst hf
      obtain ⟨x', rfl, hx⟩ := eq_rcp_of_chain h.symm
      exact .unary .rcp (ih (operand_inj hx.symm))
    · rw [chain_unary x hf] at h
      obtain ⟨fn', x', rfl, hn, hx⟩ := eq_call_of_chain h.symm
      cases UnaryFn.word_injective hn
      exact .unary fn (ih hx.symm)
  | binary fn a b iha ihb =>
    obtain ⟨a', b', rfl, ha, hb⟩ | ⟨c, one, zero, rfl, rfl, hc, hb, hone, hzero⟩ :=
      binary_or_select_of_chain h.symm
    · exact .binary fn (iha (operand_inj ha.symm)) (ihb (operand_inj hb.symm))
    · exact lt_select hw hinj (iha (operand_inj hc.symm)) hb hone hzero
  | select c n o ihc ihn iho =>
    cases e' with
    | select c' n' o' =>
      simp only [chain, Chain.choice, Term.group, Chain.more.injEq, Chain.one.injEq,
        Term.call.injEq, Series.one.injEq, true_and, and_true] at h
      obtain ⟨hc, hn, ho⟩ := h
      exact .select (ihc (operand_inj hc)) (ihn (operand_inj hn)) (iho (operand_inj ho))
    | binary fn a b =>
      obtain ⟨_, _, he, _⟩ | ⟨c', one, zero, he, rfl, hc, hb, hone, hzero⟩ :=
        binary_or_select_of_chain h
      · cases he
      · cases he
        exact (lt_select hw hinj (.symm (ihc (operand_inj hc))) hb hone hzero).symm
    | leaf a => cases h
    | unary fn x =>
      cases fn with
      | rcp => cases (Chain.more.inj h).1
      | _ => cases h
    | sample u v lod n => cases h
  | sample u v lod n ihu ihv ihl =>
    obtain ⟨u', v', lod', rfl, hu, hv, hl⟩ := eq_sample_of_chain h.symm
    exact .sample n (ihu hu.symm) (ihv hv.symm) (ihl hl.symm)

end Printed

end Alike

/-- The text of an expression over leaves with texts of their own, free of dividers, fixes the
expression up to a choice between one and zero that may stand for a comparison with zero; and that
does not change its value. -/
theorem render_eq_iff_alike (leafText : α → String) (hinj : Function.Injective leafText)
    (hplain : ∀ a, ∀ c ∈ (leafText a).toList, c ∉ dividers) (e e' : Expr α) :
    (e.render leafText = e'.render leafText ↔ Alike leafText e e') ∧
    (Alike leafText e e' → ∀ (sampler : Sampler) (value : α → Float32),
      (∀ a, leafText a = "1.0" → value a = 1.0) → (∀ a, leafText a = "0.0" → value a = 0.0) →
      e.eval sampler value = e'.eval sampler value) := by
  refine ⟨⟨fun h => ?_, Alike.render_eq⟩, fun h sampler value => h.eval_eq sampler⟩
  let word (a : α) : Word := ⟨(leafText a).toList, plain_iff.2 (hplain a)⟩
  have hw : ∀ a, (leafText a).toList = (word a).chars := fun a => rfl
  have htext : (e.chain word).text = (e'.chain word).text := by
    rw [← toList_render hw, ← toList_render hw, h]
  exact .of_chain_eq hw hinj (Chain.text_injective htext)

end Expr

/-- Expressions that differ by the place of one pair of parentheses, and a choice that stands for a
comparison. -/
theorem Expr.render_eq_iff_alike_grouped :
    let leafText : Fin 3 → String := fun
      | 0 => "temp_f32[0]"
      | 1 => "1.0"
      | 2 => "0.0"
    let x : Expr (Fin 3) := .leaf 0
    let one : Expr (Fin 3) := .leaf 1
    let zero : Expr (Fin 3) := .leaf 2
    Function.Injective leafText ∧ (∀ a, ∀ c ∈ (leafText a).toList, c ∉ dividers) ∧
    ¬ Alike leafText (.binary .sub (.binary .sub x one) x) (.binary .sub x (.binary .sub one x)) ∧
    ∀ (sampler : Sampler) (value : Fin 3 → Float32), value 1 = 1.0 → value 2 = 0.0 →
      (Expr.select x one zero).eval sampler value = (Expr.binary .lt x zero).eval sampler value := by
  intro leafText x one zero
  have hinj : ∀ a b, leafText a = leafText b → a = b := by decide +kernel
  have hwords : ∀ a, (leafText a).toList.all fun c => !dividers.contains c := by decide +kernel
  have hplain : ∀ a, ∀ c ∈ (leafText a).toList, c ∉ dividers := fun a => plain_iff.1 (hwords a)
  have hone : ∀ a, leafText a = "1.0" → a = 1 := by decide +kernel
  have hzero : ∀ a, leafText a = "0.0" → a = 2 := by decide +kernel
  refine ⟨hinj, hplain, ?_, ?_⟩
  · intro h
    have htext := (render_eq_iff_alike leafText hinj hplain _ _).1.2 h
    exact absurd htext (by decide +kernel)
  · intro sampler value h1 h2
    obtain ⟨hiff, heval⟩ := render_eq_iff_alike leafText hinj hplain (.select x one zero)
      (.binary .lt x zero)
    exact heval (hiff.1 (by decide +kernel)) sampler value (fun a ha => hone a ha ▸ h1)
      (fun a ha => hzero a ha ▸ h2)

end Lanewise
