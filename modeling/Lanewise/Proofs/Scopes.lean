import Lanewise.Proofs.Names
import Mathlib.Data.Finset.Card
import Mathlib.Data.List.Find
import Mathlib.Data.List.TakeWhile

namespace Lanewise
set_option autoImplicit true

/-- A symbol with the depth of the scope that declares it. -/
def Symbol.atDepth (depth : Nat) (s : Symbol) : Symbol := { s with depth }

@[simp] theorem Symbol.name_atDepth (depth : Nat) (s : Symbol) :
    (s.atDepth depth).name = s.name := rfl

/-- Symbols as the constructors make them and the builders complete them. -/
inductive Symbol.Made : Symbol → Prop
  | ofVariable (name : String) (type : Option String) : Made (.ofVariable name type)
  | ofFunction (name : String) (type : Option String) (params : List String) :
      Made (.ofFunction name type params)
  | ofType (name : String) (signature : Signature) : Made (.ofType name signature)
  | withQualifier (qualifier : String) : Made s → Made (s.withQualifier qualifier)
  | withArraySize (size : Nat) : Made s → Made (s.withArraySize size)
  | withBaseType (type : String) : Made s → Made (s.withBaseType type)
  | withShownName (name : String) : Made s → Made (s.withShownName name)
  | withConstant (value : List Float32) : Made s → Made (s.withConstant value)

/-- Whether a symbol is a function of exactly these parameters. An empty list and one parameter of
type `void` are the same. -/
def Symbol.takes (args : List String) (s : Symbol) : Bool :=
  match s.meaning with
  | .func params => voidIfEmpty params == voidIfEmpty args
  | _ => false

theorem voidIfEmpty_idem (params : List String) :
    voidIfEmpty (voidIfEmpty params) = voidIfEmpty params := by
  cases params <;> rfl

theorem Symbol.Made.voidIfEmpty_eq {s : Symbol} (h : s.Made) (hm : s.meaning = .func params) :
    voidIfEmpty params = params := by
  induction h with
  | ofVariable => cases hm
  | ofFunction name type given =>
    cases hm
    exact voidIfEmpty_idem given
  | ofType => cases hm
  | withQualifier _ _ ih => exact ih hm
  | withArraySize _ _ ih => exact ih hm
  | withBaseType _ _ ih => exact ih hm
  | withShownName _ _ ih => exact ih hm
  | withConstant _ _ ih => exact ih hm

theorem Symbol.Made.params?_beq_eq_takes {s : Symbol} (h : s.Made) (args : List String) :
    (s.params? == some (voidIfEmpty args)) = s.takes args := by
  rw [params?, takes]
  cases hm : s.meaning with
  | var => rfl
  | func params =>
    have hp := h.voidIfEmpty_eq hm
    simp only [Option.some_beq_some, hp]
  | type signature => rfl

/-- What a client does with a symbol table. -/
inductive ScopeOp where
  | enter
  | leave
  | addVariable (name : String) (type : Option String)
  | addType (name : String) (signature : Signature)
  | addFunction (name : String) (type : Option String) (params : List String)
  | add (s : Symbol)

/-- What an operation declares, if it does not enter or leave a scope. -/
def ScopeOp.symbol? : ScopeOp → Option Symbol
  | .enter => none
  | .leave => none
  | .addVariable name type => some (.ofVariable name type)
  | .addType name signature => some (.ofType name signature)
  | .addFunction name type params => some (.ofFunction name type params)
  | .add s => some s

def SymbolTable.apply (table : SymbolTable) : ScopeOp → SymbolTable
  | .enter => table.pushScope
  | .leave => table.popScope
  | .addVariable name type => table.addVariable name type
  | .addType name signature => table.addType name signature
  | .addFunction name type params => table.addFunction name type params
  | .add s => table.add s

theorem SymbolTable.apply_of_symbol? (table : SymbolTable) {op : ScopeOp}
    (h : op.symbol? = some s) : table.apply op = table.add s := by
  cases op with
  | enter => cases h
  | leave => cases h
  | addVariable => cases h; rfl
  | addType => cases h; rfl
  | addFunction => cases h; rfl
  | add => cases h; rfl

/-- Nested scopes, each with its declarations, the newest first. One scope is always open. -/
structure Scopes where
  inner : List Symbol := []
  outer : List (List Symbol) := []

namespace Scopes

/-- The scopes from the inside out. -/
def toList (scopes : Scopes) : List (List Symbol) := scopes.inner :: scopes.outer

def enter (scopes : Scopes) : Scopes := ⟨[], scopes.toList⟩

/-- Closes the innermost scope. The last one is only emptied. -/
def leave (scopes : Scopes) : Scopes :=
  match scopes.outer with
  | [] => {}
  | inner :: outer => ⟨inner, outer⟩

def declare (scopes : Scopes) (s : Symbol) : Scopes := ⟨s :: scopes.inner, scopes.outer⟩

def apply (scopes : Scopes) : ScopeOp → Scopes
  | .enter => scopes.enter
  | .leave => scopes.leave
  | .addVariable name type => scopes.declare (.ofVariable name type)
  | .addType name signature => scopes.declare (.ofType name signature)
  | .addFunction name type params => scopes.declare (.ofFunction name type params)
  | .add s => scopes.declare s

/-- The newest of the wanted declarations in the innermost scope that has one, with the depth of
that scope. -/
def search (wanted : Symbol → Bool) : List (List Symbol) → Option Symbol
  | [] => none
  | scope :: outer =>
    match scope.find? wanted with
    | some s => some (s.atDepth outer.length)
    | none => search wanted outer

theorem search_congr (h : ∀ scope ∈ scopes, ∀ s ∈ scope, wanted s = wanted' s) :
    search wanted scopes = search wanted' scopes := by
  induction scopes with
  | nil => rfl
  | cons scope outer ih =>
    rw [List.forall_mem_cons] at h
    rw [search, search, List.find?_congr h.1, ih h.2]

/-- Whether all declarations are of symbols that the constructors and builders made. -/
def Made (scopes : Scopes) : Prop := ∀ scope ∈ scopes.toList, ∀ s ∈ scope, s.Made

theorem made_empty : Made {} := List.forall_mem_singleton.2 (List.forall_mem_nil _)

theorem Made.declare (h : Made scopes) {s : Symbol} (hs : s.Made) : (scopes.declare s).Made := by
  rw [Made, toList, List.forall_mem_cons] at h ⊢
  exact ⟨List.forall_mem_cons.2 ⟨hs, h.1⟩, h.2⟩

theorem Made.leave (h : Made scopes) : scopes.leave.Made := by
  have hout := (List.forall_mem_cons.1 h).2
  rw [Scopes.leave]
  cases ho : scopes.outer with
  | nil => exact made_empty
  | cons inner outer =>
    rw [ho] at hout
    exact hout

theorem Made.apply (h : Made scopes) {op : ScopeOp} (ho : ∀ s, op = .add s → s.Made) :
    (scopes.apply op).Made := by
  cases op with
  | enter => exact List.forall_mem_cons.2 ⟨List.forall_mem_nil _, h⟩
  | leave => exact h.leave
  | addVariable name type => exact h.declare (.ofVariable name type)
  | addType name signature => exact h.declare (.ofType name signature)
  | addFunction name type params => exact h.declare (.ofFunction name type params)
  | add s => exact h.declare (ho s rfl)

theorem Made.foldl (h : Made scopes) {ops : List ScopeOp} (ho : ∀ s, .add s ∈ ops → s.Made) :
    (ops.foldl Scopes.apply scopes).Made := by
  induction ops generalizing scopes with
  | nil => exact h
  | cons op ops ih =>
    apply ih
    · exact h.apply fun s hs => ho s (hs ▸ List.mem_cons_self)
    · intro s hs
      exact ho s (List.mem_cons_of_mem op hs)

/-- All declarations with the depths of their scopes, from the inside out. -/
def stamped : List (List Symbol) → List Symbol
  | [] => []
  | scope :: outer => scope.map (Symbol.atDepth outer.length) ++ stamped outer

theorem depth_lt_of_mem_stamped (h : s ∈ stamped scopes) : s.depth < scopes.length := by
  induction scopes with
  | nil => cases h
  | cons scope outer ih =>
    rcases List.mem_append.1 h with h | h
    · obtain ⟨t, _, rfl⟩ := List.mem_map.1 h
      exact Nat.lt_succ_self _
    · exact Nat.lt_succ_of_lt (ih h)

theorem mem_names_stamped {scopes : List (List Symbol)} :
    name ∈ (stamped scopes).map Symbol.name ↔ name ∈ scopes.flatten.map Symbol.name := by
  induction scopes with
  | nil => exact Iff.rfl
  | cons scope outer ih =>
    simp only [stamped, List.flatten_cons, List.map_append, List.map_map, List.mem_append, ih]
    exact Iff.rfl

/-- Searching scope by scope is searching all declarations, if depths do not matter. -/
theorem search_eq_find? (hw : ∀ depth s, wanted (Symbol.atDepth depth s) = wanted s)
    (scopes : List (List Symbol)) : search wanted scopes = (stamped scopes).find? wanted := by
  induction scopes with
  | nil => rfl
  | cons scope outer ih =>
    have hc : wanted ∘ Symbol.atDepth outer.length = wanted := funext fun s => hw outer.length s
    rw [search, stamped, List.find?_append, List.find?_map, hc, ih]
    cases scope.find? wanted <;> rfl

end Scopes

/-- The table holds for each name what the scopes declare under it. -/
structure SymbolTable.Represents (table : SymbolTable) (scopes : Scopes) : Prop extends
    table.Tidy where
  depth_eq : table.depth = scopes.outer.length
  declarations_eq_filter : ∀ name, table.declarations name =
    (Scopes.stamped scopes.toList).filter (·.name == name)

namespace SymbolTable.Represents

open Scopes

theorem empty : SymbolTable.Represents {} {} where
  toTidy := tidy_empty
  depth_eq := rfl
  declarations_eq_filter := fun _ => rfl

theorem enter {table : SymbolTable} (h : table.Represents scopes) :
    table.pushScope.Represents scopes.enter where
  toTidy := ⟨h.nodup, h.nonempty⟩
  depth_eq := congrArg (· + 1) h.depth_eq
  declarations_eq_filter := h.declarations_eq_filter

theorem add {table : SymbolTable} (h : table.Represents scopes) (s : Symbol) :
    (table.add s).Represents (scopes.declare s) where
  toTidy := h.toTidy.add s
  depth_eq := h.depth_eq
  declarations_eq_filter := by
    intro name
    have hs : stamped (scopes.declare s).toList =
        s.atDepth scopes.outer.length :: stamped scopes.toList := rfl
    have hp : table.place s = s.atDepth scopes.outer.length := by
      rw [place, h.depth_eq]
      rfl
    rw [declarations_add, h.declarations_eq_filter, hs, hp]
    by_cases hn : s.name = name
    · rw [if_pos hn, List.filter_cons_of_pos]
      exact beq_iff_eq.2 hn
    · rw [if_neg hn, List.filter_cons_of_neg]
      exact fun hb => hn (beq_iff_eq.1 hb)

/-- The stamps of the innermost scope are those that leaving it looks for; those further out are
smaller, so that it stops there. -/
theorem leave {table : SymbolTable} (h : table.Represents scopes) :
    table.popScope.Represents scopes.leave where
  toTidy := h.toTidy.popScope
  depth_eq := by
    rw [depth_popScope, h.depth_eq, Scopes.leave]
    cases scopes.outer <;> rfl
  declarations_eq_filter := by
    intro name
    have hs : stamped scopes.toList =
        scopes.inner.map (Symbol.atDepth scopes.outer.length) ++ stamped scopes.outer := rfl
    have hl : stamped scopes.leave.toList = stamped scopes.outer := by
      rw [Scopes.leave]
      cases scopes.outer <;> rfl
    rw [h.declarations_popScope, h.declarations_eq_filter, hs, hl, List.filter_append, h.depth_eq,
      List.dropWhile_append_of_pos]
    · apply List.dropWhile_eq_self_iff.2
      intro hpos hd
      have hm := List.mem_of_mem_filter (List.getElem_mem hpos)
      have hlt := depth_lt_of_mem_stamped hm
      exact Nat.ne_of_lt hlt (beq_iff_eq.1 hd)
    · intro s hm
      obtain ⟨t, _, rfl⟩ := List.mem_map.1 (List.mem_of_mem_filter hm)
      exact beq_self_eq_true _

theorem apply {table : SymbolTable} (h : table.Represents scopes) (op : ScopeOp) :
    (table.apply op).Represents (scopes.apply op) := by
  cases op with
  | enter => exact h.enter
  | leave => exact h.leave
  | addVariable name type => exact h.add _
  | addType name signature => exact h.add _
  | addFunction name type params => exact h.add _
  | add s => exact h.add s

theorem foldl {table : SymbolTable} (h : table.Represents scopes) (ops : List ScopeOp) :
    (ops.foldl SymbolTable.apply table).Represents (ops.foldl Scopes.apply scopes) := by
  induction ops generalizing table scopes with
  | nil => exact h
  | cons op ops ih => exact ih (h.apply op)

theorem size_eq {table : SymbolTable} (h : table.Represents scopes) :
    table.size = (scopes.toList.flatten.map Symbol.name).toFinset.card := by
  have hk : (table.names.map Prod.fst).toFinset =
      (scopes.toList.flatten.map Symbol.name).toFinset := by
    ext name
    rw [List.mem_toFinset, List.mem_toFinset, ← mem_names_stamped, h.mem_keys_iff,
      h.declarations_eq_filter]
    simp
  rw [← hk, List.toFinset_card_of_nodup h.nodup, List.length_map]
  rfl

theorem find?_eq_search {table : SymbolTable} (h : table.Represents scopes) {p : Symbol → Bool}
    (hp : ∀ depth s, p (Symbol.atDepth depth s) = p s) (name : String) :
    table.find? name p = search (fun s => s.name == name && p s) scopes.toList := by
  rw [search_eq_find? (by intro depth s; rw [hp, Symbol.name_atDepth]), find?,
    h.declarations_eq_filter, List.find?_filter]
  apply List.find?_congr
  intro s _
  rw [Bool.decide_and, Bool.decide_coe, Bool.decide_coe]

theorem get?_eq_search {table : SymbolTable} (h : table.Represents scopes) (name : String) :
    table.get? name = search (·.name == name) scopes.toList := by
  rw [search_eq_find? fun _ _ => rfl, get?, h.declarations_eq_filter, List.head?_filter]

theorem isDeclaredHere_iff {table : SymbolTable} (h : table.Represents scopes) (name : String) :
    table.isDeclaredHere name = true ↔ ∃ s ∈ scopes.inner, s.name = name := by
  rw [isDeclaredHere, h.get?_eq_search, toList, search]
  cases hf : scopes.inner.find? (·.name == name) with
  | some s =>
    have hs := List.find?_some hf
    have hd : (s.atDepth scopes.outer.length).depth = table.depth := h.depth_eq.symm
    simp only [hd, beq_self_eq_true, true_iff]
    exact ⟨s, List.mem_of_find?_eq_some hf, beq_iff_eq.1 hs⟩
  | none =>
    have hinner : ¬ ∃ s ∈ scopes.inner, s.name = name := by
      intro ⟨s, hs, hn⟩
      exact List.find?_eq_none.1 hf s hs (beq_iff_eq.2 hn)
    refine iff_of_false ?_ hinner
    rw [search_eq_find? fun _ _ => rfl]
    cases ho : (stamped scopes.outer).find? (·.name == name) with
    | none => exact Bool.false_ne_true
    | some s =>
      have hlt := depth_lt_of_mem_stamped (List.mem_of_find?_eq_some ho)
      rw [← h.depth_eq] at hlt
      intro hd
      exact Nat.ne_of_lt hlt (beq_iff_eq.1 hd)

end SymbolTable.Represents

/-- A symbol table answers as nested scopes do, whatever has been done with it. For a function with
given parameters that takes symbols as the constructors and builders make them. -/
theorem SymbolTable.answers_as_scopes (ops : List ScopeOp) :
    let table := ops.foldl SymbolTable.apply {}
    let scopes := ops.foldl Scopes.apply {}
    table.depth = scopes.toList.length - 1 ∧
    table.size = (scopes.toList.flatten.map Symbol.name).toFinset.card ∧
    ∀ name,
      (table.isDeclaredHere name = true ↔ ∃ s ∈ scopes.inner, s.name = name) ∧
      table.get? name = Scopes.search (·.name == name) scopes.toList ∧
      table.getVariable? name =
        Scopes.search (fun s => s.name == name && s.isVariable) scopes.toList ∧
      table.getType? name = Scopes.search (fun s => s.name == name && s.isType) scopes.toList ∧
      table.getFunction? name none =
        Scopes.search (fun s => s.name == name && s.isFunction) scopes.toList ∧
      ((∀ s, .add s ∈ ops → s.Made) → ∀ args, table.getFunction? name (some args) =
        Scopes.search (fun s => s.name == name && s.takes args) scopes.toList) := by
  intro table scopes
  have h : table.Represents scopes := Represents.empty.foldl ops
  refine ⟨h.depth_eq, h.size_eq, fun name => ⟨h.isDeclaredHere_iff name, h.get?_eq_search name,
    h.find?_eq_search (fun _ _ => rfl) name, h.find?_eq_search (fun _ _ => rfl) name,
    h.find?_eq_search (fun _ _ => rfl) name, fun hops args => ?_⟩⟩
  have hmade : scopes.Made := Scopes.made_empty.foldl hops
  have hf : table.getFunction? name (some args) = _ := h.find?_eq_search (fun _ _ => rfl) name
  rw [hf]
  apply Scopes.search_congr
  intro scope hscope s hs
  rw [(hmade scope hscope s hs).params?_beq_eq_takes]

/-- A function without parameters, hidden by one of the same name that takes one. -/
theorem SymbolTable.answers_as_scopes_overloaded :
    let outer := Symbol.ofFunction "f" (some "float") []
    let inner := (Symbol.ofFunction "f" none ["int"]).withQualifier "const"
    let ops : List ScopeOp := [.add outer, .enter, .add inner]
    let table := ops.foldl SymbolTable.apply {}
    (∀ s, .add s ∈ ops → s.Made) ∧ table.getFunction? "f" none = some { inner with depth := 1 } ∧
    table.getFunction? "f" (some ["void"]) = some outer := by
  intro outer inner ops table
  have hmade : ∀ s, .add s ∈ ops → s.Made := by
    intro s hs
    obtain rfl | rfl : s = outer ∨ s = inner := by simpa [ops] using hs
    · exact .ofFunction _ _ _
    · exact .withQualifier _ (.ofFunction _ _ _)
  obtain ⟨_, _, hanswers⟩ := SymbolTable.answers_as_scopes ops
  obtain ⟨_, _, _, _, hany, hfunction⟩ := hanswers "f"
  exact ⟨hmade, hany, hfunction hmade ["void"]⟩

end Lanewise
