import Lanewise.Json.Reader
import Lanewise.Proofs.Lexing

namespace Lanewise.Json
set_option autoImplicit true

/-- The first item of an array is read like any other. -/
theorem read_firstItem (value : Json) (items : List Json) (frames : List Frame) :
    (tokens value).foldlM readToken (.firstItem, .array items :: frames) =
      (tokens value).foldlM readToken (.value, .array items :: frames) := by
  cases value with
  | null | bool | number | string => rfl
  | array items => cases items <;> rfl
  | object fields =>
    cases fields with
    | nil => rfl
    | cons field fields =>
      obtain ⟨key, value⟩ := field
      rfl

theorem read_tailTokens {items : List Json} (h : ∀ item ∈ items, ∀ frames,
      (tokens item).foldlM readToken (.value, frames) = deliver item frames) (before : List Json)
    (frames : List Frame) :
    (tailTokens items).foldlM readToken (.separator, .array before :: frames) =
      some (.separator, .array (items.reverse ++ before) :: frames) := by
  induction items generalizing before with
  | nil => rfl
  | cons item items ih =>
    rw [List.forall_mem_cons] at h
    have hitem := h.1 (.array before :: frames)
    have htail := ih h.2 (item :: before)
    rw [tailTokens, List.foldlM_cons]
    change (tokens item ++ tailTokens items).foldlM readToken (.value, .array before :: frames) = _
    rw [List.foldlM_append, hitem, List.reverse_cons, List.append_assoc]
    exact htail

theorem read_fieldTokens {fields : List (Option String × Json)} (h : ∀ field ∈ fields, ∀ frames,
      (tokens field.2).foldlM readToken (.value, frames) = deliver field.2 frames)
    (before : List (Option String × Json)) (frames : List Frame) :
    (fieldTokens fields).foldlM readToken (.separator, .object before :: frames) =
      some (.separator, .object (fields.reverse ++ before) :: frames) := by
  induction fields generalizing before with
  | nil => rfl
  | cons field fields ih =>
    obtain ⟨key, value⟩ := field
    rw [List.forall_mem_cons] at h
    have hvalue := h.1 (.field before key :: frames)
    have htail := ih h.2 ((key, value) :: before)
    rw [fieldTokens]
    change (tokens value ++ fieldTokens fields).foldlM readToken (.value, .field before key :: frames) = _
    rw [List.foldlM_append, hvalue, List.reverse_cons, List.append_assoc]
    exact htail

/-- Reading the words of a value puts it into the innermost open container. -/
theorem Readable.read_tokens (h : Readable value) (frames : List Frame) :
    (tokens value).foldlM readToken (.value, frames) = deliver value frames := by
  induction h generalizing frames with
  | null | bool | number | string => exact Option.bind_fun_some _
  | @array items _ ih =>
    cases items with
    | nil => exact Option.bind_fun_some _
    | cons item items =>
      rw [List.forall_mem_cons] at ih
      have hitem := (read_firstItem item [] frames).trans (ih.1 (.array [] :: frames))
      have htail := read_tailTokens ih.2 [item] frames
      rw [tokens, List.foldlM_cons]
      change (tokens item ++ tailTokens items ++ [Token.closeBracket]).foldlM readToken
        (.firstItem, .array [] :: frames) = _
      simp only [List.foldlM_append, hitem, deliver, Option.bind_eq_bind, Option.bind_some, htail]
      rw [← List.reverse_cons, List.foldlM_cons, readToken, List.reverse_reverse]
      exact Option.bind_fun_some _
  | @object fields _ _ ih =>
    cases fields with
    | nil => exact Option.bind_fun_some _
    | cons field fields =>
      obtain ⟨key, value⟩ := field
      rw [List.forall_mem_cons] at ih
      have hvalue := ih.1 (.field [] key :: frames)
      have htail := read_fieldTokens ih.2 [(key, value)] frames
      rw [tokens]
      change (tokens value ++ fieldTokens fields ++ [Token.closeBrace]).foldlM readToken
        (.value, .field [] key :: frames) = _
      simp only [List.foldlM_append, hvalue, deliver, Option.bind_eq_bind, Option.bind_some, htail]
      rw [← List.reverse_cons, List.foldlM_cons, readToken, List.reverse_reverse]
      exact Option.bind_fun_some _

/-- A value is read back from its text. -/
theorem Readable.parse_render (h : Readable value) : parse value.render = some value := by
  rw [parse, render, String.toList_ofList, h.spells.tokens?_eq]
  change ofTokens? (tokens value) = _
  rw [ofTokens?, h.read_tokens]
  rfl

end Lanewise.Json
