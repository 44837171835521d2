import Mathlib.Data.List.Forall2

namespace InsertRouting

/-!
# Related lists

Two lists are related item by item.  What is found in one of them at a position, as a
member or by a test is related to what is found in the other one in the same way.
-/

section Related

variable {α β : Type} {related : α → β → Prop} {items : List α} {others : List β}

/-- Related lists have related items at every position. -/
theorem exists_getElem?_of_forall₂ (hrelated : List.Forall₂ related items others) {i : Nat}
    {item : α} (hitem : items[i]? = some item) :
    ∃ other, others[i]? = some other ∧ related item other := by
  obtain ⟨hlength, hget⟩ := List.forall₂_iff_get.1 hrelated
  obtain ⟨hlt, rfl⟩ := List.getElem?_eq_some_iff.1 hitem
  have hlt' : i < others.length := by
    rw [← hlength]
    exact hlt
  exact ⟨others[i], List.getElem?_eq_getElem hlt', hget i hlt hlt'⟩

theorem exists_getElem?_of_forall₂_right (hrelated : List.Forall₂ related items others)
    {i : Nat} {other : β} (hother : others[i]? = some other) :
    ∃ item, items[i]? = some item ∧ related item other :=
  exists_getElem?_of_forall₂ hrelated.flip hother

theorem exists_mem_of_forall₂_right (hrelated : List.Forall₂ related items others) {other : β}
    (hmem : other ∈ others) : ∃ item ∈ items, related item other := by
  obtain ⟨i, hother⟩ := List.mem_iff_getElem?.1 hmem
  obtain ⟨item, hitem, hpair⟩ := exists_getElem?_of_forall₂_right hrelated hother
  exact ⟨item, List.mem_of_getElem? hitem, hpair⟩

theorem forall₂_self {same : α → α → Prop} (hself : ∀ item, same item item)
    (items : List α) : List.Forall₂ same items items :=
  List.forall₂_same.2 fun item _ => hself item

/-- What follows for related items follows for the lists; the items of the first list can be
used. -/
theorem forall₂_imp_of_mem {implied : α → β → Prop}
    (hrelated : List.Forall₂ related items others)
    (himplied : ∀ item ∈ items, ∀ other, related item other → implied item other) :
    List.Forall₂ implied items others := by
  induction hrelated with
  | nil => exact .nil
  | cons hpair _ ih =>
      obtain ⟨hfirst, hrest⟩ := List.forall_mem_cons.1 himplied
      exact .cons (hfirst _ hpair) (ih hrest)

/-- Related lists stay related when they are paired with the same items. -/
theorem forall₂_zip {γ : Type} (firsts : List γ)
    (hrelated : List.Forall₂ related items others) :
    List.Forall₂ (fun pair otherPair => pair.1 = otherPair.1 ∧ related pair.2 otherPair.2)
      (firsts.zip items) (firsts.zip others) := by
  induction hrelated generalizing firsts with
  | nil =>
      rw [List.zip_nil_right, List.zip_nil_right]
      exact .nil
  | cons hpair _ ih =>
      cases firsts with
      | nil => exact .nil
      | cons first firsts => exact .cons ⟨rfl, hpair⟩ (ih firsts)

theorem getLast?_of_forall₂ (hrelated : List.Forall₂ related items others) :
    Option.Rel related items.getLast? others.getLast? := by
  have hreverse := List.rel_reverse hrelated
  rw [List.getLast?_eq_head?_reverse, List.getLast?_eq_head?_reverse]
  generalize items.reverse = first, others.reverse = second at hreverse ⊢
  cases hreverse with
  | nil => exact .none
  | cons hpair _ => exact .some hpair

theorem optionRel_flip {back : β → α → Prop}
    (hflip : ∀ item other, related item other → back other item) {item : Option α}
    {other : Option β} (hpair : Option.Rel related item other) :
    Option.Rel back other item := by
  cases hpair with
  | none => exact .none
  | some hpair => exact .some (hflip _ _ hpair)

theorem eq_some_of_optionRel {item : Option α} {other : β}
    (hpair : Option.Rel related item (some other)) :
    ∃ found, item = some found ∧ related found other := by
  cases hpair with
  | some hrelated => exact ⟨_, rfl, hrelated⟩

theorem eq_none_of_optionRel {item : Option α}
    (hpair : Option.Rel related item (none : Option β)) : item = none := by
  cases hpair
  rfl

/-- Tests that agree on related items find related items. -/
theorem find?_of_forall₂ {test : α → Bool} {otherTest : β → Bool}
    (htests : ∀ item other, related item other → test item = otherTest other)
    (hrelated : List.Forall₂ related items others) :
    Option.Rel related (items.find? test) (others.find? otherTest) := by
  induction hrelated with
  | nil => exact .none
  | @cons item other _ _ hpair _ ih =>
      rw [List.find?_cons, List.find?_cons, htests item other hpair]
      cases otherTest other with
      | true => exact .some hpair
      | false => exact ih

end Related

end InsertRouting
