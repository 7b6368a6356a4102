/-!
# List lemmas

Lemmas about a list of which one element is replaced, and about lists that are put
together or read element by element.
-/

namespace List

variable {α β : Type}

/-! ## One element is replaced -/

/-- A count loses the old element, and gains the new one. -/
theorem countP_set_add {p : α → Bool} {l : List α} {i : Nat} {a : α} (h : l[i]? = some a)
    (b : α) :
    (l.set i b).countP p + (if p a then 1 else 0) = l.countP p + if p b then 1 else 0 := by
  induction l generalizing i with
  | nil => cases h
  | cons x l ih =>
    cases i with
    | zero =>
      cases h
      rw [set_cons_zero, countP_cons, countP_cons]
      omega
    | succ i =>
      have hrest := ih h
      rw [set_cons_succ, countP_cons, countP_cons]
      omega

/-- What is the same for the new element is the same for the list. -/
theorem map_set_of_eq {l : List α} {i : Nat} {a b : α} {f : α → β} (h : l[i]? = some a)
    (hf : f b = f a) : (l.set i b).map f = l.map f := by
  obtain ⟨hlt, rfl⟩ := getElem?_eq_some_iff.mp h
  rw [map_set, hf, ← getElem_map f (h := by simpa using hlt), set_getElem_self]

theorem map_modify_of_eq {l : List α} {i : Nat} {f : α → β} {g : α → α}
    (h : ∀ a, l[i]? = some a → f (g a) = f a) : (l.modify i g).map f = l.map f := by
  apply ext_getElem?
  intro j
  rw [getElem?_map, getElem?_map, getElem?_modify]
  cases hj : l[j]? with
  | none => rfl
  | some a =>
    by_cases hij : i = j
    · subst hij
      simp [h a hj]
    · simp [hij]

theorem modify_concat (l : List α) (x : α) (f : α → α) :
    (l ++ [x]).modify l.length f = l ++ [f x] :=
  modifyTailIdx_add (modifyHead f) 0 l [x]

/-- An element of a list with one more is one of the list, or that one. -/
theorem getElem?_concat_cases {l : List α} {a b : α} {k : Nat}
    (h : (l ++ [a])[k]? = some b) : l[k]? = some b ∨ (k = l.length ∧ a = b) := by
  rw [getElem?_append] at h
  split at h
  next => exact .inl h
  next hge =>
    rw [getElem?_singleton] at h
    split at h
    next hzero => exact .inr ⟨by omega, Option.some.inj h⟩
    next => cases h

/-! ## Joined lists, and lists that are read -/

/-- An element of a joined list is the separator, or one of a piece. -/
theorem mem_of_mem_intercalate {a sep : α} {pieces : List (List α)}
    (h : a ∈ [sep].intercalate pieces) : a = sep ∨ ∃ piece ∈ pieces, a ∈ piece := by
  induction pieces with
  | nil => cases h
  | cons piece pieces ih =>
    by_cases hlast : pieces = []
    · subst hlast
      rw [intercalate_singleton] at h
      exact .inr ⟨piece, mem_cons_self, h⟩
    · rw [intercalate_cons_of_ne_nil hlast] at h
      rcases mem_append.mp h with h | h
      · rcases mem_append.mp h with h | h
        · exact .inr ⟨piece, mem_cons_self, h⟩
        · exact .inl (mem_singleton.mp h)
      · obtain hsep | ⟨other, hother, ha⟩ := ih h
        · exact .inl hsep
        · exact .inr ⟨other, mem_cons_of_mem _ hother, ha⟩

/-- What is read of a list is still read where its elements are. -/
theorem mapM_mono {f g : α → Option β} (h : ∀ x y, f x = some y → g x = some y)
    {xs : List α} {ys : List β} (hf : xs.mapM f = some ys) : xs.mapM g = some ys := by
  induction xs generalizing ys with
  | nil => exact hf
  | cons x xs ih =>
    simp only [mapM_cons, Option.bind_eq_bind, Option.bind_eq_some_iff] at hf ⊢
    obtain ⟨y, hy, rest, hrest, heq⟩ := hf
    exact ⟨y, h x y hy, rest, ih hrest, heq⟩

end List
