set_option autoImplicit false

namespace Framecast

variable {α : Type} {l : List α} {x y : α} {i j : Nat}

theorem getElem?_concat_cases (at_j : (l ++ [x])[j]? = some y) :
    l[j]? = some y ∨ j = l.length ∧ y = x := by
  rcases Nat.lt_trichotomy j l.length with before | rfl | after
  · exact .inl (by rwa [List.getElem?_append_left before] at at_j)
  · exact .inr ⟨rfl, by simpa using at_j.symm⟩
  · rw [List.getElem?_eq_none (by rwa [List.length_append])] at at_j
    simp at at_j

theorem getElem?_of_concat (at_j : (l ++ [x])[j]? = some y) (other : x ≠ y) : l[j]? = some y :=
  (getElem?_concat_cases at_j).elim id fun last => absurd last.2.symm other

theorem getElem?_concat (at_j : l[j]? = some y) (x : α) : (l ++ [x])[j]? = some y := by
  obtain ⟨inside, -⟩ := List.getElem?_eq_some_iff.mp at_j
  rwa [List.getElem?_append_left inside]

theorem getElem?_of_set (at_j : (l.set i x)[j]? = some y) :
    (j = i ∧ y = x) ∨ (j ≠ i ∧ l[j]? = some y) := by
  rw [List.getElem?_set] at at_j
  split at at_j
  next same =>
    split at at_j
    next => exact .inl ⟨same.symm, (Option.some.inj at_j).symm⟩
    next => simp at at_j
  next other => exact .inr ⟨Ne.symm other, at_j⟩

end Framecast
