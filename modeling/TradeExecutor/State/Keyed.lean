import TradeExecutor.State.Exec

/-! # Ordered dictionaries as keyed lists

The source keeps positions, reserves and trades in dictionaries keyed by id or
address and mutates the object a lookup returned. A dictionary is a list here; a
lookup is the first element with the key (`List.find?`) and a mutation rewrites
that same element (`TradeExecutor.updateByKey`), so a lookup after a mutation
sees it and a lookup of another key does not.
-/

namespace TradeExecutor

variable {α κ : Type} [DecidableEq κ]

/-- Rewrite the first element whose key is `k`. -/
def updateByKey (key : α → κ) (k : κ) (f : α → α) : List α → List α
  | [] => []
  | x :: xs => if key x = k then f x :: xs else x :: updateByKey key k f xs

section

variable {key : α → κ} {k : κ} {f : α → α}

/-- Rewriting an element keeps the keys of the list. -/
theorem map_key_updateByKey (keeps : ∀ x, key (f x) = key x) (l : List α) :
    (updateByKey key k f l).map key = l.map key := by
  induction l with
  | nil => rfl
  | cons x xs ih =>
    unfold updateByKey
    split <;> simp [keeps, ih]

/-- The lookup of the rewritten key sees the rewrite. -/
theorem find?_updateByKey_self (keeps : ∀ x, key (f x) = key x) (l : List α) :
    (updateByKey key k f l).find? (fun x => key x = k) =
      (l.find? (fun x => key x = k)).map f := by
  induction l with
  | nil => rfl
  | cons x xs ih =>
    unfold updateByKey
    by_cases same : key x = k <;> simp [same, keeps, ih]

/-- The lookup of another key does not see the rewrite. -/
theorem find?_updateByKey_of_ne (keeps : ∀ x, key (f x) = key x) {k' : κ} (other : k' ≠ k)
    (l : List α) :
    (updateByKey key k f l).find? (fun x => key x = k') = l.find? (fun x => key x = k') := by
  induction l with
  | nil => rfl
  | cons x xs ih =>
    unfold updateByKey
    by_cases same : key x = k
    · have : key x ≠ k' := fun h => other (h.symm.trans same)
      rw [if_pos same]
      simp only [List.find?_cons, keeps, this, decide_False]
    · by_cases found : key x = k' <;> simp [same, found, other, ih]

/-- A rewrite that keeps a predicate and a projection keeps what any lookup by that
predicate projects. -/
theorem find?_updateByKey_map {β : Type} {q : α → Bool} {g : α → β} (keepsQ : ∀ x, q (f x) = q x)
    (keepsG : ∀ x, g (f x) = g x) (l : List α) :
    ((updateByKey key k f l).find? q).map g = (l.find? q).map g := by
  induction l with
  | nil => rfl
  | cons x xs ih =>
    unfold updateByKey
    split
    · by_cases found : q x <;> simp [List.find?_cons, keepsQ, keepsG, found]
    · by_cases found : q x <;> simp [List.find?_cons, found, ih]

/-- Rewriting an element keeps the length of the list. -/
@[simp] theorem length_updateByKey (l : List α) : (updateByKey key k f l).length = l.length := by
  induction l with
  | nil => rfl
  | cons x xs ih =>
    unfold updateByKey
    split <;> simp [ih]

/-- No element has a key absent from the list's keys. -/
theorem find?_key_eq_none (l : List α) (absent : k ∉ l.map key) :
    l.find? (fun x => key x = k) = none := by
  rw [List.find?_eq_none]
  intro x member same
  exact absent (List.mem_map.mpr ⟨x, member, of_decide_eq_true same⟩)

/-- Some element has a key present among the list's keys. -/
theorem find?_key_isSome (l : List α) (present : k ∈ l.map key) :
    (l.find? (fun x => key x = k)).isSome := by
  obtain ⟨x, member, rfl⟩ := List.mem_map.mp present
  exact List.find?_isSome.mpr ⟨x, member, by simp⟩

/-- A key absent from the list leaves it unchanged. -/
theorem updateByKey_of_not_mem (l : List α) (absent : k ∉ l.map key) :
    updateByKey key k f l = l := by
  induction l with
  | nil => rfl
  | cons x xs ih =>
    simp only [List.map_cons, List.mem_cons, not_or] at absent
    simp [updateByKey, Ne.symm absent.1, ih absent.2]

/-- On a list whose keys are distinct, rewriting the element of a key rewrites every
element with that key. -/
theorem updateByKey_eq_map {l : List α} (distinct : (l.map key).Nodup) :
    updateByKey key k f l = l.map fun x => if key x = k then f x else x := by
  induction l with
  | nil => rfl
  | cons x xs ih =>
    simp only [List.map_cons, List.nodup_cons, List.mem_map] at distinct
    by_cases same : key x = k
    · have others : ∀ y ∈ xs, key y ≠ k := fun y member hy =>
        distinct.1 ⟨y, member, hy.trans same.symm⟩
      simp only [updateByKey, same, if_true, List.map_cons, List.cons.injEq, true_and]
      exact (List.map_congr_left fun y member => if_neg (others y member)).trans (List.map_id _) |>.symm
    · simp [updateByKey, same, ih distinct.2]

/-- Rewriting a key of a concatenation rewrites it in the first part that has it. -/
theorem updateByKey_append (l₁ l₂ : List α) :
    updateByKey key k f (l₁ ++ l₂) =
      if k ∈ l₁.map key then updateByKey key k f l₁ ++ l₂ else l₁ ++ updateByKey key k f l₂ := by
  induction l₁ with
  | nil => simp [updateByKey]
  | cons x xs ih =>
    by_cases same : key x = k
    · simp [updateByKey, same]
    · have keys : k ∈ (x :: xs).map key ↔ k ∈ xs.map key := by
        simp only [List.map_cons, List.mem_cons, or_iff_right (Ne.symm same)]
      rw [List.cons_append, updateByKey, if_neg same, ih]
      simp only [keys]
      split_ifs <;> simp [updateByKey, same]

/-- Two rewrites of one key, the first keeping keys, are one rewrite. -/
theorem updateByKey_updateByKey {g : α → α} (keeps : ∀ x, key (f x) = key x) (l : List α) :
    updateByKey key k g (updateByKey key k f l) = updateByKey key k (g ∘ f) l := by
  induction l with
  | nil => rfl
  | cons x xs ih => by_cases same : key x = k <;> simp [updateByKey, same, keeps, ih]

/-- Changing every element of a key absent from the list changes nothing. -/
theorem map_ite_of_not_mem {l : List α} (absent : k ∉ l.map key) :
    (l.map fun x => if key x = k then f x else x) = l := by
  refine (List.map_congr_left fun x member => if_neg ?_).trans (List.map_id _)
  exact fun same => absent (List.mem_map.mpr ⟨x, member, same⟩)

/-- In a list with distinct keys, the lookup of a member's key finds that member. -/
theorem find?_key_of_mem {l : List α} (distinct : (l.map key).Nodup) {x : α} (member : x ∈ l) :
    l.find? (fun y => key y = key x) = some x := by
  induction l with
  | nil => cases member
  | cons y ys ih =>
    simp only [List.map_cons, List.nodup_cons, List.mem_map] at distinct
    rcases List.mem_cons.mp member with rfl | later
    · simp
    · have : key y ≠ key x := fun same => distinct.1 ⟨x, later, same.symm⟩
      simp [List.find?_cons, this, ih distinct.2 later]

/-- Python's `d[key(x)] = x` on a dictionary kept as the list of its values:
overwrite the value of that key, or append. -/
def setByKey (key : α → κ) (x : α) (l : List α) : List α :=
  if key x ∈ l.map key then updateByKey key (key x) (fun _ => x) l else l ++ [x]

/-- Setting a fresh key appends. -/
theorem setByKey_of_not_mem {l : List α} {x : α} (fresh : key x ∉ l.map key) :
    setByKey key x l = l ++ [x] := by
  simp [setByKey, fresh]

end

/-- Python's `d[k] = v` on a dictionary: overwrite the entry of `k`, or append one. -/
def dictSet {β : Type} (d : List (κ × β)) (k : κ) (v : β) : List (κ × β) :=
  if k ∈ d.map Prod.fst then updateByKey Prod.fst k (fun _ => (k, v)) d else d ++ [(k, v)]

/-- Setting a fresh key appends its entry and overwrites nothing. -/
theorem dictSet_of_not_mem {β : Type} {d : List (κ × β)} {k : κ} (fresh : k ∉ d.map Prod.fst)
    (v : β) : dictSet d k v = d ++ [(k, v)] := by
  simp [dictSet, fresh]

section DictSet

variable {β : Type} (k : κ) (v : β)

theorem dictSet_nil : dictSet ([] : List (κ × β)) k v = [(k, v)] := rfl

/-- `d[k] = v` walks the entries: it overwrites the first entry of `k`, or appends. -/
theorem dictSet_cons (x : κ × β) (d : List (κ × β)) :
    dictSet (x :: d) k v = if x.1 = k then (k, v) :: d else x :: dictSet d k v := by
  by_cases same : x.1 = k
  · simp [dictSet, updateByKey, same]
  · by_cases present : k ∈ d.map Prod.fst <;> simp [dictSet, updateByKey, same, present, Ne.symm same]

/-- The keys after `d[k] = v`: unchanged when `k` was a key, `k` appended otherwise. -/
theorem keys_dictSet (d : List (κ × β)) :
    (dictSet d k v).map Prod.fst = if k ∈ d.map Prod.fst then d.map Prod.fst else d.map Prod.fst ++ [k] := by
  induction d with
  | nil => rfl
  | cons x d ih =>
    rw [dictSet_cons]
    by_cases same : x.1 = k
    · simp [same]
    · by_cases present : k ∈ d.map Prod.fst <;> simp_all [Ne.symm same]

/-- A lookup after `d[k] = v` finds `(k, v)` for `k` and what it found before otherwise. -/
theorem find?_dictSet (k' : κ) (d : List (κ × β)) :
    (dictSet d k v).find? (fun e => e.1 = k') =
      if k = k' then some (k, v) else d.find? (fun e => e.1 = k') := by
  induction d with
  | nil => by_cases same : k = k' <;> simp [dictSet_nil, same]
  | cons x d ih =>
    rw [dictSet_cons]
    by_cases same : x.1 = k
    · by_cases other : k = k' <;> simp [same, other]
    · by_cases found : x.1 = k'
      · have other : k ≠ k' := fun h => same (found.trans h.symm)
        simp [same, found, other, Ne.symm other]
      · simp [same, found, ih]

end DictSet

end TradeExecutor
