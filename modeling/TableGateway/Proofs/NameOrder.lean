import Mathlib.Data.List.Induction
import Mathlib.Data.List.Nodup
import Mathlib.Data.String.Basic
import Mathlib.Tactic.Use
import TableGateway.NameOrder

/-!
# What is collected in order of names

Of the elements that are collected in order of their names, the last of each name is kept,
and so it does not matter in which order elements of different names are collected. Where names
are kept in order of first appearance, the first of equal ones is kept instead. Names that are
sorted are all kept.
-/

namespace TableGateway

/-! ### Names in order of first appearance -/

/-- Names that are dropped may be dropped before repeated ones are. -/
theorem eraseDups_filter (names : List String) (p : String → Bool) :
  (names.filter p).eraseDups = names.eraseDups.filter p
  := by
  induction names generalizing p with
  | nil => rfl
  | cons name rest ih =>
      rw [List.filter_cons, List.eraseDups_cons, List.filter_cons]
      split
      · rw [List.eraseDups_cons, List.filter_filter, ih, ih, List.filter_filter]
        simp only [Bool.and_comm]
      · rename_i hp
        rw [ih, ih, List.filter_filter]
        -- A name that is kept differs from the one that is dropped.
        apply List.filter_congr
        intro other _
        cases hother : p other with
        | false => rfl
        | true =>
            have hne : other ≠ name := by
              rintro rfl
              apply hp hother
            simpa using hne

/-- Keeping the first of equal names leaves no two of them equal. -/
theorem nodup_eraseDups (names : List String) :
  names.eraseDups.Nodup
  := by
  induction names with
  | nil => exact .nil
  | cons name rest ih =>
      rw [List.eraseDups_cons, eraseDups_filter, List.nodup_cons]
      constructor
      · simp
      · apply ih.filter

/-- Different names are all kept. -/
theorem eraseDups_of_nodup {names : List String} (h : names.Nodup) :
  names.eraseDups = names
  := by
  induction names with
  | nil => rfl
  | cons name rest ih =>
      rw [List.nodup_cons] at h
      rw [List.eraseDups_cons, eraseDups_filter, ih h.2, List.filter_eq_self.mpr]
      intro other hother
      rw [Bool.not_eq_true', beq_eq_false_iff_ne]
      rintro rfl
      apply h.1 hother

/-- One more name is kept if it is new. -/
theorem eraseDups_append_singleton (names : List String) (name : String) :
  (names ++ [name]).eraseDups
    = if name ∈ names then names.eraseDups else names.eraseDups ++ [name]
  := by
  rw [List.eraseDups_append, List.removeAll]
  by_cases h : name ∈ names
  · rw [List.filter_cons_of_neg (by simpa using h), if_pos h]
    simp
  · rw [List.filter_cons_of_pos (by simpa using h), if_neg h]
    simp [List.eraseDups_cons]

namespace NameOrder

/-! ### Elements in order of their names -/

variable {α : Type} {name : α → String}

/-- One more element is kept with those of other names. -/
theorem mem_insert_iff
    {x y : α} {sorted : List α} (h : sorted.Pairwise (name · < name ·)) :
  y ∈ insert name x sorted ↔ y = x ∨ y ∈ sorted ∧ name y ≠ name x
  := by
  induction sorted with
  | nil => simp [insert]
  | cons first rest ih =>
      rw [List.pairwise_cons] at h
      rw [insert]
      split
      · -- The names of all the others are greater.
        rename_i hlt
        have hother : ∀ y ∈ first :: rest, name y ≠ name x := by
          intro y hy heq
          rw [← heq] at hlt
          rcases List.mem_cons.mp hy with rfl | hy
          · apply String.lt_irrefl _ hlt
          · apply String.lt_irrefl _ (String.lt_trans hlt (h.1 y hy))
        rw [List.mem_cons]
        apply or_congr_right
        constructor
        · intro hy
          use hy, hother y hy
        · rintro ⟨hy, -⟩
          apply hy
      · split
        · rename_i heq
          have hother : ∀ y ∈ rest, name y ≠ name x := by
            intro y hy hsame
            have hlt := h.1 y hy
            rw [hsame, heq] at hlt
            apply String.lt_irrefl _ hlt
          rw [List.mem_cons, List.mem_cons]
          apply or_congr_right
          constructor
          · intro hy
            use .inr hy, hother y hy
          · rintro ⟨rfl | hy, hne⟩
            · cases hne heq.symm
            · apply hy
        · rename_i hne
          rw [List.mem_cons, List.mem_cons, ih h.2]
          constructor
          · rintro (rfl | rfl | ⟨hy, hname⟩)
            · right
              use .inl rfl, Ne.symm hne
            · left
              rfl
            · right
              use .inr hy, hname
          · rintro (rfl | ⟨rfl | hy, hname⟩)
            · right
              left
              rfl
            · left
              rfl
            · right
              right
              use hy, hname

/-- The last element of each name is kept. -/
theorem mem_collect_iff {x : α} {xs : List α} :
  x ∈ collect name xs
    ↔ ∃ before after, xs = before ++ x :: after ∧ ∀ other ∈ after, name other ≠ name x
  := by
  induction xs using List.reverseRecOn with
  | nil => simp [collect]
  | append_singleton xs last ih =>
      have hcollect : collect name (xs ++ [last]) = insert name last (collect name xs) := by
        simp [collect]
      rw [hcollect, mem_insert_iff (pairwise_collect xs), ih]
      constructor
      · rintro (rfl | ⟨⟨before, after, rfl, hafter⟩, hname⟩)
        · use xs, []
          simp
        · use before, after ++ [last]
          constructor
          · simp
          · rw [List.forall_mem_append, List.forall_mem_singleton]
            use hafter, Ne.symm hname
      · rintro ⟨before, after, hsplit, hafter⟩
        cases after using List.reverseRecOn with
        | nil =>
            left
            apply (List.append_singleton_inj.mp hsplit).2.symm
        | append_singleton after other =>
            rw [← List.cons_append, ← List.append_assoc, List.append_singleton_inj] at hsplit
            obtain ⟨rfl, rfl⟩ := hsplit
            rw [List.forall_mem_append, List.forall_mem_singleton] at hafter
            right
            use ⟨before, after, rfl, hafter.1⟩, Ne.symm hafter.2

/-- All elements are kept if their names are different. -/
theorem mem_collect_of_nodup {x : α} {xs : List α} (h : (xs.map name).Nodup) :
  x ∈ collect name xs ↔ x ∈ xs
  := by
  rw [mem_collect_iff]
  constructor
  · rintro ⟨before, after, rfl, -⟩
    simp
  · intro hx
    obtain ⟨before, after, rfl⟩ := List.append_of_mem hx
    use before, after, rfl
    intro other hother heq
    rw [List.map_append, List.map_cons, List.nodup_append, List.nodup_cons] at h
    apply h.2.1.1
    rw [← heq]
    apply List.mem_map_of_mem hother

/-- An element of a greater name than all others comes last. -/
theorem insert_eq_append {x : α} {sorted : List α} (h : ∀ y ∈ sorted, name y < name x) :
  insert name x sorted = sorted ++ [x]
  := by
  induction sorted with
  | nil => rfl
  | cons first rest ih =>
      rw [List.forall_mem_cons] at h
      rw [insert, if_neg, if_neg, ih h.2, List.cons_append]
      · intro heq
        rw [heq] at h
        apply String.lt_irrefl _ h.1
      · intro hlt
        apply String.lt_irrefl _ (String.lt_trans hlt h.1)

/-- Elements that are in increasing order of names already are collected as they are. -/
theorem collect_eq_self {xs : List α} (h : xs.Pairwise (name · < name ·)) :
  collect name xs = xs
  := by
  induction xs using List.reverseRecOn with
  | nil => rfl
  | append_singleton xs last ih =>
      rw [List.pairwise_append] at h
      have hcollect : collect name (xs ++ [last]) = insert name last (collect name xs) := by
        simp [collect]
      rw [hcollect, ih h.1]
      apply insert_eq_append
      intro y hy
      apply h.2.2 y hy last (List.mem_singleton_self last)

/-- Elements are put in order after they are mapped as they were before. -/
theorem insert_map {β : Type} (f : β → α) (x : β) (sorted : List β) :
  insert name (f x) (sorted.map f) = (insert (name ∘ f) x sorted).map f
  := by
  induction sorted with
  | nil => rfl
  | cons first rest ih =>
      rw [List.map_cons, insert, insert, ih]
      simp only [Function.comp_apply, apply_ite (List.map f), List.map_cons]

/-- What is collected may be mapped before or after. -/
theorem collect_map {β : Type} (f : β → α) (xs : List β) :
  collect name (xs.map f) = (collect (name ∘ f) xs).map f
  := by
  induction xs using List.reverseRecOn with
  | nil => rfl
  | append_singleton xs last ih =>
      rw [collect, collect] at ih ⊢
      rw [List.map_append, List.map_singleton, List.foldl_append, List.foldl_append, ih]
      apply insert_map

/-- A list in increasing order of names is determined by its elements. -/
theorem eq_of_mem_iff
    {xs ys : List α} (hxs : xs.Pairwise (name · < name ·)) (hys : ys.Pairwise (name · < name ·))
    (h : ∀ x, x ∈ xs ↔ x ∈ ys) :
  xs = ys
  := by
  have hperm : xs.Perm ys := by
    apply (List.perm_ext_iff_of_nodup _ _).mpr h
    · apply List.Nodup.of_map name (nodup_of_pairwise hxs)
    · apply List.Nodup.of_map name (nodup_of_pairwise hys)
  apply hperm.eq_of_pairwise _ hxs hys
  intro first second _ _ hlt hgt
  cases String.lt_irrefl _ (String.lt_trans hlt hgt)

/-- In a list in increasing order of names, the elements before one are those of smaller
names. -/
theorem mem_before_iff
    {before after : List α} {x y : α} (h : (before ++ x :: after).Pairwise (name · < name ·))
    (hy : y ∈ before ++ x :: after) :
  y ∈ before ↔ name y < name x
  := by
  rw [List.pairwise_append, List.pairwise_cons] at h
  constructor
  · intro hbefore
    apply h.2.2 y hbefore x List.mem_cons_self
  · intro hlt
    rcases List.mem_append.mp hy with hbefore | hy
    · apply hbefore
    · rcases List.mem_cons.mp hy with rfl | hafter
      · cases String.lt_irrefl _ hlt
      · cases String.lt_irrefl _ (String.lt_trans hlt (h.2.1.1 y hafter))

/-- Where no two elements have one name, a name is looked up to the element that has it. -/
theorem find?_eq_some_iff
    {xs : List α} (h : (xs.map name).Nodup) {x : α} {key : String} :
  xs.find? (name · = key) = some x ↔ x ∈ xs ∧ name x = key
  := by
  constructor
  · intro hfound
    use List.mem_of_find?_eq_some hfound
    simpa using List.find?_some hfound
  · rintro ⟨hx, rfl⟩
    cases hfound : xs.find? (name · = name x) with
    | none =>
        have hnone := List.find?_eq_none.mp hfound x hx
        simp at hnone
    | some y =>
        have hname : name y = name x := by simpa using List.find?_some hfound
        rw [List.inj_on_of_nodup_map h (List.mem_of_find?_eq_some hfound) hx hname]

/-- In a list in increasing order of names a name has the value beside it. -/
theorem lookup_eq_some_iff
    {β : Type} {fields : List (String × β)} (h : fields.Pairwise (·.1 < ·.1))
    {key : String} {value : β} :
  fields.lookup key = some value ↔ (key, value) ∈ fields
  := by
  constructor
  · intro hlookup
    obtain ⟨before, after, rfl, -⟩ := List.lookup_eq_some_iff.mp hlookup
    simp
  · intro hmem
    obtain ⟨before, after, rfl⟩ := List.append_of_mem hmem
    apply List.lookup_eq_some_iff.mpr
    use before, after, rfl
    intro other hother
    have hlt := (List.pairwise_append.mp h).2.2 other hother (key, value) List.mem_cons_self
    rw [bne_iff_ne]
    rintro rfl
    apply String.lt_irrefl _ hlt

/-! ### Sorted names -/

/-- No name is lost where another one is put among sorted ones. -/
theorem perm_place (key : String) (sorted : List String) :
  (place key sorted).Perm (key :: sorted)
  := by
  induction sorted with
  | nil => apply List.Perm.refl
  | cons first rest ih =>
      rw [place]
      split
      · apply (ih.cons first).trans (.swap key first rest)
      · apply List.Perm.refl

/-- The sorted names are the given ones. -/
theorem perm_sort (keys : List String) :
  (sort keys).Perm keys
  := by
  induction keys with
  | nil => apply List.Perm.refl
  | cons key rest ih => apply (perm_place key (sort rest)).trans (ih.cons key)

/-- Sorted names stay sorted with one more name that is new to them. -/
theorem pairwise_place
    {key : String} {sorted : List String} (h : sorted.Pairwise (· < ·)) (hnew : key ∉ sorted) :
  (place key sorted).Pairwise (· < ·)
  := by
  induction sorted with
  | nil => simp [place]
  | cons first rest ih =>
      rw [List.pairwise_cons] at h
      rw [List.mem_cons, not_or] at hnew
      rw [place]
      split
      · rename_i hlt
        rw [List.pairwise_cons]
        use ?_, ih h.2 hnew.2
        intro other hother
        rcases List.mem_cons.mp ((perm_place key rest).mem_iff.mp hother) with rfl | hrest
        · apply hlt
        · apply h.1 other hrest
      · rename_i hnot
        have hlt : key < first := lt_of_le_of_ne (not_lt.mp hnot) hnew.1
        rw [List.pairwise_cons, List.forall_mem_cons]
        use ⟨hlt, fun other hother => hlt.trans (h.1 other hother)⟩
        rw [List.pairwise_cons]
        use h.1, h.2

/-- Different names are sorted in strictly increasing order. -/
theorem pairwise_sort {keys : List String} (h : keys.Nodup) :
  (sort keys).Pairwise (· < ·)
  := by
  induction keys with
  | nil => exact .nil
  | cons key rest ih =>
      rw [List.nodup_cons] at h
      apply pairwise_place (ih h.2)
      rw [(perm_sort rest).mem_iff]
      apply h.1

/-- Names that are in increasing order already are sorted as they are. -/
theorem sort_eq_self {keys : List String} (h : keys.Pairwise (· < ·)) :
  sort keys = keys
  := by
  apply @eq_of_mem_iff _ id _ _ (pairwise_sort (h.imp String.ne_of_lt)) h
  intro key
  apply (perm_sort keys).mem_iff

end NameOrder

/-- A set of names is determined by the names in it. -/
theorem NameSet.ext {set other : NameSet} (h : ∀ name, set.contains name = other.contains name) :
  set = other
  := by
  have hnames : set.names = other.names := by
    apply @NameOrder.eq_of_mem_iff _ id _ _ set.sorted other.sorted
    intro name
    rw [← List.contains_iff_mem, ← List.contains_iff_mem]
    apply Bool.eq_iff_iff.mp (h name)
  cases set
  cases other
  cases hnames
  rfl

end TableGateway
