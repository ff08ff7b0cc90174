/-!
# Lists in increasing order of names

Elements that have a name are collected in strictly increasing order of their names, so that no two
have one name; an element replaces an earlier one of its name. The order of names is that of their
characters' code points, which is also the order of their UTF-8 octets. Names are sorted in that
order, too, and a set of names is kept in it.
-/

namespace TableGateway

namespace NameOrder

variable {α : Type} (name : α → String)

/-- A list in increasing order of names, with one more element. -/
def insert (x : α) : List α → List α
  | [] => [x]
  | y :: rest =>
    if name x < name y then x :: y :: rest
    else if name x = name y then x :: rest
    else y :: insert x rest

/-- The elements in increasing order of their names, the last of each name. -/
def collect (xs : List α) : List α :=
  xs.foldl (fun sorted x => insert name x sorted) []

/-- A sorted list of names, with one more name before the first one that is not smaller. -/
def place (key : String) : List String → List String
  | [] => [key]
  | first :: rest => if first < key then first :: place key rest else key :: first :: rest

/-- The names in increasing order. -/
def sort (keys : List String) : List String :=
  keys.foldr place []

variable {name}

/-- Nothing but the new element comes to a list. -/
theorem mem_insert {x y : α} {sorted : List α} (h : y ∈ insert name x sorted) :
  y = x ∨ y ∈ sorted
  := by
  induction sorted with
  | nil => simpa [insert] using h
  | cons first rest ih =>
      simp only [insert] at h
      split at h
      · simpa using h
      · split at h
        · simp only [List.mem_cons] at h ⊢
          rcases h with h | h <;> simp [h]
        · simp only [List.mem_cons] at h ⊢
          rcases h with h | h
          · simp [h]
          · rcases ih h with h | h <;> simp [h]

/-- One more element keeps a list in increasing order. -/
theorem pairwise_insert {x : α} {sorted : List α} (h : sorted.Pairwise (name · < name ·)) :
  (insert name x sorted).Pairwise (name · < name ·)
  := by
  induction sorted with
  | nil => simp [insert]
  | cons first rest ih =>
      simp only [List.pairwise_cons] at h
      simp only [insert]
      split
      · rename_i lt
        simp only [List.pairwise_cons, List.mem_cons]
        refine ⟨?_, h.1, h.2⟩
        rintro y (rfl | hmem)
        · exact lt
        · exact String.lt_trans lt (h.1 y hmem)
      · split
        · rename_i eq
          simp only [List.pairwise_cons]
          exact ⟨fun y hmem => eq ▸ h.1 y hmem, h.2⟩
        · rename_i nlt neq
          simp only [List.pairwise_cons]
          refine ⟨fun y hmem => ?_, ih h.2⟩
          rcases mem_insert hmem with rfl | hmem
          · rcases Decidable.em (name first < name y) with lt | nlt'
            · exact lt
            · exact absurd (String.le_antisymm nlt' nlt) neq
          · exact h.1 y hmem

/-- Whatever is collected is in increasing order. -/
theorem pairwise_collect (xs : List α) :
  (collect name xs).Pairwise (name · < name ·)
  := by
  suffices ∀ sorted : List α, sorted.Pairwise (name · < name ·) →
      (xs.foldl (fun sorted x => insert name x sorted) sorted).Pairwise (name · < name ·) from
    this [] .nil
  induction xs with
  | nil => exact fun _ h => h
  | cons x rest ih => exact fun sorted h => ih _ (pairwise_insert h)

/-- What is collected was there before. -/
theorem mem_of_mem_collect {x : α} {xs : List α} (h : x ∈ collect name xs) :
  x ∈ xs
  := by
  suffices ∀ sorted : List α, x ∈ xs.foldl (fun sorted x => insert name x sorted) sorted →
      x ∈ sorted ∨ x ∈ xs by
    simpa using this [] h
  clear h
  induction xs with
  | nil => exact fun _ h => .inl h
  | cons y rest ih =>
      intro sorted h
      rcases ih _ h with hsorted | hrest
      · rcases mem_insert hsorted with rfl | hmem
        · exact .inr List.mem_cons_self
        · exact .inl hmem
      · exact .inr (List.mem_cons_of_mem _ hrest)

/-- No two elements of a list in increasing order of names have one name. -/
theorem nodup_of_pairwise {sorted : List α} (h : sorted.Pairwise (name · < name ·)) :
  (sorted.map name).Nodup
  := by
  rw [List.Nodup, List.pairwise_map]
  refine h.imp fun {x y} lt eq => ?_
  rw [eq] at lt
  exact String.lt_irrefl _ lt

end NameOrder

/-- A set of names, which are listed in increasing order. -/
structure NameSet where
  names : List String
  sorted : names.Pairwise (· < ·)

namespace NameSet

/-- The set without names. -/
def empty : NameSet :=
  ⟨[], .nil⟩

/-- Whether a name is in the set. -/
def contains (set : NameSet) (name : String) : Bool :=
  set.names.contains name

/-- Whether a name is new to the set, and the set with that name. -/
def insert (set : NameSet) (name : String) : Bool × NameSet :=
  (!set.contains name, ⟨NameOrder.insert id name set.names, NameOrder.pairwise_insert set.sorted⟩)

/-- No name is in the empty set. -/
@[simp]
theorem contains_empty (name : String) :
  empty.contains name = false
  := by
  rw [contains, empty, List.contains_nil]

/-- A name is new to a set if it is not in it. -/
@[simp]
theorem insert_fst (set : NameSet) (name : String) :
  (set.insert name).1 = !set.contains name
  := by
  rw [insert]

/-- A set has one more name and all those that it had. -/
theorem contains_insert {set : NameSet} {name other : String} :
  (set.insert name).2.contains other = true ↔ other = name ∨ set.contains other = true
  := by
  have hmem : ∀ sorted : List String, other ∈ NameOrder.insert id name sorted
      ↔ other = name ∨ other ∈ sorted := by
    intro sorted
    induction sorted with
    | nil => simp [NameOrder.insert]
    | cons first rest ih =>
        simp only [NameOrder.insert, id]
        split
        · simp
        · split
          · rename_i eq
            simp [eq]
          · simp only [List.mem_cons, ih]
            exact or_left_comm
  simpa [insert, contains] using hmem set.names

end NameSet

end TableGateway
