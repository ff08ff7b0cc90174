import Mathlib.Data.List.Forall2

/-!
# Outcomes

An outcome is a value or an error. A composite of outcomes is a value exactly when its
parts are values, and its error is the error of the first part that has one. Outcomes
over a list are values exactly when those of all its elements are.
-/

namespace TableGateway.Outcome

variable {ε α β γ δ : Type}

theorem pure_eq_ok_iff {a b : α} :
  (pure a : Except ε α) = .ok b ↔ a = b
  := by
  constructor
  · intro h
    apply Except.ok.inj h
  · rintro rfl
    rfl

theorem bind_eq_ok_iff {x : Except ε α} {f : α → Except ε β} {b : β} :
  (x >>= f) = .ok b ↔ ∃ a, x = .ok a ∧ f a = .ok b
  := by
  cases x with
  | error e =>
      constructor
      · intro h
        cases h
      · rintro ⟨_, h, _⟩
        cases h
  | ok a =>
      constructor
      · intro h
        use a, rfl, h
      · rintro ⟨_, h, hf⟩
        cases h
        apply hf

theorem bind_eq_error_iff {x : Except ε α} {f : α → Except ε β} {e : ε} :
  (x >>= f) = .error e ↔ x = .error e ∨ ∃ a, x = .ok a ∧ f a = .error e
  := by
  cases x with
  | error e' =>
      constructor
      · intro h
        left
        cases h
        rfl
      · rintro (h | ⟨_, h, _⟩)
        · cases h
          rfl
        · cases h
  | ok a =>
      constructor
      · intro h
        right
        use a, rfl, h
      · rintro (h | ⟨_, h, hf⟩)
        · cases h
        · cases h
          apply hf

/-- Composites with one first part are equal if their second parts are after its value. -/
theorem bind_congr_of_ok {x : Except ε α} {f g : α → Except ε β} (h : ∀ a, x = .ok a → f a = g a) :
  (x >>= f) = (x >>= g)
  := by
  cases x with
  | error e => rfl
  | ok a => apply h a rfl

/-- An outcome is an error exactly when it is not a value. -/
theorem exists_eq_error_iff {x : Except ε α} :
  (∃ e, x = .error e) ↔ ¬ ∃ a, x = .ok a
  := by
  cases x <;> simp

theorem map_eq_ok_iff {x : Except ε α} {f : α → β} {b : β} :
  (f <$> x) = .ok b ↔ ∃ a, x = .ok a ∧ f a = b
  := by
  cases x with
  | error e =>
      constructor
      · intro h
        cases h
      · rintro ⟨_, h, _⟩
        cases h
  | ok a =>
      constructor
      · intro h
        use a, rfl
        apply Except.ok.inj h
      · rintro ⟨_, h, rfl⟩
        cases h
        rfl

theorem mapError_eq_ok_iff {x : Except ε α} {f : ε → γ} {a : α} :
  x.mapError f = .ok a ↔ x = .ok a
  := by
  cases x <;> simp [Except.mapError]

theorem mapError_eq_error_iff {x : Except ε α} {f : ε → γ} {e : γ} :
  x.mapError f = .error e ↔ ∃ cause, x = .error cause ∧ f cause = e
  := by
  cases x <;> simp [Except.mapError]

theorem toOption_eq_some_iff {x : Except ε α} {a : α} :
  x.toOption = some a ↔ x = .ok a
  := by
  cases x <;> simp [Except.toOption]

/-- Two composites show the same when their first parts show the same, and their second
parts do after values that show the same. -/
theorem map_bind_congr
    {x x' : Except ε α} {f f' : α → Except ε β} {p : α → γ} {q : β → δ}
    (hx : p <$> x = p <$> x') (hf : ∀ a a', p a = p a' → q <$> f a = q <$> f' a') :
  q <$> (x >>= f) = q <$> (x' >>= f')
  := by
  cases x with
  | error e =>
      cases x' with
      | error e' =>
          cases hx
          rfl
      | ok a' => cases hx
  | ok a =>
      cases x' with
      | error e' => cases hx
      | ok a' => apply hf a a' (Except.ok.inj hx)

/-- Two composites with one first part show the same when their second parts do. -/
theorem map_bind_congr_right
    {x : Except ε α} {f f' : α → Except ε β} {q : β → δ} (hf : ∀ a, q <$> f a = q <$> f' a) :
  q <$> (x >>= f) = q <$> (x >>= f')
  := by
  cases x with
  | error e => rfl
  | ok a => apply hf a

/-- A check before a step is passed when its condition does not hold. -/
theorem check_eq_ok_iff
    {c : Prop} [Decidable c] {e : ε} {f : PUnit → Except ε β} {b : β} :
  (if c then throw e >>= f else f ⟨⟩) = .ok b ↔ ¬ c ∧ f ⟨⟩ = .ok b
  := by
  split
  · rename_i hc
    constructor
    · intro h
      cases h
    · rintro ⟨h, -⟩
      cases h hc
  · rename_i hc
    constructor
    · intro h
      use hc, h
    · rintro ⟨-, h⟩
      apply h

/-- The error of a check before a step is that of the check when its condition holds, and
that of the step otherwise. -/
theorem check_eq_error_iff
    {c : Prop} [Decidable c] {e e' : ε} {f : PUnit → Except ε β} :
  (if c then throw e >>= f else f ⟨⟩) = .error e' ↔ c ∧ e = e' ∨ ¬ c ∧ f ⟨⟩ = .error e'
  := by
  split
  · rename_i hc
    constructor
    · intro h
      cases h
      left
      use hc
    · rintro (⟨-, rfl⟩ | ⟨h, -⟩)
      · rfl
      · cases h hc
  · rename_i hc
    constructor
    · intro h
      right
      use hc, h
    · rintro (⟨h, -⟩ | ⟨-, h⟩)
      · cases hc h
      · apply h

/-- A list is related to another one exactly when each of its elements is related to
something. -/
theorem exists_forall₂_iff {R : α → β → Prop} {xs : List α} :
  (∃ ys, List.Forall₂ R xs ys) ↔ ∀ x ∈ xs, ∃ y, R x y
  := by
  induction xs with
  | nil => simp
  | cons x xs ih =>
      rw [List.forall_mem_cons, ← ih]
      constructor
      · rintro ⟨_, h⟩
        obtain ⟨y, ys, hy, hys, rfl⟩ := List.forall₂_cons_left_iff.mp h
        use ⟨y, hy⟩, ys
      · rintro ⟨⟨y, hy⟩, ys, hys⟩
        use y :: ys
        apply List.Forall₂.cons hy hys

/-- Related lists show the same if related elements do. -/
theorem map_eq_map_of_forall₂
    {R : α → β → Prop} {f : α → γ} {g : β → γ} (hR : ∀ x y, R x y → f x = g y)
    {xs : List α} {ys : List β} (h : List.Forall₂ R xs ys) :
  xs.map f = ys.map g
  := by
  induction h with
  | nil => rfl
  | cons hxy _ ih => rw [List.map_cons, List.map_cons, hR _ _ hxy, ih]

/-- The outcomes over a list are values exactly when each element has its value. -/
theorem mapM_eq_ok_iff {f : α → Except ε β} {xs : List α} {ys : List β} :
  xs.mapM f = .ok ys ↔ List.Forall₂ (fun x y => f x = .ok y) xs ys
  := by
  induction xs generalizing ys with
  | nil =>
      rw [List.mapM_nil, List.forall₂_nil_left_iff]
      constructor
      · intro h
        cases h
        rfl
      · rintro rfl
        rfl
  | cons x xs ih =>
      rw [List.mapM_cons, bind_eq_ok_iff, List.forall₂_cons_left_iff]
      constructor
      · rintro ⟨y, hy, h⟩
        obtain ⟨ys', hys, h⟩ := bind_eq_ok_iff.mp h
        cases h
        use y, ys', hy, ih.mp hys
      · rintro ⟨y, ys', hy, hys, rfl⟩
        use y, hy
        apply bind_eq_ok_iff.mpr
        use ys', ih.mpr hys
        rfl

/-- The outcomes over a list are values if those of all its elements are. -/
theorem exists_mapM_eq_ok_iff {f : α → Except ε β} {xs : List α} :
  (∃ ys, xs.mapM f = .ok ys) ↔ ∀ x ∈ xs, ∃ y, f x = .ok y
  := by
  simp only [mapM_eq_ok_iff, exists_forall₂_iff]

/-- The error over a list is the error of one of its elements. -/
theorem exists_mem_of_mapM_eq_error
    {f : α → Except ε β} {xs : List α} {e : ε} (h : xs.mapM f = .error e) :
  ∃ x ∈ xs, f x = .error e
  := by
  induction xs with
  | nil => cases h
  | cons x xs ih =>
      rw [List.mapM_cons, bind_eq_error_iff] at h
      rcases h with hx | ⟨y, _, h⟩
      · use x, List.mem_cons_self
      · rcases bind_eq_error_iff.mp h with hxs | ⟨ys, _, h⟩
        · obtain ⟨x', hx', he⟩ := ih hxs
          use x', List.mem_cons_of_mem x hx'
        · cases h

/-- The error over a list is the error of the first of its elements that has no value. -/
theorem mapM_eq_error_iff {f : α → Except ε β} {xs : List α} {e : ε} :
  xs.mapM f = .error e
    ↔ ∃ before x after, xs = before ++ x :: after ∧ (∀ y ∈ before, ∃ value, f y = .ok value)
      ∧ f x = .error e
  := by
  induction xs with
  | nil =>
      constructor
      · intro h
        cases h
      · rintro ⟨before, x, after, h, -⟩
        simp at h
  | cons first rest ih =>
      rw [List.mapM_cons, bind_eq_error_iff]
      constructor
      · rintro (h | ⟨value, hvalue, h⟩)
        · use [], first, rest, rfl
          simpa using h
        · rcases bind_eq_error_iff.mp h with hrest | ⟨values, -, h⟩
          · obtain ⟨before, x, after, rfl, hbefore, hx⟩ := ih.mp hrest
            use first :: before, x, after, rfl
            rw [List.forall_mem_cons]
            use ⟨⟨value, hvalue⟩, hbefore⟩
          · cases h
      · rintro ⟨before, x, after, hsplit, hbefore, hx⟩
        cases before with
        | nil =>
            cases hsplit
            left
            apply hx
        | cons _ before =>
            cases hsplit
            rw [List.forall_mem_cons] at hbefore
            obtain ⟨⟨value, hvalue⟩, hbefore⟩ := hbefore
            right
            use value, hvalue
            apply bind_eq_error_iff.mpr
            left
            apply ih.mpr
            exact ⟨before, x, after, rfl, hbefore, hx⟩

/-- What holds of the value of every outcome holds of all the values over a list. -/
theorem forall_mem_of_mapM
    {P : β → Prop} {f : α → Except ε β} (hf : ∀ x y, f x = .ok y → P y)
    {xs : List α} {ys : List β} (h : xs.mapM f = .ok ys) :
  ∀ y ∈ ys, P y
  := by
  have hxy := mapM_eq_ok_iff.mp h
  induction hxy with
  | nil => simp
  | cons hy _ ih =>
      rw [List.forall_mem_cons]
      constructor
      · apply hf _ _ hy
      · apply ih
        apply mapM_eq_ok_iff.mpr
        assumption

/-- The optional values over a list are all there exactly when each element has its
value. -/
theorem mapM_eq_some_iff {f : α → Option β} {xs : List α} {ys : List β} :
  xs.mapM f = some ys ↔ List.Forall₂ (fun x y => f x = some y) xs ys
  := by
  induction xs generalizing ys with
  | nil =>
      rw [List.mapM_nil, List.forall₂_nil_left_iff]
      constructor
      · intro h
        cases h
        rfl
      · rintro rfl
        rfl
  | cons x xs ih =>
      rw [List.mapM_cons, List.forall₂_cons_left_iff]
      simp only [Option.bind_eq_bind, Option.bind_eq_some_iff, ih]
      constructor
      · rintro ⟨y, hy, ys', hys, h⟩
        cases h
        use y, ys', hy, hys
      · rintro ⟨y, ys', hy, hys, rfl⟩
        use y, hy, ys', hys
        rfl

/-- Where each element has its value, none of them is left out. -/
theorem filterMap_eq_of_forall₂ {f : α → Option β} {xs : List α} {ys : List β}
    (h : List.Forall₂ (fun x y => f x = some y) xs ys) :
  xs.filterMap f = ys
  := by
  induction h with
  | nil => rfl
  | cons hx _ ih => rw [List.filterMap_cons_some hx, ih]

/-- One of the optional values over a list is missing exactly when one of its elements has
none. -/
theorem mapM_eq_none_iff {f : α → Option β} {xs : List α} :
  xs.mapM f = none ↔ ∃ x ∈ xs, f x = none
  := by
  have hsome : (∃ ys, xs.mapM f = some ys) ↔ ∀ x ∈ xs, ∃ y, f x = some y := by
    simp only [mapM_eq_some_iff, exists_forall₂_iff]
  rw [← not_iff_not, ← ne_eq, Option.ne_none_iff_exists', hsome]
  simp only [not_exists, not_and, ← ne_eq, Option.ne_none_iff_exists']

/-- What each step of a fold preserves holds of its value if it holds at the start. -/
theorem foldlM_induction
    {P : β → Prop} {f : β → α → Except ε β}
    (step : ∀ s x s', P s → f s x = .ok s' → P s')
    {xs : List α} {s s' : β} (hs : P s) (h : xs.foldlM f s = .ok s') :
  P s'
  := by
  induction xs generalizing s with
  | nil =>
      cases h
      apply hs
  | cons x xs ih =>
      rw [List.foldlM_cons] at h
      obtain ⟨t, ht, h⟩ := bind_eq_ok_iff.mp h
      apply ih (step s x t hs ht) h

/-- Steps over two lists, one after the other, are steps over the joined list. -/
theorem foldlM_append_eq_some
    {f : β → α → Option β} {first next last : β} {xs ys : List α}
    (h : xs.foldlM f first = some next) (hys : ys.foldlM f next = some last) :
  (xs ++ ys).foldlM f first = some last
  := by
  rw [List.foldlM_append, h]
  apply hys

end TableGateway.Outcome
