import Mathlib.Data.List.Infix
import TableGateway.Query.Operator

/-!
# Tokens in texts

Where longer tokens are tried before those that they begin with, the token that is found in a
text is the first one, and of those that begin there the longest one.

An operator is written between a column and values. Its token is found there when no token
begins with a character that a column may have, and when no token can be prolonged to
another one by a character that values may have: no token is found in front of it, and no
other one in its place.
-/

namespace TableGateway.OperatorTable

/-! ### The first and longest token -/

/-- A found token is the first one of its text: no token begins before it, and no longer one
where it begins. -/
structure Finds (table : OperatorTable) (text : List Char) (found : Found) : Prop where
  parts : text = found.before ++ found.token.toList ++ found.after
  entry : (found.token, found.operator) ∈ table.entries
  first : ∀ i < found.before.length, ∀ token ∈ table.tokens, ¬ token.toList <+: text.drop i
  longest : ∀ token ∈ table.tokens, token.toList <+: text.drop found.before.length →
    token.length ≤ found.token.length

/-- The first token of a text begins where a character does, and has the operator that is
looked up for it. -/
structure Locates (table : OperatorTable) (text : List Char) (found : Found) : Prop
    extends table.Finds text found where
  position : found.before.length < text.length
  operator : table.lookup? found.token = some found.operator

theorem lookup?_eq_some_iff {table : OperatorTable} {token : String} {operator : Operator} :
  table.lookup? token = some operator
    ↔ ∃ earlier later, table.entries = earlier ++ (token, operator) :: later
      ∧ ∀ entry ∈ earlier, entry.1 ≠ token
  := by
  rw [lookup?, Option.map_eq_some_iff]
  simp only [List.find?_eq_some_iff_append, decide_eq_true_eq, Bool.not_eq_true',
    decide_eq_false_iff_not]
  constructor
  · rintro ⟨⟨_, _⟩, ⟨rfl, hentries⟩, rfl⟩
    apply hentries
  · intro hentries
    use (token, operator), ⟨rfl, hentries⟩

theorem mem_entries_of_lookup?
    {table : OperatorTable} {token : String} {operator : Operator}
    (h : table.lookup? token = some operator) :
  (token, operator) ∈ table.entries
  := by
  obtain ⟨earlier, later, hsplit, -⟩ := lookup?_eq_some_iff.mp h
  rw [hsplit]
  simp

theorem entryAt?_eq_none_iff {table : OperatorTable} {text : List Char} :
  table.entryAt? text = none ↔ ∀ token ∈ table.tokens, ¬ token.toList <+: text
  := by
  rw [entryAt?, tokens, List.find?_eq_none, List.forall_mem_map]
  simp only [List.isPrefixOf_iff_prefix]

/-- Nothing is found exactly if no token begins where a character does. -/
theorem find?_eq_none_iff {table : OperatorTable} {text : List Char} :
  table.find? text = none
    ↔ ∀ i < text.length, ∀ token ∈ table.tokens, ¬ token.toList <+: text.drop i
  := by
  induction text with
  | nil => simp [find?]
  | cons c rest ih =>
      rw [find?]
      split
      · rename_i token operator hentry
        constructor
        · intro h
          cases h
        · intro h
          have hnone : table.entryAt? (c :: rest) = none :=
            entryAt?_eq_none_iff.mpr (h 0 (Nat.succ_pos _))
          rw [hnone] at hentry
          cases hentry
      · rename_i hnone
        rw [Option.map_eq_none_iff, ih]
        constructor
        · rintro hrest (_ | i) hi
          · apply entryAt?_eq_none_iff.mp hnone
          · apply hrest i (Nat.lt_of_succ_lt_succ hi)
        · intro h i hi
          apply h (i + 1) (Nat.succ_lt_succ hi)

/-- Of two tokens that begin one text the longer one begins with the other. -/
theorem begins_of_length_le
    {text : List Char} {token other : String} (htoken : token.toList <+: text)
    (hother : other.toList <+: text) (h : token.length ≤ other.length) :
  token.toList <+: other.toList
  := by
  apply List.prefix_of_prefix_length_le htoken hother
  rw [String.length_toList, String.length_toList]
  apply h

/-- A table in which no entry is tried before one whose token is longer and begins with its
own. -/
def IsRanked (table : OperatorTable) : Prop :=
  table.entries.Pairwise fun entry other => entry.1.toList <+: other.1.toList → entry.1 = other.1

namespace IsRanked

variable {table : OperatorTable} (h : table.IsRanked)

include h

/-- The entry that is found at the beginning of a text has the longest token, and the operator
that is looked up for it. -/
theorem entryAt?_eq_some_iff {text : List Char} {token : String} {operator : Operator} :
  table.entryAt? text = some (token, operator)
    ↔ table.lookup? token = some operator ∧ token.toList <+: text
      ∧ ∀ other ∈ table.tokens, other.toList <+: text → other.length ≤ token.length
  := by
  rw [entryAt?, tokens, List.forall_mem_map, lookup?_eq_some_iff, List.find?_eq_some_iff_append]
  simp only [List.isPrefixOf_iff_prefix, Bool.not_eq_true', Bool.eq_false_iff, ne_eq]
  rw [IsRanked] at h
  constructor
  · rintro ⟨htoken, earlier, later, hsplit, hearlier⟩
    refine ⟨⟨earlier, later, hsplit, ?_⟩, htoken, ?_⟩
    · rintro other hother rfl
      apply hearlier other hother htoken
    · intro other hother hbegins
      rw [hsplit, List.pairwise_append, List.pairwise_cons] at h
      rw [hsplit, List.mem_append, List.mem_cons] at hother
      rcases hother with hother | rfl | hother
      · cases hearlier other hother hbegins
      · apply Nat.le_refl
      · rcases Nat.le_total other.1.length token.length with hle | hle
        · apply hle
        · have hsame : token = other.1 :=
            h.2.1.1 other hother (begins_of_length_le htoken hbegins hle)
          rw [hsame]
  · rintro ⟨⟨earlier, later, hsplit, hearlier⟩, htoken, hlongest⟩
    use htoken, earlier, later, hsplit
    intro other hother hbegins
    have hlength : other.1.length ≤ token.length := by
      apply hlongest other _ hbegins
      rw [hsplit]
      apply List.mem_append_left _ hother
    rw [hsplit, List.pairwise_append] at h
    apply hearlier other hother
    apply h.2.2 other hother _ List.mem_cons_self (begins_of_length_le hbegins htoken hlength)

/-- What is found in a text is its first token, and the longest one at its place. -/
theorem find?_eq_some_iff {text : List Char} {found : Found} :
  table.find? text = some found ↔ table.Locates text found
  := by
  constructor
  · intro hfound
    induction text generalizing found with
    | nil => cases hfound
    | cons c rest ih =>
        have hparts := eq_append_of_find? hfound
        rw [find?] at hfound
        split at hfound
        · rename_i token operator hentry
          cases hfound
          obtain ⟨hlookup, -, hlongest⟩ := h.entryAt?_eq_some_iff.mp hentry
          constructor
          case toFinds =>
            apply Finds.mk hparts (mem_entries_of_lookup? hlookup) _ hlongest
            simp
          case position => apply Nat.succ_pos
          case operator => apply hlookup
        · rename_i hnone
          obtain ⟨inner, hinner, rfl⟩ := Option.map_eq_some_iff.mp hfound
          have hrest := ih hinner
          constructor
          case toFinds =>
            apply Finds.mk hparts hrest.entry _ hrest.longest
            rintro (_ | i) hi token htoken
            · apply entryAt?_eq_none_iff.mp hnone token htoken
            · apply hrest.first i (Nat.lt_of_succ_lt_succ hi) token htoken
          case position => apply Nat.succ_lt_succ hrest.position
          case operator => apply hrest.operator
  · intro hlocates
    obtain ⟨before, token, operator, after⟩ := found
    induction before generalizing text with
    | nil =>
        obtain ⟨⟨rfl, -, -, hlongest⟩, hposition, hlookup⟩ := hlocates
        have hfound : table.entryAt? (token.toList ++ after) = some (token, operator) :=
          h.entryAt?_eq_some_iff.mpr ⟨hlookup, List.prefix_append _ _, hlongest⟩
        have hdrop : (token.toList ++ after).drop token.length = after := by
          rw [← String.length_toList, List.drop_left]
        obtain ⟨c, rest, hrest⟩ := List.exists_cons_of_length_pos hposition
        simp only [List.nil_append] at hrest ⊢
        rw [hrest] at hfound hdrop ⊢
        rw [find?, hfound]
        simp only [hdrop]
    | cons c before ih =>
        obtain ⟨⟨rfl, hentry, hfirst, hlongest⟩, hposition, hlookup⟩ := hlocates
        have hnone : table.entryAt? (c :: (before ++ token.toList ++ after)) = none :=
          entryAt?_eq_none_iff.mpr (hfirst 0 (Nat.succ_pos _))
        have hrest : table.find? (before ++ token.toList ++ after)
            = some ⟨before, token, operator, after⟩ := by
          apply ih
          constructor
          case toFinds =>
            refine ⟨rfl, hentry, ?_, hlongest⟩
            intro i hi
            apply hfirst (i + 1) (Nat.succ_lt_succ hi)
          case position => apply Nat.lt_of_succ_lt_succ hposition
          case operator => apply hlookup
        simp only [List.cons_append]
        rw [find?, hnone, hrest]
        rfl

end IsRanked

/-- A table without the empty token, in which no entry is tried before one whose token begins
with its own. -/
structure IsOrdered (table : OperatorTable) : Prop where
  ne_nil : ∀ entry ∈ table.entries, entry.1.toList ≠ []
  order : table.entries.Pairwise fun entry other => ¬ entry.1.toList <+: other.1.toList

namespace IsOrdered

variable {table : OperatorTable} (h : table.IsOrdered)

include h

theorem isRanked :
  table.IsRanked
  := h.order.imp fun hnot hbegins => absurd hbegins hnot

/-- Each entry is the one that is looked up for its token. -/
theorem lookup?_of_mem
    {token : String} {operator : Operator} (hentry : (token, operator) ∈ table.entries) :
  table.lookup? token = some operator
  := by
  obtain ⟨earlier, later, hsplit⟩ := List.append_of_mem hentry
  apply lookup?_eq_some_iff.mpr
  use earlier, later, hsplit
  rintro other hother rfl
  have horder := h.order
  rw [hsplit, List.pairwise_append] at horder
  apply horder.2.2 other hother _ List.mem_cons_self (List.prefix_refl _)

/-- What is found in a text is its first token, and the longest one at its place. -/
theorem find?_eq_some_iff {text : List Char} {found : Found} :
  table.find? text = some found ↔ table.Finds text found
  := by
  rw [h.isRanked.find?_eq_some_iff]
  constructor
  · apply Locates.toFinds
  · intro hfinds
    have htoken : 0 < found.token.toList.length :=
      List.length_pos_of_ne_nil (h.ne_nil _ hfinds.entry)
    have hlength := congrArg List.length hfinds.parts
    rw [List.length_append, List.length_append] at hlength
    apply Locates.mk hfinds _ (h.lookup?_of_mem hfinds.entry)
    omega

end IsOrdered

/-! ### Tokens between texts -/

/-- A table whose tokens can be told from texts of given characters, those in front of a
token and those after it. An entry that is tried before another one has not a token with
which the token of the other one begins. -/
structure Delimits (table : OperatorTable) (isBefore isAfter : Char → Bool) : Prop where
  first : ∀ entry ∈ table.entries, entry.1.toList.head?.any (fun c => !isBefore c) = true
  next : ∀ entry ∈ table.entries, ∀ other ∈ table.entries,
    entry.1.toList <+: other.1.toList → entry = other
      ∨ (other.1.toList.drop entry.1.toList.length).head?.any (fun c => !isAfter c) = true
  order : table.entries.Pairwise fun entry other => ¬ entry.1.toList <+: other.1.toList

namespace Delimits

variable {table : OperatorTable} {isBefore isAfter : Char → Bool}
  (h : table.Delimits isBefore isAfter)

include h

theorem isOrdered :
  table.IsOrdered
  := by
  use fun entry hentry => ?_, h.order
  obtain ⟨c, hc, -⟩ := (Option.any_eq_true _ _).mp (h.first entry hentry)
  apply List.ne_nil_of_mem (List.mem_of_mem_head? hc)

/-- A token between a text of characters that begin no token and a text of characters that
continue no token is the first one found. -/
theorem find?_eq_some
    {token : String} {operator : Operator} (hentry : (token, operator) ∈ table.entries)
    {before after : List Char} (hbefore : ∀ c ∈ before, isBefore c = true)
    (hafter : ∀ c ∈ after, isAfter c = true) :
  table.find? (before ++ token.toList ++ after) = some ⟨before, token, operator, after⟩
  := by
  apply h.isOrdered.find?_eq_some_iff.mpr
  constructor
  · rfl
  · apply hentry
  · intro i hi
    rw [tokens, List.forall_mem_map]
    rintro other hother ⟨suffix, hsuffix⟩
    obtain ⟨c, hc, hnot⟩ := (Option.any_eq_true _ _).mp (h.first other hother)
    have hmem : c ∈ before := by
      rw [← List.head?_append_of_ne_nil _ (h.isOrdered.ne_nil other hother), hsuffix,
        List.head?_drop, List.append_assoc, List.getElem?_append_left hi] at hc
      apply List.mem_of_getElem? hc
    rw [hbefore c hmem] at hnot
    cases hnot
  · rw [tokens, List.forall_mem_map, List.append_assoc, List.drop_left]
    intro other hother hbegins
    by_contra hlonger
    have hcontinues :=
      begins_of_length_le (List.prefix_append _ _) hbegins (Nat.le_of_not_ge hlonger)
    rcases h.next _ hentry other hother hcontinues with rfl | hnext
    · apply hlonger (Nat.le_refl _)
    · obtain ⟨c, hc, hnot⟩ := (Option.any_eq_true _ _).mp hnext
      -- The other token is longer, so its next character stands in the text after the token.
      obtain ⟨suffix, hsuffix⟩ := hcontinues
      rw [← hsuffix, List.prefix_append_right_inj] at hbegins
      rw [← hsuffix, List.drop_left] at hc
      have hmem := hbegins.subset (List.mem_of_mem_head? hc)
      rw [hafter c hmem] at hnot
      cases hnot

end Delimits

/-! ### The tokens of requests -/

/-- The tokens of requests in the order in which they are tried. -/
theorem entries_standard :
  standard.entries = [
    ("=isnotnull=", .isNotNull), ("=notlike=", .notLike), ("=notnull=", .isNotNull),
    ("=isnull=", .isNull), ("=!like=", .notLike), ("=!null=", .isNotNull), ("=like=", .like),
    ("=out=", .noneOf), ("=ge=", .atLeast), ("=gt=", .above), ("=in=", .oneOf),
    ("=le=", .atMost), ("=lt=", .below), ("=na=", .isNull), ("=nk=", .notLike),
    ("=nn=", .isNotNull), ("!=", .notEqual), ("<=", .atMost), ("==", .equal), (">=", .atLeast),
    ("<", .below), (">", .above)]
  := by
  decide +kernel

end TableGateway.OperatorTable
