import Mathlib.Data.List.Nodup
import Mathlib.Data.List.Sort
import TableGateway.Proofs.Query.Token
import TableGateway.Text.Percent

/-!
# Tables in order of their tokens

The entries of a table are tried in order of the sizes of their tokens, the longest first, and
of entries with one token the one that was given first. So of the tokens at one place in a text
the longest one is found, whatever other tokens there are, and its operator is the one that is
looked up. If no token is given twice, the order in which the entries are given does not matter.

Sizes are counted in octets and places in characters. What is found cuts a text between
characters all the same, and nothing of the text is lost.
-/

namespace TableGateway.OperatorTable

open Text

/-! ### The order in which entries are tried -/

/-- Longer tokens come first, and tokens of one length in their order. -/
theorem precedes_iff {entry other : String × Operator} :
  precedes entry other = true
    ↔ other.1.utf8ByteSize < entry.1.utf8ByteSize
      ∨ entry.1.utf8ByteSize = other.1.utf8ByteSize ∧ entry.1 ≤ other.1
  := by
  simp [precedes]

theorem precedes_of_eq {entry other : String × Operator} (h : entry.1 = other.1) :
  precedes entry other = true
  := by
  apply precedes_iff.mpr
  right
  rw [h]
  use rfl, String.le_refl _

/-- Of two entries one comes first. -/
theorem precedes_total (entry other : String × Operator) :
  precedes entry other = true ∨ precedes other entry = true
  := by
  rw [precedes_iff, precedes_iff]
  rcases Nat.lt_trichotomy entry.1.utf8ByteSize other.1.utf8ByteSize with hlt | heq | hgt
  · right
    left
    apply hlt
  · rcases String.le_total entry.1 other.1 with hle | hle
    · left
      right
      use heq
    · right
      right
      use heq.symm
  · left
    left
    apply hgt

/-- The order of entries is transitive. -/
theorem precedes_trans
    {first second third : String × Operator} (h : precedes first second = true)
    (h' : precedes second third = true) :
  precedes first third = true
  := by
  rw [precedes_iff] at h h' ⊢
  rcases h with hlt | ⟨heq, hle⟩
  · omega
  · rcases h' with hlt | ⟨heq', hle'⟩
    · omega
    · right
      use heq.trans heq', String.le_trans hle hle'

instance : Std.Total fun entry other : String × Operator => precedes entry other = true :=
  ⟨precedes_total⟩

instance :
    IsTrans (String × Operator) fun entry other => precedes entry other = true :=
  ⟨fun _ _ _ => precedes_trans⟩

/-- Entries that are tried before each other have the same token. -/
theorem eq_of_precedes
    {entry other : String × Operator} (h : precedes entry other = true)
    (h' : precedes other entry = true) :
  entry.1 = other.1
  := by
  rw [precedes_iff] at h h'
  rcases h with hlt | ⟨heq, hle⟩
  · omega
  · rcases h' with hlt | ⟨heq', hle'⟩
    · omega
    · apply String.le_antisymm hle hle'

/-- No entry is tried before one whose token is longer and begins with its own. -/
theorem eq_of_precedes_of_prefix
    {entry other : String × Operator} (h : precedes entry other = true)
    (hbegins : entry.1.toList <+: other.1.toList) :
  entry.1 = other.1
  := by
  obtain ⟨suffix, hsuffix⟩ := hbegins
  have hother : other.1 = entry.1 ++ String.ofList suffix := by
    apply String.toList_injective
    rw [String.toList_append, String.toList_ofList, hsuffix]
  have hsize := congrArg String.utf8ByteSize hother
  rw [String.utf8ByteSize_append] at hsize
  have hempty : (String.ofList suffix).utf8ByteSize = 0 := by
    rw [precedes_iff] at h
    omega
  rw [hother, String.utf8ByteSize_eq_zero_iff.mp hempty, String.append_empty]

/-! ### Tables of given entries -/

/-- An entry is put where an insertion sort puts it. -/
theorem insert_eq_orderedInsert (entry : String × Operator) (entries : List (String × Operator)) :
  insert entry entries = entries.orderedInsert (fun a b => precedes a b = true) entry
  := by
  induction entries with
  | nil => rfl
  | cons first rest ih => rw [insert, List.orderedInsert_cons, ih]

variable (entries : List (String × Operator))

/-- The entries of a table are sorted by insertion. -/
theorem entries_ofList :
  (ofList entries).entries = entries.insertionSort fun a b => precedes a b = true
  := by
  have hinsert : insert = List.orderedInsert fun a b => precedes a b = true := by
    funext entry entries
    apply insert_eq_orderedInsert
  rw [ofList, hinsert, List.insertionSort]

/-- No entry is lost, and none is made up. -/
theorem perm_entries_ofList :
  (ofList entries).entries.Perm entries
  := by
  rw [entries_ofList]
  apply List.perm_insertionSort

/-- The entries of a table are in order. -/
theorem pairwise_entries_ofList :
  (ofList entries).entries.Pairwise fun a b => precedes a b = true
  := by
  rw [entries_ofList]
  apply List.pairwise_insertionSort

/-- The tokens of a table are those that it was made with. -/
theorem mem_tokens_ofList {token : String} :
  token ∈ (ofList entries).tokens ↔ token ∈ entries.map Prod.fst
  := ((perm_entries_ofList entries).map Prod.fst).mem_iff

theorem isRanked_ofList :
  (ofList entries).IsRanked
  := (pairwise_entries_ofList entries).imp eq_of_precedes_of_prefix

/-- Entries with one token stay in the order in which they are given. -/
theorem filter_entries_ofList (token : String) :
  (ofList entries).entries.filter (·.1 = token) = entries.filter (·.1 = token)
  := by
  have hpairwise : (entries.filter (·.1 = token)).Pairwise fun a b => precedes a b = true := by
    apply List.pairwise_of_forall_mem_list
    intro entry hentry other hother
    apply precedes_of_eq
    simp only [List.mem_filter, decide_eq_true_eq] at hentry hother
    rw [hentry.2, hother.2]
  have hsublist : (entries.filter (·.1 = token)).Sublist
      ((ofList entries).entries.filter (·.1 = token)) := by
    rw [entries_ofList]
    have hsorted := List.sublist_insertionSort hpairwise List.filter_sublist
    simpa using hsorted.filter (·.1 = token)
  apply Eq.symm
  apply hsublist.eq_of_length
  apply ((perm_entries_ofList entries).filter _).length_eq.symm

/-- The operator of a token is the one that is given first. -/
theorem lookup?_ofList (token : String) :
  (ofList entries).lookup? token = (entries.find? (·.1 = token)).map Prod.snd
  := by
  rw [lookup?, ← List.head?_filter, filter_entries_ofList, List.head?_filter]

/-- Entries of different tokens may be given in any order. -/
theorem ofList_eq_of_perm
    {entries others : List (String × Operator)} (h : entries.Perm others)
    (hnodup : (entries.map Prod.fst).Nodup) :
  ofList entries = ofList others
  := by
  have hperm : (ofList entries).entries.Perm (ofList others).entries :=
    (perm_entries_ofList entries).trans (h.trans (perm_entries_ofList others).symm)
  have hentries : (ofList entries).entries = (ofList others).entries := by
    apply hperm.eq_of_pairwise _ (pairwise_entries_ofList entries) (pairwise_entries_ofList others)
    intro entry other hentry hother hbefore hafter
    apply List.inj_on_of_nodup_map hnodup
    · apply (perm_entries_ofList entries).mem_iff.mp hentry
    · apply (perm_entries_ofList entries).mem_iff.mp (hperm.mem_iff.mpr hother)
    · apply eq_of_precedes hbefore hafter
  rw [ofList, ofList, OperatorTable.mk.injEq]
  apply hentries

/-! ### Boundaries of characters -/

/-- The length of a text is counted in octets. -/
theorem length_utf8Octets (text : List Char) :
  (utf8Octets text).length = (String.ofList text).utf8ByteSize
  := by
  rw [← String.size_toByteArray, String.toByteArray_ofList, utf8Octets, List.utf8Encode,
    List.size_toByteArray]

/-- A found token starts and stops between characters: cut there, the octets of the text are
those of the text before the token, of the token, and of the text after it. -/
structure Found.Cuts (found : Found) (text : List Char) : Prop where
  start : String.Pos.Raw.IsValid (String.ofList text) ⟨found.start⟩
  stop : String.Pos.Raw.IsValid (String.ofList text) ⟨found.stop⟩
  before : (utf8Octets text).take found.start = utf8Octets found.before
  token : ((utf8Octets text).take found.stop).drop found.start = utf8Octets found.token.toList
  after : (utf8Octets text).drop found.stop = utf8Octets found.after

/-- A text is cut at the token that was found in it. -/
theorem Found.cuts_of_eq_append
    {found : Found} {text : List Char}
    (h : text = found.before ++ found.token.toList ++ found.after) :
  found.Cuts text
  := by
  have hoctets : utf8Octets text
      = utf8Octets found.before ++ utf8Octets found.token.toList ++ utf8Octets found.after := by
    rw [h]
    simp [utf8Octets]
  have hstart : (utf8Octets found.before).length = found.start := by
    rw [length_utf8Octets, start]
  have hstop : (utf8Octets found.before ++ utf8Octets found.token.toList).length = found.stop := by
    rw [List.length_append, hstart, length_utf8Octets, stop, String.ofList_toList]
  constructor
  case start =>
    apply String.Pos.Raw.isValid_iff_exists_append.mpr
    use String.ofList found.before, found.token ++ String.ofList found.after
    constructor
    · rw [h, String.ofList_append, String.ofList_append, String.ofList_toList, String.append_assoc]
    · rfl
  case stop =>
    apply String.Pos.Raw.isValid_iff_exists_append.mpr
    use String.ofList found.before ++ found.token, String.ofList found.after
    constructor
    · rw [h, String.ofList_append, String.ofList_append, String.ofList_toList]
    · rw [String.rawEndPos, String.utf8ByteSize_append]
      rfl
  case before => rw [hoctets, List.append_assoc, ← hstart, List.take_left]
  case token => rw [hoctets, ← hstop, List.take_left, ← hstart, List.drop_left]
  case after => rw [hoctets, ← hstop, List.drop_left]

/-! ### What is found -/

/-- In the table of given entries nothing is found in a text exactly if no given token begins
where a character does. Otherwise the first token is found, the longest of those that begin at
its place, with the operator that is looked up for it, which is the one given first. It starts
and stops between characters. If no token is given twice, the order of the entries does not
matter. -/
theorem found_first_and_longest (entries : List (String × Operator)) :
  (∀ text, (ofList entries).find? text = none
      ↔ ∀ i < text.length, ∀ token ∈ entries.map Prod.fst, ¬ token.toList <+: text.drop i)
    ∧ (∀ text found, (ofList entries).find? text = some found
      ↔ (ofList entries).Locates text found)
    ∧ (∀ token, token ∈ (ofList entries).tokens ↔ token ∈ entries.map Prod.fst)
    ∧ (∀ token, (ofList entries).lookup? token = (entries.find? (·.1 = token)).map Prod.snd)
    ∧ (∀ text found, (ofList entries).find? text = some found → found.Cuts text)
    ∧ ∀ others, entries.Perm others → (entries.map Prod.fst).Nodup →
      (∀ text, (ofList entries).find? text = (ofList others).find? text)
        ∧ ∀ token, (ofList entries).lookup? token = (ofList others).lookup? token
  := by
  refine ⟨?_, ?_, ?_, ?_, ?_, ?_⟩
  · intro text
    simp only [find?_eq_none_iff, mem_tokens_ofList]
  · intro text found
    apply (isRanked_ofList entries).find?_eq_some_iff
  · intro token
    apply mem_tokens_ofList
  · apply lookup?_ofList
  · intro text found hfound
    apply Found.cuts_of_eq_append (eq_append_of_find? hfound)
  · intro others hperm hnodup
    rw [ofList_eq_of_perm hperm hnodup]
    use fun _ => rfl, fun _ => rfl

/-- Entries of which three have tokens that begin alike. -/
def accents : List (String × Operator) :=
  [("\u00e9", .like), ("=", .equal), ("\u00e9=\u00e9", .below), ("\u00e9=", .above)]

/-- The longest token in `né=é=x`. -/
def accented : Found :=
  ⟨['n'], "\u00e9=\u00e9", .below, ['=', 'x']⟩

/-- The longest of three tokens is found, in whichever order they are given. It starts after
one octet and stops after six. -/
theorem found_first_and_longest_accents :
  accents.Perm accents.reverse
    ∧ (accents.map Prod.fst).Nodup
    ∧ (ofList accents.reverse).find? "n\u00e9=\u00e9=x".toList = some accented
    ∧ accented.Cuts "n\u00e9=\u00e9=x".toList
    ∧ accented.start = 1 ∧ accented.stop = 6
  := by
  obtain ⟨-, -, -, -, hcuts, horder⟩ := found_first_and_longest accents
  have hperm : accents.Perm accents.reverse := accents.reverse_perm.symm
  have hnodup : (accents.map Prod.fst).Nodup := by decide
  have hfound : (ofList accents).find? "n\u00e9=\u00e9=x".toList = some accented := rfl
  use hperm, hnodup, ((horder _ hperm hnodup).1 _).symm.trans hfound, hcuts _ _ hfound, rfl
  rfl

end TableGateway.OperatorTable
