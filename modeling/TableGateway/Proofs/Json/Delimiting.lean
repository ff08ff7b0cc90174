import Mathlib.Tactic.SplitIfs
import Mathlib.Tactic.Use
import TableGateway.Json.Printer
import TableGateway.Json.Written

/-!
# Texts that end by themselves

The text of a string is read back up to its closing quote, whatever follows it. So it can be
told where it ends, and the same is true of the indented text of a value that is made of
strings, arrays and objects: the text determines the value, and what follows it.
-/

namespace TableGateway.Json

/-! ### Strings -/

/-- The letter that an escaped character is read as. -/
def letterOf (c : Char) : Letter :=
  if c < ' ' ∧ c ∉ ['\x08', '\x0c', '\n', '\r', '\t'] then .unit c.toNat else .char c

/-- Different characters are read as different letters. -/
theorem letterOf_injective {c d : Char} (h : letterOf c = letterOf d) :
  c = d
  := by
  rw [letterOf, letterOf] at h
  split at h
  · split at h
    · apply Char.toNat_inj.mp
      apply Letter.unit.inj h
    · cases h
  · split at h
    · cases h
    · apply Letter.char.inj h

/-- The number of a control character is read from the four digits that it is escaped by. -/
theorem natOfHex?_hexOctet {c : Char} (h : c < ' ') :
  Text.natOfHex? ('0' :: '0' :: Text.hexOctet (UInt8.ofNat c.toNat)) = some c.toNat
  := by
  have hall : ∀ n < 32, Text.natOfHex? ('0' :: '0' :: Text.hexOctet (UInt8.ofNat n)) = some n := by
    decide
  apply hall
  apply h

/-- An escaped character is read as one letter. -/
theorem letters?_escaped (c : Char) (read : List Letter) (rest : List Char) :
  Written.letters? read (escaped c ++ rest) = Written.letters? (letterOf c :: read) rest
  := by
  rw [escaped]
  split_ifs with hquote hbackslash hb hf hn hr ht hcontrol
  case pos => subst hquote; rfl
  case pos => subst hbackslash; rfl
  case pos => subst hb; rfl
  case pos => subst hf; rfl
  case pos => subst hn; rfl
  case pos => subst hr; rfl
  case pos => subst ht; rfl
  case pos =>
    have hletter : letterOf c = .unit c.toNat := by
      rw [letterOf, if_pos]
      use hcontrol
      simp [hb, hf, hn, hr, ht]
    have hnumber := natOfHex?_hexOctet hcontrol
    rw [Text.hexOctet] at hnumber ⊢
    rw [hletter]
    simp only [List.cons_append, List.nil_append, Written.letters?, hnumber]
  case neg =>
    have hletter : letterOf c = .char c := by
      rw [letterOf, if_neg]
      rintro ⟨h, -⟩
      apply hcontrol h
    rw [hletter]
    simp [Written.letters?, hbackslash, hcontrol]

/-- The letters of a quoted text are read up to its closing quote. -/
theorem letters?_quoted (text : List Char) (read : List Letter) (rest : List Char) :
  Written.letters? read (text.flatMap escaped ++ '"' :: rest)
    = some (read.reverse ++ text.map letterOf, rest)
  := by
  induction text generalizing read with
  | nil => simp [Written.letters?]
  | cons c text ih =>
      rw [List.flatMap_cons, List.append_assoc, letters?_escaped, ih]
      simp

theorem toList_quoted (s : String) :
  (quoted s).toList = '"' :: (s.toList.flatMap escaped ++ ['"'])
  := by
  rw [quoted, String.toList_ofList]

/-- The text of a string ends at its closing quote. -/
theorem quoted_append_inj
    {s s' : String} {rest rest' : List Char}
    (h : (quoted s).toList ++ rest = (quoted s').toList ++ rest') :
  s = s' ∧ rest = rest'
  := by
  simp only [toList_quoted, List.cons_append, List.append_assoc, List.nil_append, List.cons.injEq,
    true_and] at h
  have hread := letters?_quoted s.toList [] rest
  rw [h, letters?_quoted, Option.some.injEq, Prod.mk.injEq] at hread
  have hletters : s'.toList.map letterOf = s.toList.map letterOf := hread.1
  have hs : s'.toList = s.toList :=
    (List.map_inj_right fun _ _ hcd => letterOf_injective hcd).mp hletters
  use (String.toList_inj.mp hs).symm, hread.2.symm

/-! ### Values -/

/-- Values that are made of strings, arrays and objects. -/
inductive Textual : Json → Prop where
  | string (text : String) : Textual (.string text)
  | array {items : List Json} (all : ∀ item ∈ items, Textual item) : Textual (.array items)
  | object {members : List (String × Json)} (all : ∀ member ∈ members, Textual member.2) :
      Textual (.object members)

/-- The text of a value ends by itself, at any depth: no other value has that text, whatever
follows. -/
def EndsByItself (value : Json) : Prop :=
  ∀ depth value' rest rest', Textual value' →
    (indentedAt depth value).toList ++ rest = (indentedAt depth value').toList ++ rest' →
      value = value' ∧ rest = rest'

theorem toList_newline (depth : Nat) :
  (newline depth).toList = '\n' :: List.replicate (2 * depth) ' '
  := by
  rw [newline, String.toList_ofList]

/-- The texts of items end at the line break that no comma comes before. -/
theorem indentedItems_append_inj
    {depth : Nat} {items items' : List Json} (hitems : ∀ item ∈ items, EndsByItself item)
    (hitems' : ∀ item ∈ items', Textual item) {rest rest' : List Char}
    (h : (indentedItems depth items).toList ++ '\n' :: rest
      = (indentedItems depth items').toList ++ '\n' :: rest') :
  items = items' ∧ rest = rest'
  := by
  induction items generalizing items' with
  | nil =>
      cases items' with
      | nil => simpa [indentedItems] using h
      | cons item' items' => simp [indentedItems] at h
  | cons item items ih =>
      cases items' with
      | nil => simp [indentedItems] at h
      | cons item' items' =>
          rw [List.forall_mem_cons] at hitems hitems'
          simp only [indentedItems, String.toList_append, List.append_assoc,
            List.append_cancel_left_eq] at h
          obtain ⟨hitem, hmore⟩ := hitems.1 depth item' _ _ hitems'.1 h
          obtain ⟨hothers, hrest⟩ := ih hitems.2 hitems'.2 hmore
          use by rw [hitem, hothers], hrest

/-- The texts of members end at the line break that no comma comes before. -/
theorem indentedMembers_append_inj
    {depth : Nat} {members members' : List (String × Json)}
    (hmembers : ∀ member ∈ members, EndsByItself member.2)
    (hmembers' : ∀ member ∈ members', Textual member.2) {rest rest' : List Char}
    (h : (indentedMembers depth members).toList ++ '\n' :: rest
      = (indentedMembers depth members').toList ++ '\n' :: rest') :
  members = members' ∧ rest = rest'
  := by
  induction members generalizing members' with
  | nil =>
      cases members' with
      | nil => simpa [indentedMembers] using h
      | cons member' members' => simp [indentedMembers] at h
  | cons member members ih =>
      cases members' with
      | nil => simp [indentedMembers] at h
      | cons member' members' =>
          rw [List.forall_mem_cons] at hmembers hmembers'
          simp only [indentedMembers, String.toList_append, List.append_assoc,
            List.append_cancel_left_eq] at h
          obtain ⟨hname, hmore⟩ := quoted_append_inj h
          rw [List.append_cancel_left_eq] at hmore
          obtain ⟨hvalue, hmore⟩ := hmembers.1 depth member'.2 _ _ hmembers'.1 hmore
          obtain ⟨hothers, hrest⟩ := ih hmembers.2 hmembers'.2 hmore
          use by rw [Prod.ext hname hvalue, hothers], hrest

/-- Arrays of texts with something after them are equal only if both parts are. -/
theorem array_append_inj
    {depth : Nat} {items items' : List Json} (hitems : ∀ item ∈ items, EndsByItself item)
    (hitems' : ∀ item ∈ items', Textual item) {rest rest' : List Char}
    (h : (indentedAt depth (.array items)).toList ++ rest
      = (indentedAt depth (.array items')).toList ++ rest') :
  items = items' ∧ rest = rest'
  := by
  cases items with
  | nil =>
      cases items' with
      | nil => simpa [indentedAt] using h
      | cons item' items' => simp [indentedAt, toList_newline] at h
  | cons item items =>
      cases items' with
      | nil => simp [indentedAt, toList_newline] at h
      | cons item' items' =>
          -- With a comma before the first item, the items are like those after it.
          have hall : (indentedItems (depth + 1) (item :: items)).toList
                ++ '\n' :: (List.replicate (2 * depth) ' ' ++ ']' :: rest)
              = (indentedItems (depth + 1) (item' :: items')).toList
                ++ '\n' :: (List.replicate (2 * depth) ' ' ++ ']' :: rest') := by
            simpa [indentedItems, indentedAt, toList_newline] using h
          obtain ⟨hsame, hrest⟩ := indentedItems_append_inj hitems hitems' hall
          use hsame
          simpa using hrest

/-- Objects of texts with something after them are equal only if both parts are. -/
theorem object_append_inj
    {depth : Nat} {members members' : List (String × Json)}
    (hmembers : ∀ member ∈ members, EndsByItself member.2)
    (hmembers' : ∀ member ∈ members', Textual member.2) {rest rest' : List Char}
    (h : (indentedAt depth (.object members)).toList ++ rest
      = (indentedAt depth (.object members')).toList ++ rest') :
  members = members' ∧ rest = rest'
  := by
  cases members with
  | nil =>
      cases members' with
      | nil => simpa [indentedAt] using h
      | cons member' members' => simp [indentedAt, toList_newline] at h
  | cons member members =>
      cases members' with
      | nil => simp [indentedAt, toList_newline] at h
      | cons member' members' =>
          have hall : (indentedMembers (depth + 1) (member :: members)).toList
                ++ '\n' :: (List.replicate (2 * depth) ' ' ++ '\x7d' :: rest)
              = (indentedMembers (depth + 1) (member' :: members')).toList
                ++ '\n' :: (List.replicate (2 * depth) ' ' ++ '\x7d' :: rest') := by
            simpa [indentedMembers, indentedAt, toList_newline] using h
          obtain ⟨hsame, hrest⟩ := indentedMembers_append_inj hmembers hmembers' hall
          use hsame
          simpa using hrest

/-- A value that consists of texts shows where it ends. -/
theorem Textual.endsByItself {value : Json} (hvalue : Textual value) :
  EndsByItself value
  := by
  induction hvalue with
  | string text =>
      intro depth value' rest rest' hvalue' h
      cases hvalue' with
      | string text' =>
          simp only [indentedAt] at h
          obtain ⟨rfl, hrest⟩ := quoted_append_inj h
          use rfl, hrest
      | @array items' _ => cases items' <;> simp [indentedAt, toList_quoted] at h
      | @object members' _ => cases members' <;> simp [indentedAt, toList_quoted] at h
  | @array items _ ih =>
      intro depth value' rest rest' hvalue' h
      cases hvalue' with
      | string text' => cases items <;> simp [indentedAt, toList_quoted] at h
      | array hitems' =>
          obtain ⟨rfl, hrest⟩ := array_append_inj ih hitems' h
          use rfl, hrest
      | @object members' _ => cases items <;> cases members' <;> simp [indentedAt] at h
  | @object members _ ih =>
      intro depth value' rest rest' hvalue' h
      cases hvalue' with
      | string text' => cases members <;> simp [indentedAt, toList_quoted] at h
      | @array items' _ => cases members <;> cases items' <;> simp [indentedAt] at h
      | object hmembers' =>
          obtain ⟨rfl, hrest⟩ := object_append_inj ih hmembers' h
          use rfl, hrest

/-- Different values have different indented texts. -/
theorem Textual.eq_of_indented_eq
    {value value' : Json} (hvalue : Textual value) (hvalue' : Textual value')
    (h : value.indented = value'.indented) :
  value = value'
  := by
  have htext : (indentedAt 0 value).toList ++ [] = (indentedAt 0 value').toList ++ [] := by
    rw [List.append_nil, List.append_nil]
    exact congrArg String.toList h
  apply (hvalue.endsByItself 0 value' [] [] hvalue' htext).1

end TableGateway.Json
