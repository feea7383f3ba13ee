import Mathlib.Data.List.Basic

namespace PaymentModel

def hexDigits : List Char := "0123456789abcdef".toList

/-- The text in which the database hands out a UUID: lower-case digits, and hyphens in their places. -/
def isCanonicalUuid (text : String) : Bool :=
  (text.toList.map fun c => if c ∈ hexDigits then '0' else c) = "00000000-0000-0000-0000-000000000000".toList

/-- A value of a `uuid` column, as it is read back. -/
structure Uuid where
  text : String
  canonical : isCanonicalUuid text = true
  deriving DecidableEq

namespace Uuid

instance : Coe Uuid String := ⟨text⟩

@[ext] theorem ext_text {p q : Uuid} (same : p.text = q.text) : p = q := by
  cases p
  cases q
  cases same
  rfl

def zero : Uuid := ⟨"00000000-0000-0000-0000-000000000000", by decide⟩

/-- The hyphenated form, in whatever letter case. -/
def ofHyphenated (form : List Char) : Option Uuid :=
  let text := String.ofList (form.map Char.toLower)
  if canonical : isCanonicalUuid text = true then some ⟨text, canonical⟩ else none

/-- The hyphens of the hyphenated form, put between 32 digits. -/
def hyphenate (digits : List Char) : List Char :=
  digits.take 8 ++ '-' :: (digits.drop 8).take 4 ++ '-' :: (digits.drop 12).take 4 ++
    '-' :: (digits.drop 16).take 4 ++ '-' :: digits.drop 20

/-- `Uuid::parse_str`, by which the query engine reads what it is given for a `uuid` column: the
    hyphenated form, also in braces or as a URN, or the digits alone. -/
def parse (text : String) : Option Uuid :=
  let form := text.toList
  if form.length = 36 then ofHyphenated form
  else if form.length = 32 then ofHyphenated (hyphenate form)
  else if form.length = 38 ∧ form.head? = some '{' ∧ form.getLast? = some '}' then
    ofHyphenated (form.drop 1).dropLast
  else if form.length = 45 ∧ form.take 9 = "urn:uuid:".toList then ofHyphenated (form.drop 9)
  else none

def isLower (text : List Char) : Bool := text.all fun c => c.toLower = c

theorem isLower_iff {text : List Char} : isLower text = true ↔ ∀ c ∈ text, c.toLower = c := by
  simp [isLower]

theorem lower_of_shape {form shape : List Char} (lower : isLower shape = true)
    (shaped : (form.map fun c => if c ∈ hexDigits then '0' else c) = shape) : form.map Char.toLower = form := by
  have same : ∀ c ∈ form, c.toLower = id c := by
    intro c member
    by_cases digit : c ∈ hexDigits
    · exact isLower_iff.mp (show isLower hexDigits = true by decide) c digit
    · apply isLower_iff.mp lower
      rw [← shaped]
      exact List.mem_map.mpr ⟨c, member, if_neg digit⟩
  rw [List.map_congr_left same, List.map_id]

/-- What the database hands out names the same UUID again. -/
@[simp] theorem parse_text (p : Uuid) : parse p.text = some p := by
  have shaped := of_decide_eq_true p.canonical
  have length : p.text.toList.length = 36 := by
    have lengths := congrArg List.length shaped
    rw [List.length_map] at lengths
    exact lengths
  have lower : p.text.toList.map Char.toLower = p.text.toList := lower_of_shape (by decide) shaped
  simp only [parse, length, ofHyphenated, lower, String.ofList_toList, p.canonical, if_true, dif_pos]

end Uuid

end PaymentModel
