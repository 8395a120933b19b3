/-!
Cutting text at a separator. Every separator ends a field, so a text with `k` separators has
`k + 1` fields and joining them with the separator gives the text back.
-/
namespace StreamDispatch.Text

/-- The fields of a text; the empty text has one empty field. -/
def fields (separator : Char) : List Char → List (List Char)
  | [] => [[]]
  | head :: rest =>
    if head = separator then [] :: fields separator rest
    else match fields separator rest with
      | [] => [[head]]
      | field :: more => (head :: field) :: more

/-- The fields with one separator between neighbours. -/
def join (separator : Char) : List (List Char) → List Char
  | [] => []
  | [field] => field
  | field :: next :: more => field ++ separator :: join separator (next :: more)

theorem fields_ne_nil (separator : Char) (text : List Char) : fields separator text ≠ [] := by
  cases text with
  | nil => simp [fields]
  | cons head rest =>
    simp only [fields]
    split
    · simp
    · split <;> simp

@[simp] theorem join_fields (separator : Char) (text : List Char) :
    join separator (fields separator text) = text := by
  induction text with
  | nil => rfl
  | cons head rest ih =>
    simp only [fields]
    split
    · rename_i same
      cases found : fields separator rest with
      | nil => exact absurd found (fields_ne_nil separator rest)
      | cons field more => rw [found] at ih; simp [join, ih, same]
    · cases found : fields separator rest with
      | nil => exact absurd found (fields_ne_nil separator rest)
      | cons field more =>
        rw [found] at ih
        cases more with
        | nil => simpa [join] using ih
        | cons next more => simpa [join] using ih

end StreamDispatch.Text
