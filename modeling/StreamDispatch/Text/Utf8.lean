import StreamDispatch.Bytes

/-!
Reading bytes as UTF-8 text. A part that no character can start with becomes one replacement
character: the longest run of bytes that some character begins with, or else a single byte.
-/
namespace StreamDispatch.Text.Utf8

/-- A lead byte: how many bytes follow, the bounds of the first of them, and the payload bits. -/
def lead? (byte : Nat) : Option (Nat × Nat × Nat × Nat) :=
  if byte < 0x80 then some (0, 0x80, 0xBF, byte)
  else if byte < 0xC2 then none
  else if byte < 0xE0 then some (1, 0x80, 0xBF, byte - 0xC0)
  else if byte = 0xE0 then some (2, 0xA0, 0xBF, 0)
  else if byte = 0xED then some (2, 0x80, 0x9F, 0xD)
  else if byte < 0xF0 then some (2, 0x80, 0xBF, byte - 0xE0)
  else if byte = 0xF0 then some (3, 0x90, 0xBF, 0)
  else if byte < 0xF4 then some (3, 0x80, 0xBF, byte - 0xF0)
  else if byte = 0xF4 then some (3, 0x80, 0x8F, 4)
  else none

/-- Adds `count` following bytes to a value; stops before the first byte that cannot follow. -/
def follow : (count low high value : Nat) → Bytes → Option Nat × Bytes
  | 0, _, _, value, rest => (some value, rest)
  | _ + 1, _, _, _, [] => (none, [])
  | count + 1, low, high, value, byte :: rest =>
    if low ≤ byte.toNat ∧ byte.toNat ≤ high then
      follow count 0x80 0xBF (value * 64 + byte.toNat % 64) rest
    else (none, byte :: rest)

theorem follow_length_le (count low high value : Nat) (bytes : Bytes) :
    (follow count low high value bytes).2.length ≤ bytes.length := by
  induction count generalizing low high value bytes with
  | zero => simp [follow]
  | succ count ih =>
    cases bytes with
    | nil => simp [follow]
    | cons byte rest =>
      simp only [follow]
      split
      · exact Nat.le_trans (ih _ _ _ _) (by simp)
      · simp

/-- The first character, and the bytes after it. -/
def first (byte : UInt8) (rest : Bytes) : Char × Bytes :=
  match lead? byte.toNat with
  | none => ('\uFFFD', rest)
  | some (count, low, high, bits) =>
    match follow count low high bits rest with
    | (some value, after) => (Char.ofNat value, after)
    | (none, after) => ('\uFFFD', after)

theorem first_length_le (byte : UInt8) (rest : Bytes) :
    (first byte rest).2.length ≤ rest.length := by
  simp only [first]
  split
  · simp
  · rename_i count low high bits _
    have bound := follow_length_le count low high bits rest
    split <;> (rename_i found; rw [found] at bound; exact bound)

/-- Every character of the text, with replacements where there is none. -/
def decode : Bytes → List Char
  | [] => []
  | byte :: rest => (first byte rest).1 :: decode (first byte rest).2
termination_by bytes => bytes.length
decreasing_by
  have bound := first_length_le byte rest
  simp only [List.length_cons]
  omega

/-- The text that the bytes spell, replacement characters included. -/
def text (bytes : Bytes) : String := String.ofList (decode bytes)

example : decode [0xE2, 0x82, 0xAC, 0x41] = ['€', 'A'] := by decide +kernel
example : decode [0xE2, 0x82, 0x41, 0xFF] = ['\uFFFD', 'A', '\uFFFD'] := by decide +kernel
example : decode [0xED, 0xA0, 0x80] = ['\uFFFD', '\uFFFD', '\uFFFD'] := by decide +kernel

/-! ### Reading what was written -/

variable {count low high bits value n : Nat} {byte : UInt8} {rest after : Bytes}

/-- A following byte carries six bits of a number. -/
theorem follow_digit (fits : low ≤ n % 64 + 128 ∧ n % 64 + 128 ≤ high) :
    follow (count + 1) low high value (UInt8.ofNat (n % 64 + 128) :: rest) =
      follow count 0x80 0xBF (value * 64 + n % 64) rest := by
  have byte : (UInt8.ofNat (n % 64 + 128)).toNat = n % 64 + 128 := by
    rw [UInt8.toNat_ofNat']
    omega
  have digit : (n % 64 + 128) % 64 = n % 64 := by omega
  rw [follow, byte, if_pos fits, digit]

theorem first_of_lead (lead : lead? byte.toNat = some (count, low, high, bits))
    (followed : follow count low high bits rest = (some value, after)) :
    first byte rest = (Char.ofNat value, after) := by
  simp only [first, lead, followed]

theorem lead?_one (small : n < 0x80) : lead? n = some (0, 0x80, 0xBF, n) := by
  rw [lead?, if_pos small]

theorem lead?_two (least : 0x80 ≤ n) (most : n < 0x800) :
    lead? (n / 64 + 192) = some (1, 0x80, 0xBF, n / 64) := by
  simp only [lead?]
  grind

theorem lead?_three (least : 0x800 ≤ n) (most : n < 0x10000) (valid : n < 0xD800 ∨ 0xDFFF < n) :
    ∃ low high, lead? (n / 4096 + 224) = some (2, low, high, n / 4096) ∧
      low ≤ n / 64 % 64 + 128 ∧ n / 64 % 64 + 128 ≤ high := by
  have lead (low high : Nat) (bounds : n / 4096 = 0 ∧ low = 0xA0 ∧ high = 0xBF ∨
      n / 4096 = 13 ∧ low = 0x80 ∧ high = 0x9F ∨
      n / 4096 ≠ 0 ∧ n / 4096 ≠ 13 ∧ low = 0x80 ∧ high = 0xBF) :
      lead? (n / 4096 + 224) = some (2, low, high, n / 4096) := by
    simp only [lead?]
    grind
  by_cases first : n / 4096 = 0
  · exact ⟨0xA0, 0xBF, lead _ _ (.inl ⟨first, rfl, rfl⟩), by omega, by omega⟩
  · by_cases surrogate : n / 4096 = 13
    · exact ⟨0x80, 0x9F, lead _ _ (.inr (.inl ⟨surrogate, rfl, rfl⟩)), by omega, by omega⟩
    · exact ⟨0x80, 0xBF, lead _ _ (.inr (.inr ⟨first, surrogate, rfl, rfl⟩)), by omega, by omega⟩

theorem lead?_four (least : 0x10000 ≤ n) (most : n < 0x110000) :
    ∃ low high, lead? (n / 262144 + 240) = some (3, low, high, n / 262144) ∧
      low ≤ n / 4096 % 64 + 128 ∧ n / 4096 % 64 + 128 ≤ high := by
  have lead (low high : Nat) (bounds : n / 262144 = 0 ∧ low = 0x90 ∧ high = 0xBF ∨
      n / 262144 = 4 ∧ low = 0x80 ∧ high = 0x8F ∨
      n / 262144 ≠ 0 ∧ n / 262144 ≠ 4 ∧ low = 0x80 ∧ high = 0xBF) :
      lead? (n / 262144 + 240) = some (3, low, high, n / 262144) := by
    simp only [lead?]
    grind
  by_cases first : n / 262144 = 0
  · exact ⟨0x90, 0xBF, lead _ _ (.inl ⟨first, rfl, rfl⟩), by omega, by omega⟩
  · by_cases last : n / 262144 = 4
    · exact ⟨0x80, 0x8F, lead _ _ (.inr (.inl ⟨last, rfl, rfl⟩)), by omega, by omega⟩
    · exact ⟨0x80, 0xBF, lead _ _ (.inr (.inr ⟨first, last, rfl, rfl⟩)), by omega, by omega⟩

theorem first_encode (c : Char) (rest : Bytes) :
    ∃ byte more, String.utf8EncodeChar c = byte :: more ∧ first byte (more ++ rest) = (c, rest) := by
  have same : Char.ofNat c.val.toNat = c := Char.ofNat_toNat c
  have valid : c.val.toNat < 0xD800 ∨ 0xDFFF < c.val.toNat ∧ c.val.toNat < 0x110000 := c.valid
  simp only [String.utf8EncodeChar]
  generalize c.val.toNat = n at same valid
  rw [← same]
  split
  · refine ⟨_, _, rfl, first_of_lead (?_ : lead? _ = some (0, 0x80, 0xBF, n)) rfl⟩
    rw [UInt8.toNat_ofNat', Nat.mod_eq_of_lt (by omega)]
    exact lead?_one (by omega)
  · split
    · refine ⟨_, _, rfl, first_of_lead (?_ : lead? _ = some (1, 0x80, 0xBF, n / 64)) ?_⟩
      · rw [UInt8.toNat_ofNat', Nat.mod_eq_of_lt (by omega), Nat.mod_eq_of_lt (by omega)]
        exact lead?_two (by omega) (by omega)
      · rw [List.singleton_append, follow_digit (by omega), follow]
        congr 2
        omega
    · split
      · obtain ⟨low, high, lead, fits⟩ : ∃ low high, _ :=
          lead?_three (n := n) (by omega) (by omega) (by omega)
        refine ⟨_, _, rfl, first_of_lead (?_ : lead? _ = some (2, low, high, n / 4096)) ?_⟩
        · rw [UInt8.toNat_ofNat', Nat.mod_eq_of_lt (by omega), Nat.mod_eq_of_lt (by omega)]
          exact lead
        · rw [List.cons_append, List.singleton_append, follow_digit fits, follow_digit (by omega),
            follow]
          congr 2
          omega
      · obtain ⟨low, high, lead, fits⟩ := lead?_four (n := n) (by omega) (by omega)
        refine ⟨_, _, rfl, first_of_lead (?_ : lead? _ = some (3, low, high, n / 262144)) ?_⟩
        · rw [UInt8.toNat_ofNat', Nat.mod_eq_of_lt (by omega), Nat.mod_eq_of_lt (by omega)]
          exact lead
        · rw [List.cons_append, List.cons_append, List.singleton_append, follow_digit fits,
            follow_digit (by omega), follow_digit (by omega), follow]
          congr 2
          omega

theorem decode_encode (text : List Char) : decode (text.flatMap String.utf8EncodeChar) = text := by
  induction text with
  | nil => rw [List.flatMap_nil, decode]
  | cons c later ih =>
    obtain ⟨byte, more, encoded, read⟩ := first_encode c (later.flatMap String.utf8EncodeChar)
    rw [List.flatMap_cons, encoded, List.cons_append, decode, read, ih]

theorem toList_eq (bytes : ByteArray) : bytes.toList = bytes.data.toList := by
  have loop (i : Nat) (read : List UInt8) :
      ByteArray.toList.loop bytes i read = read.reverse ++ bytes.data.toList.drop i := by
    fun_induction ByteArray.toList.loop bytes i read with
    | case1 i read inside ih =>
      have within : i < bytes.data.size := inside
      have byte : bytes.get! i = bytes.data[i] := getElem!_pos bytes.data i within
      rw [ih, byte, ← Array.getElem_toList, List.reverse_cons, List.append_assoc,
        List.singleton_append, ← List.drop_eq_getElem_cons]
    | case2 i read outside =>
      rw [List.drop_eq_nil_of_le (by simpa using outside), List.append_nil]
  rw [ByteArray.toList, loop]
  rfl

/-- A text is read as it was written. -/
theorem text_toUTF8 (text : String) : Utf8.text text.toUTF8.toList = text := by
  have bytes : text.toUTF8 = text.toList.utf8Encode := String.utf8Encode_toList.symm
  rw [Utf8.text, toList_eq, bytes, List.utf8Encode, List.toList_data_toByteArray, decode_encode,
    String.ofList_toList]

end StreamDispatch.Text.Utf8
