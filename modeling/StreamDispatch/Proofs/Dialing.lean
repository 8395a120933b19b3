import StreamDispatch.Echo.Command

/-! The language of dial strings. Which texts name a host and a port is said here with the splitting
and the decimal digits of the library and without the parser; the parser accepts exactly these, and
refuses every other text for the first test that fails. -/
namespace StreamDispatch

variable {text host : List Char} {port number value : Nat}

namespace Text

/-! ### Fields and digits -/

theorem fields_eq_splitOn (separator : Char) (text : List Char) :
    fields separator text = text.splitOn separator := by
  induction text with
  | nil => rfl
  | cons head rest ih =>
    rw [List.splitOn_cons_eq_if_modifyHead, fields, ih]
    by_cases same : head = separator
    · rw [if_pos same, if_pos (beq_iff_eq.mpr same)]
    · rw [if_neg same, if_neg (mt beq_iff_eq.mp same)]
      cases found : rest.splitOn separator with
      | nil => exact absurd found (List.splitOn_ne_nil separator rest)
      | cons field more => rfl

theorem digit?_ten (c : Char) :
    digit? 10 c = if c.isDigit then some (c.toNat - '0'.toNat) else none := by
  have ascii : '0' ≤ c ∧ c ≤ '9' ↔ c.isDigit := by simp [Char.isDigit, Char.le_def]
  by_cases digit : c.isDigit
  · have small : c.toNat - '0'.toNat < 10 := by
      have range := Char.isDigit_iff_toNat.mp digit
      have nine : '9'.toNat = '0'.toNat + 9 := rfl
      omega
    simp only [digit?, if_pos (ascii.mpr digit), if_pos small, if_pos digit]
  · simp only [digit?, if_neg (mt ascii.mp digit), if_neg digit]
    split
    · exact if_neg (by omega)
    · split <;> exact if_neg (by omega)

theorem digits?_eq_some :
    digits? 10 value text = some number ↔
      (∀ c ∈ text, c.isDigit) ∧ Nat.ofDigitChars 10 text value = number := by
  induction text generalizing value with
  | nil => simp [digits?]
  | cons c rest ih =>
    rw [digits?, digit?_ten, Nat.ofDigitChars_cons, List.forall_mem_cons]
    by_cases digit : c.isDigit
    · simp only [digit, if_true, true_and]
      rw [ih, Nat.mul_comm]
    · simp [digit]

theorem numeral?_eq_some :
    numeral? 10 text = some number ↔
      text ≠ [] ∧ (∀ c ∈ text, c.isDigit) ∧ Nat.ofDigitChars 10 text 0 = number := by
  cases text with
  | nil => simp [numeral?]
  | cons c rest =>
    simp only [numeral?, digits?_eq_some, ne_eq, reduceCtorEq, not_false_iff, true_and]

end Text

namespace Dial

/-! ### Ports -/

/-- One decimal digit or more, for a number that a port can have. -/
structure Digits (text : List Char) (port : Nat) : Prop where
  some : text ≠ []
  decimal : ∀ c ∈ text, c.isDigit
  value : Nat.ofDigitChars 10 text 0 = port
  small : port ≤ 65535

/-- Digits, or a plus sign and digits. -/
inductive Writes : List Char → Nat → Prop where
  | plain {text : List Char} {port : Nat} (digits : Digits text port) : Writes text port
  | signed {text : List Char} {port : Nat} (digits : Digits text port) : Writes ('+' :: text) port

theorem digits_iff : Digits text port ↔ Text.numeral? 10 text = some port ∧ port < 65536 := by
  rw [Text.numeral?_eq_some]
  constructor
  · rintro ⟨some, decimal, value, small⟩
    exact ⟨⟨some, decimal, value⟩, Nat.lt_succ_of_le small⟩
  · rintro ⟨⟨some, decimal, value⟩, small⟩
    exact ⟨some, decimal, value, Nat.le_of_lt_succ small⟩

/-- A plus sign is no digit. -/
theorem Digits.unsigned (digits : Digits ('+' :: text) port) : False :=
  absurd (digits.decimal '+' (List.mem_cons_self ..)) (by decide)

theorem port?_signed : port? ('+' :: text) = some port ↔ Digits text port := by
  rw [digits_iff, port?, Text.natBelow?]
  cases Text.numeral? 10 text with
  | none => simp
  | some value => grind

theorem port?_unsigned (unsigned : ∀ rest, text ≠ '+' :: rest) :
    port? text = some port ↔ Digits text port := by
  rw [digits_iff, port?, Text.natBelow?]
  · cases Text.numeral? 10 text with
    | none => simp
    | some value => grind
  · exact unsigned

/-- What is read as a port is exactly what writes one. -/
theorem port?_eq_some : port? text = some port ↔ Writes text port := by
  constructor
  · intro read
    by_cases signed : ∃ rest, text = '+' :: rest
    · obtain ⟨rest, rfl⟩ := signed
      exact .signed (port?_signed.mp read)
    · exact .plain ((port?_unsigned fun rest same => signed ⟨rest, same⟩).mp read)
  · rintro (digits | digits)
    · refine (port?_unsigned ?_).mpr digits
      rintro rest rfl
      exact digits.unsigned
    · exact port?_signed.mpr digits

theorem digits_toString (small : port ≤ 65535) : Digits (toString port).toList port := by
  rw [Nat.toString_eq_repr, Nat.toList_repr]
  refine ⟨Nat.toDigits_ne_nil, ?_, Nat.ofDigitChars_ten_toDigits, small⟩
  intro c member
  exact Nat.isDigit_of_mem_toDigits (by decide) (by decide) member

theorem Digits.clean (digits : Digits text port) : '!' ∉ text :=
  fun member => absurd (digits.decimal '!' member) (by decide)

/-! ### The tests, one after the other -/

/-- The first test that fails, on the pieces of a text, and what is said of it: there are fewer than
three, the first is not the protocol, or the third writes no port. -/
inductive Refused : List (List Char) → String → Prop where
  | few {pieces : List (List Char)} (short : pieces.length < 3) :
      Refused pieces "expected proto!address!port"
  | protocol {name host text : List Char} {more : List (List Char)}
      (other : name ≠ ['t', 'c', 'p']) :
      Refused (name :: host :: text :: more) ("unsupported protocol: " ++ String.ofList name)
  | port {host text : List Char} {more : List (List Char)}
      (illegible : ∀ port, ¬ Writes text port) :
      Refused (['t', 'c', 'p'] :: host :: text :: more) ("invalid port: " ++ String.ofList text)

variable {dial name : List Char} {fault : DialFault}

theorem parts?_eq_some :
    parts? dial = some (name, host, text) ↔
      ∃ more, dial.splitOn '!' = name :: host :: text :: more := by
  rw [parts?, Text.fields_eq_splitOn]
  constructor
  · intro found
    split at found
    · rename_i more split
      obtain ⟨rfl, rfl, rfl⟩ := Option.some.inj found
      exact ⟨more, split⟩
    · simp at found
  · rintro ⟨more, split⟩
    rw [split]

theorem few_of_parts? (none : parts? dial = none) : (dial.splitOn '!').length < 3 := by
  rw [parts?, Text.fields_eq_splitOn] at none
  match split : dial.splitOn '!' with
  | [] | [_] | [_, _] => simp
  | name :: host :: text :: more => simp [split] at none

/-- The texts that are accepted, with what they are read as. -/
theorem parse_eq_ok :
    parse dial = .ok (host, port) ↔
      ∃ text more, dial.splitOn '!' = ['t', 'c', 'p'] :: host :: text :: more ∧
        Writes text port := by
  rw [parse]
  constructor
  · intro accepted
    split at accepted
    · simp at accepted
    · rename_i name _ text found
      obtain ⟨more, split⟩ := parts?_eq_some.mp found
      split at accepted
      · rename_i same
        split at accepted
        · rename_i read
          obtain ⟨rfl, rfl⟩ := Prod.mk.inj (Except.ok.inj accepted)
          exact ⟨text, more, same ▸ split, port?_eq_some.mp read⟩
        · simp at accepted
      · simp at accepted
  · rintro ⟨text, more, split, written⟩
    rw [parts?_eq_some.mpr ⟨more, split⟩]
    simp only [if_true, port?_eq_some.mpr written]

theorem parse_refused (failed : parse dial = .error fault) :
    Refused (dial.splitOn '!') (IoError.dial fault).message := by
  rw [parse] at failed
  split at failed
  · rename_i none
    obtain rfl := Except.error.inj failed
    exact .few (few_of_parts? none)
  · rename_i name host text found
    obtain ⟨more, split⟩ := parts?_eq_some.mp found
    rw [split]
    split at failed
    · rename_i same
      subst same
      split at failed
      · simp at failed
      · rename_i unread
        obtain rfl := Except.error.inj failed
        refine .port fun port written => ?_
        rw [port?_eq_some.mpr written] at unread
        simp at unread
    · rename_i other
      obtain rfl := Except.error.inj failed
      exact .protocol other

/-- The dial string of a host and a port is cut back into these two behind the protocol. -/
theorem splitOn_address (clean : '!' ∉ host) (small : port ≤ 65535) :
    (['t', 'c', 'p'] ++ '!' :: (host ++ '!' :: (toString port).toList)).splitOn '!' =
      [['t', 'c', 'p'], host, (toString port).toList] := by
  rw [List.splitOn_append_cons_self_of_not_mem (by decide),
    List.splitOn_append_cons_self_of_not_mem clean,
    List.splitOn_eq_singleton (digits_toString small).clean]

end Dial

namespace Echo

variable {address : String}

/-- An address is read as its dial string is, and a fault of that is an error of input. -/
theorem target_eq_ok :
    target address = .ok (host, port) ↔ Dial.parse address.toList = .ok (host, port) := by
  rw [target]
  cases Dial.parse address.toList with
  | ok found =>
    constructor
    · intro same
      exact congrArg Except.ok (Except.ok.inj same)
    · intro same
      exact congrArg Except.ok (Except.ok.inj same)
  | error fault => exact iff_of_false nofun nofun

theorem target_eq_error {error : Error} (failed : target address = .error error) :
    ∃ fault, error = .io (.dial fault) ∧ Dial.parse address.toList = .error fault := by
  rw [target] at failed
  cases parsed : Dial.parse address.toList with
  | ok found =>
    rw [parsed] at failed
    exact nomatch failed
  | error fault =>
    rw [parsed] at failed
    exact ⟨fault, (Except.error.inj failed).symm, rfl⟩

/-- An address is accepted exactly if it has three pieces or more between exclamation marks, the
first is the protocol, the second the host and the third writes the port. Otherwise it is refused as
invalid input with the text of the first test that fails. So the dial string of a host without an
exclamation mark and of any port is read back as that host and that port. -/
theorem target_reads_dial_strings :
    (∀ (address : String) (host : List Char) (port : Nat),
      target address = .ok (host, port) ↔
        ∃ text more, address.toList.splitOn '!' = ['t', 'c', 'p'] :: host :: text :: more ∧
          Dial.Writes text port) ∧
    (∀ (address : String) (error : Error), target address = .error error →
      ∃ cause, error = .io cause ∧ cause.kind = .invalidInput ∧
        Dial.Refused (address.toList.splitOn '!') cause.message) ∧
    ∀ (host : String) (port : Nat), '!' ∉ host.toList → port ≤ 65535 →
      target ("tcp!" ++ host ++ "!" ++ toString port) = .ok (host.toList, port) := by
  refine ⟨fun address host port => target_eq_ok.trans Dial.parse_eq_ok, ?_, ?_⟩
  · intro address error failed
    obtain ⟨fault, rfl, parsed⟩ := target_eq_error failed
    exact ⟨.dial fault, rfl, rfl, Dial.parse_refused parsed⟩
  · intro host port clean small
    rw [target_eq_ok, Dial.parse_eq_ok]
    refine ⟨_, [], ?_, .plain (Dial.digits_toString small)⟩
    rw [← Dial.splitOn_address clean small]
    simp

theorem target_reads_dial_strings_loopback :
    '!' ∉ "127.0.0.1".toList ∧ 7000 ≤ 65535 ∧
      target "tcp!127.0.0.1!7000" = .ok ("127.0.0.1".toList, 7000) := by
  have clean : '!' ∉ "127.0.0.1".toList := by decide
  have small : 7000 ≤ 65535 := by decide
  exact ⟨clean, small, target_reads_dial_strings.2.2 "127.0.0.1" 7000 clean small⟩

/-- An empty host, a sign, leading zeros and a fourth piece. -/
example : target "tcp!!+00080!x" = .ok ([], 80) := by cbv

end Echo

end StreamDispatch
