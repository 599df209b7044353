import DeviceSupport.Json.Reader

/-! The tokens of JSON are read back as they were written.

Each character of a text is written as itself or as an escape, and in either form the reader takes
it for the same code point (`codePoints?_escape`). The digits of a natural number end at the first
character that cannot go on with it, which is what `Closes` asks of the text behind a value. -/
namespace DeviceSupport.Json
set_option autoImplicit false

/-! ## Texts -/

theorem codePoints?_quote (done : List Nat) (rest : List Char) :
    codePoints? done ('"' :: rest) = some (done.reverse, rest) := rfl

theorem codePoints?_hex (done : List Nat) (a b c d : Char) (rest : List Char) :
    codePoints? done ('\\' :: 'u' :: a :: b :: c :: d :: rest) =
      match hexValues? [a, b, c, d] with
      | some value => codePoints? (value :: done) rest
      | none => none := rfl

theorem codePoints?_plain (done : List Nat) {c : Char} (rest : List Char) (hquote : c ≠ '"')
    (hslash : c ≠ '\\') (hcontrol : 0x20 ≤ c.toNat) :
    codePoints? done (c :: rest) = codePoints? (c.toNat :: done) rest := by
  rw [codePoints?]
  · rw [if_neg (by omega)]
  · exact fun h => hquote h
  · exact fun _ _ _ _ _ h _ => hslash h
  · exact fun _ _ h _ => hslash h

theorem codePoints?_short (done : List Nat) {c : Char} {n : Nat} (rest : List Char) (hu : c ≠ 'u')
    (h : shortEscape? c = some n) :
    codePoints? done ('\\' :: c :: rest) = codePoints? (n :: done) rest := by
  rw [codePoints?, h]
  intro a b c' d rest' hc
  exact absurd hc hu

theorem hexValues?_byte {n : Nat} (h : n < 256) :
    hexValues? ['0', '0', Nat.digitChar (n / 16), Nat.digitChar (n % 16)] = some n := by
  have high := Hexadecimal.digitValue?_digitChar (n / 16) (by omega)
  have low := Hexadecimal.digitValue?_digitChar (n % 16) (by omega)
  have zero : Hexadecimal.digitValue? '0' = some 0 := rfl
  have sum : n / 16 * 16 + n % 16 = n := by omega
  simp [hexValues?, high, low, zero, sum]

/-- A character is read as its own code point, in whichever form it was written. -/
theorem codePoints?_escape (done : List Nat) (c : Char) (rest : List Char) :
    codePoints? done ((escape c).toList ++ rest) = codePoints? (c.toNat :: done) rest := by
  unfold escape
  iterate 7
    split
    next h =>
      subst h
      exact codePoints?_short done rest (by decide) rfl
  split
  next hcontrol =>
    have hvalue := hexValues?_byte (n := c.toNat) (by omega)
    have hlist : ("\\u00" : String).toList = ['\\', 'u', '0', '0'] := rfl
    simp only [String.toList_append, String.toList_ofList, hlist, List.cons_append, List.nil_append]
    rw [codePoints?_hex, hvalue]
  next hquote hslash _ _ _ _ _ hcontrol =>
    rw [String.toList_singleton]
    exact codePoints?_plain done rest hquote hslash (by omega)

theorem codePoints?_escapes (done : List Nat) (cs rest : List Char) :
    codePoints? done (cs.flatMap (fun c => (escape c).toList) ++ '"' :: rest) =
      some (done.reverse ++ cs.map Char.toNat, rest) := by
  induction cs generalizing done with
  | nil => simp [codePoints?_quote]
  | cons c cs ih => simp [codePoints?_escape, ih]

/-- No character is half a surrogate pair. -/
theorem char_notHalf (c : Char) : isHighHalf c.toNat = false ∧ isLowHalf c.toNat = false := by
  have hvalid : c.toNat < 0xD800 ∨ 0xDFFF < c.toNat ∧ c.toNat < 0x110000 := c.valid
  simp only [isHighHalf, isLowHalf, Bool.and_eq_false_iff, decide_eq_false_iff_not]
  omega

theorem joinHalves?_characters (done cs : List Char) :
    joinHalves? done none (cs.map Char.toNat) = some (String.ofList (done.reverse ++ cs)) := by
  induction cs generalizing done with
  | nil => simp [joinHalves?]
  | cons c cs ih => simp [joinHalves?, char_notHalf, ih]

theorem toList_quote (value : String) :
    (quote value).toList = '"' :: (value.toList.flatMap (fun c => (escape c).toList) ++ ['"']) := by
  have written : ∀ (cs : List Char) (before : String),
      (cs.foldl (fun w c => w ++ escape c) before).toList =
        before.toList ++ cs.flatMap fun c => (escape c).toList := by
    intro cs
    induction cs with
    | nil => simp
    | cons c cs ih => simp [ih]
  simp [quote, written]

/-- A text is read back, whatever stands behind its closing quote. -/
theorem quoted?_quote (value : String) (rest : List Char) :
    quoted? ((quote value).toList.tail ++ rest) = some (some value, rest) := by
  simp [toList_quote, quoted?, codePoints?_escapes, joinHalves?_characters]

/-! ## Numbers -/

/-- Text that does not go on with the number before it. -/
def Closes (rest : List Char) : Prop :=
  ∀ c ∈ rest.head?, isDigit c = false ∧ c ≠ '.' ∧ c ≠ 'e' ∧ c ≠ 'E'

theorem isDigit_of_mem_toDigits {n : Nat} {c : Char} (h : c ∈ Nat.toDigits 10 n) :
    isDigit c = true := by
  have hdigit := Nat.isDigit_of_mem_toDigits (by decide) (by decide) h
  simp only [Char.isDigit, Bool.and_eq_true, decide_eq_true_eq] at hdigit
  obtain ⟨hlow, hhigh⟩ := hdigit
  have hlow : 48 ≤ c.toNat := UInt32.le_iff_toNat_le.mp hlow
  have hhigh : c.toNat ≤ 57 := UInt32.le_iff_toNat_le.mp hhigh
  simp [isDigit, hlow, hhigh]

theorem toDigits_eq_cons (n : Nat) :
    ∃ c front, Nat.toDigits 10 n = c :: front ∧ isDigit c = true := by
  cases hdigits : Nat.toDigits 10 n with
  | nil => exact absurd hdigits Nat.toDigits_ne_nil
  | cons c front =>
    exact ⟨c, front, rfl, isDigit_of_mem_toDigits (n := n) (by simp [hdigits])⟩

theorem closes_takeWhile {rest : List Char} (h : Closes rest) : rest.takeWhile isDigit = [] := by
  cases rest with
  | nil => rfl
  | cons c rest => simp [(h c rfl).1]

theorem closes_dropWhile {rest : List Char} (h : Closes rest) : rest.dropWhile isDigit = rest := by
  cases rest with
  | nil => rfl
  | cons c rest => simp [(h c rfl).1]

/-- Only zero is written with a zero in front. -/
theorem toDigits_ne_zero_cons {n : Nat} (hpos : 0 < n) (tail : List Char) :
    Nat.toDigits 10 n ≠ '0' :: tail := by
  induction n using Nat.strongRecOn generalizing tail with
  | ind n ih =>
    rw [Nat.toDigits_eq_if (by decide)]
    split
    next hlt =>
      intro h
      have := Nat.digitChar_eq_zero.mp (List.cons.inj h).1
      omega
    next hge =>
      intro h
      obtain ⟨c, front, hdigits, -⟩ := toDigits_eq_cons (n / 10)
      rw [hdigits] at h
      rw [(List.cons.inj h).1] at hdigits
      exact ih (n / 10) (by omega) (by omega) front hdigits

theorem digits?_toDigits (n : Nat) {rest : List Char} (h : Closes rest) :
    digits? (Nat.toDigits 10 n ++ rest) = some (Nat.toDigits 10 n, rest) := by
  have hall : ∀ c ∈ Nat.toDigits 10 n, isDigit c = true := fun c => isDigit_of_mem_toDigits
  have hne : Nat.toDigits 10 n ≠ [] := Nat.toDigits_ne_nil
  simp [digits?, List.takeWhile_append_of_pos hall, List.dropWhile_append_of_pos hall,
    closes_takeWhile h, closes_dropWhile h, hne]

theorem whole?_toDigits (n : Nat) {rest : List Char} (h : Closes rest) :
    whole? (Nat.toDigits 10 n ++ rest) = some (Nat.toDigits 10 n, rest) := by
  rcases Nat.eq_zero_or_pos n with rfl | hpos
  · rfl
  · rw [whole?, digits?_toDigits n h]
    intro tail hzero
    obtain ⟨c, front, hdigits, -⟩ := toDigits_eq_cons n
    rw [hdigits] at hzero
    rw [(List.cons.inj hzero).1] at hdigits
    exact toDigits_ne_zero_cons hpos front hdigits

theorem fraction?_of_closes {rest : List Char} (h : Closes rest) :
    fraction? rest = some ([], rest) := by
  cases rest with
  | nil => rfl
  | cons c rest =>
    rw [fraction?]
    intro tail hpoint
    exact (h c rfl).2.1 (List.cons.inj hpoint).1

theorem exponent?_of_closes {rest : List Char} (h : Closes rest) :
    exponent? rest = some ([], rest) := by
  cases rest with
  | nil => rfl
  | cons c rest =>
    obtain ⟨-, -, hlower, hupper⟩ := h c rfl
    simp [exponent?, hlower, hupper]

theorem number?_natural (n : Nat) {rest : List Char} (h : Closes rest) :
    number? (Nat.toDigits 10 n ++ rest) = some (natural n, rest) := by
  have hminus : ∀ tail, Nat.toDigits 10 n ++ rest ≠ '-' :: tail := by
    intro tail hsign
    obtain ⟨c, front, hdigits, hdigit⟩ := toDigits_eq_cons n
    rw [hdigits] at hsign
    rw [(List.cons.inj hsign).1] at hdigit
    exact absurd hdigit (by decide)
  rw [number?]
  · simp [whole?_toDigits n h, fraction?_of_closes h, exponent?_of_closes h, natural,
      Nat.repr_eq_ofList_toDigits]
  · exact hminus

theorem natural?_natural (n : Nat) : natural? (natural n) = some n := by
  have hall : (Nat.toDigits 10 n).all isDigit = true :=
    List.all_eq_true.mpr fun c => isDigit_of_mem_toDigits
  have hvalue : (Nat.toDigits 10 n).foldl (fun value c => value * 10 + (c.toNat - 48)) 0 = n := by
    have hread := Nat.ofDigitChars_toDigits (b := 10) (n := n) (by decide) (by decide)
    simpa [Nat.ofDigitChars, Nat.mul_comm] using hread
  simp [natural, natural?, Nat.toDigits_ne_nil, hall, hvalue]

end DeviceSupport.Json
