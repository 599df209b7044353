import DeviceSupport.Text.Utf8

/-! Reading text gives back what was written.

One scalar takes the reader from between two scalars to between two scalars again
(`foldl_step_encodeChar`), so reading a whole text collects its scalars (`decode_encode`). A text
without NULs also survives in a field that is filled up with zeros (`decodeField_encode_zeros`). A
text that is cut by far does not come back (`decode_take_ne`). -/
namespace DeviceSupport.Utf8
set_option autoImplicit false

/-! ## One byte -/

theorem ofNat_toNat_of_lt {n : Nat} (h : n < 256) : (UInt8.ofNat n).toNat = n :=
  Nat.mod_eq_of_lt h

theorem ofNat_le_ofNat {m n : Nat} (hm : m < 256) (hn : n < 256) :
    UInt8.ofNat m ≤ UInt8.ofNat n ↔ m ≤ n := by
  rw [UInt8.le_iff_toNat_le, ofNat_toNat_of_lt hm, ofNat_toNat_of_lt hn]

/-- The byte that a scalar goes on with. -/
theorem step_last (done : List Char) (low high value n : Nat) (hlow : low ≤ n % 64 + 0x80)
    (hhigh : n % 64 + 0x80 ≤ high) (hbyte : high < 256) :
    step (done, .within 0 (UInt8.ofNat low) (UInt8.ofNat high) value)
        (UInt8.ofNat (n % 64 + 0x80)) =
      (Char.ofNat (value * 64 + n % 64) :: done, .between) := by
  have hn : n % 64 + 0x80 < 256 := by omega
  have hin : UInt8.ofNat low ≤ UInt8.ofNat (n % 64 + 0x80) ∧
      UInt8.ofNat (n % 64 + 0x80) ≤ UInt8.ofNat high :=
    ⟨(ofNat_le_ofNat (by omega) hn).mpr hlow, (ofNat_le_ofNat hn hbyte).mpr hhigh⟩
  rw [step, if_pos hin, ofNat_toNat_of_lt hn, Nat.add_sub_cancel]

theorem step_more (done : List Char) (owed low high value n : Nat) (hlow : low ≤ n % 64 + 0x80)
    (hhigh : n % 64 + 0x80 ≤ high) (hbyte : high < 256) :
    step (done, .within (owed + 1) (UInt8.ofNat low) (UInt8.ofNat high) value)
        (UInt8.ofNat (n % 64 + 0x80)) =
      (done, .within owed (UInt8.ofNat 0x80) (UInt8.ofNat 0xBF) (value * 64 + n % 64)) := by
  have hn : n % 64 + 0x80 < 256 := by omega
  have hin : UInt8.ofNat low ≤ UInt8.ofNat (n % 64 + 0x80) ∧
      UInt8.ofNat (n % 64 + 0x80) ≤ UInt8.ofNat high :=
    ⟨(ofNat_le_ofNat (by omega) hn).mpr hlow, (ofNat_le_ofNat hn hbyte).mpr hhigh⟩
  rw [step, if_pos hin, ofNat_toNat_of_lt hn, Nat.add_sub_cancel]
  rfl

/-- The first byte of a scalar of two bytes. -/
theorem step_lead_two (done : List Char) {n : Nat} (hlow : 2 ≤ n) (hhigh : n < 32) :
    step (done, .between) (UInt8.ofNat (n % 32 + 0xC0)) =
      (done, .within 0 (UInt8.ofNat 0x80) (UInt8.ofNat 0xBF) n) := by
  have hmod : n % 32 = n := Nat.mod_eq_of_lt hhigh
  rw [step, lead, hmod, ofNat_toNat_of_lt (by omega)]
  rw [if_neg (by omega), if_pos (by omega), Nat.add_sub_cancel]
  rfl

/-- The first byte of a scalar of three bytes bounds the second where a shorter form or a surrogate
would begin. -/
theorem step_lead_three (done : List Char) {n : Nat} (hhigh : n < 16) :
    step (done, .between) (UInt8.ofNat (n % 16 + 0xE0)) =
      (done, .within 1 (UInt8.ofNat (if n = 0 then 0xA0 else 0x80))
        (UInt8.ofNat (if n = 13 then 0x9F else 0xBF)) n) := by
  have hmod : n % 16 = n := Nat.mod_eq_of_lt hhigh
  rw [step, lead, hmod, ofNat_toNat_of_lt (by omega), if_neg (by omega), if_neg (by omega)]
  by_cases hzero : n = 0
  · subst hzero
    rfl
  by_cases hthirteen : n = 13
  · subst hthirteen
    rfl
  rw [if_neg (by omega), if_neg (by omega), if_pos (by omega), Nat.add_sub_cancel, if_neg hzero,
    if_neg hthirteen]
  rfl

theorem step_lead_four (done : List Char) {n : Nat} (hhigh : n < 5) :
    step (done, .between) (UInt8.ofNat (n % 8 + 0xF0)) =
      (done, .within 2 (UInt8.ofNat (if n = 0 then 0x90 else 0x80))
        (UInt8.ofNat (if n = 4 then 0x8F else 0xBF)) n) := by
  have hmod : n % 8 = n := Nat.mod_eq_of_lt (by omega)
  rw [step, lead, hmod, ofNat_toNat_of_lt (by omega), if_neg (by omega), if_neg (by omega),
    if_neg (by omega), if_neg (by omega), if_neg (by omega)]
  by_cases hzero : n = 0
  · subst hzero
    rfl
  by_cases hfour : n = 4
  · subst hfour
    rfl
  rw [if_neg (by omega), if_pos (by omega), Nat.add_sub_cancel, if_neg hzero, if_neg hfour]
  rfl

/-! ## One scalar -/

theorem foldl_step_encodeChar (done : List Char) (c : Char) :
    (String.utf8EncodeChar c).foldl step (done, .between) = (c :: done, .between) := by
  have hvalid : c.val.toNat < 0xD800 ∨ 0xDFFF < c.val.toNat ∧ c.val.toNat < 0x110000 := c.valid
  have hofNat : Char.ofNat c.val.toNat = c := Char.ofNat_toNat c
  generalize hv : c.val.toNat = v at hvalid hofNat
  unfold String.utf8EncodeChar
  dsimp only
  rw [hv]
  by_cases h₁ : v ≤ 0x7F
  · rw [if_pos h₁, List.foldl_cons, List.foldl_nil, step, lead, ofNat_toNat_of_lt (by omega),
      if_pos (by omega), hofNat]
  rw [if_neg h₁]
  by_cases h₂ : v ≤ 0x7FF
  · have hsum : v / 64 * 64 + v % 64 = v := by omega
    rw [if_pos h₂, List.foldl_cons, List.foldl_cons, List.foldl_nil,
      step_lead_two done (by omega) (by omega),
      step_last done _ _ _ v (by omega) (by omega) (by omega), hsum, hofNat]
  rw [if_neg h₂]
  by_cases h₃ : v ≤ 0xFFFF
  · have hsum : (v / 4096 * 64 + v / 64 % 64) * 64 + v % 64 = v := by omega
    rw [if_pos h₃, List.foldl_cons, List.foldl_cons, List.foldl_cons, List.foldl_nil,
      step_lead_three done (by omega),
      step_more done 0 _ _ _ (v / 64) (by split <;> omega) (by split <;> omega)
        (by split <;> omega),
      step_last done _ _ _ v (by omega) (by omega) (by omega), hsum, hofNat]
  · have hsum : ((v / 262144 * 64 + v / 4096 % 64) * 64 + v / 64 % 64) * 64 + v % 64 = v := by
      omega
    rw [if_neg h₃, List.foldl_cons, List.foldl_cons, List.foldl_cons, List.foldl_cons,
      List.foldl_nil, step_lead_four done (by omega),
      step_more done 1 _ _ _ (v / 4096) (by split <;> omega) (by split <;> omega)
        (by split <;> omega),
      step_more done 0 _ _ _ (v / 64) (by omega) (by omega) (by omega),
      step_last done _ _ _ v (by omega) (by omega) (by omega), hsum, hofNat]

/-! ## Texts -/

theorem foldl_step_encodeChars (done cs : List Char) :
    (cs.flatMap String.utf8EncodeChar).foldl step (done, .between) =
      (cs.reverse ++ done, .between) := by
  induction cs generalizing done with
  | nil => rfl
  | cons c cs ih =>
    rw [List.flatMap_cons, List.foldl_append, foldl_step_encodeChar, ih, List.reverse_cons,
      List.append_assoc, List.singleton_append]

theorem decode_encode (text : String) : decode (encode text) = text := by
  rw [decode, encode, foldl_step_encodeChars, finish, List.append_nil, List.reverse_reverse,
    String.ofList_toList]

/-! ## Fields -/

/-- A text without NULs. -/
def IsPlain (text : String) : Prop := Char.ofNat 0 ∉ text.toList

instance (text : String) : Decidable (IsPlain text) := inferInstanceAs (Decidable (_ ∉ _))

theorem encodeChar_nonzero {c : Char} (h : c ≠ Char.ofNat 0) (b : UInt8)
    (hb : b ∈ String.utf8EncodeChar c) : b ≠ 0 := by
  have hpos : 0 < c.val.toNat := by
    refine Nat.pos_of_ne_zero fun hzero => h (Char.ext (UInt32.toNat.inj ?_))
    exact hzero
  have hnonzero : ∀ n : Nat, 0 < n → n < 256 → UInt8.ofNat n ≠ 0 := by
    intro n hn hlt hzero
    have := congrArg UInt8.toNat hzero
    rw [ofNat_toNat_of_lt hlt] at this
    exact absurd this (by simp; omega)
  have hvalid : c.val.toNat < 0xD800 ∨ 0xDFFF < c.val.toNat ∧ c.val.toNat < 0x110000 := c.valid
  unfold String.utf8EncodeChar at hb
  dsimp only at hb
  split at hb
  · simp only [List.mem_cons, List.not_mem_nil, or_false] at hb
    subst hb
    exact hnonzero _ hpos (by omega)
  split at hb
  · simp only [List.mem_cons, List.not_mem_nil, or_false] at hb
    rcases hb with rfl | rfl <;> exact hnonzero _ (by omega) (by omega)
  split at hb
  · simp only [List.mem_cons, List.not_mem_nil, or_false] at hb
    rcases hb with rfl | rfl | rfl <;> exact hnonzero _ (by omega) (by omega)
  · simp only [List.mem_cons, List.not_mem_nil, or_false] at hb
    rcases hb with rfl | rfl | rfl | rfl <;> exact hnonzero _ (by omega) (by omega)

theorem encode_nonzero {text : String} (h : IsPlain text) (b : UInt8) (hb : b ∈ encode text) :
    b ≠ 0 := by
  obtain ⟨c, hc, hb⟩ := List.mem_flatMap.mp hb
  exact encodeChar_nonzero (fun hzero => h (hzero ▸ hc)) b hb

theorem beforeNul_append {bytes : List UInt8} (h : ∀ b ∈ bytes, b ≠ 0) (rest : List UInt8) :
    beforeNul (bytes ++ rest) = bytes ++ beforeNul rest := by
  unfold beforeNul
  rw [List.takeWhile_append_of_pos]
  intro b hb
  exact decide_eq_true (h b hb)

theorem beforeNul_eq_self {bytes : List UInt8} (h : ∀ b ∈ bytes, b ≠ 0) : beforeNul bytes = bytes :=
  (congrArg beforeNul (List.append_nil bytes).symm).trans
    ((beforeNul_append h []).trans (List.append_nil bytes))

theorem beforeNul_zeros (n : Nat) : beforeNul (List.replicate n 0) = [] := by
  cases n <;> rfl

/-- A text is read back from a field, whatever number of zeros fills it up. -/
theorem decodeField_encode_zeros {text : String} (h : IsPlain text) (n : Nat) :
    decodeField (encode text ++ List.replicate n 0) = text := by
  rw [decodeField, beforeNul_append (encode_nonzero h), beforeNul_zeros, List.append_nil,
    decode_encode]

/-! ## Cut texts

What is read from the front of a text has few scalars: those of the front, and some more for a
scalar that was cut. -/

theorem length_lead_le (done : List Char) (b : UInt8) : (lead done b).1.length ≤ done.length + 1 := by
  unfold lead
  dsimp only
  repeat' split
  all_goals simp

theorem length_step_le (s : List Char × Progress) (b : UInt8) :
    (step s b).1.length ≤ s.1.length + 2 := by
  obtain ⟨done, progress⟩ := s
  cases progress with
  | between =>
    have := length_lead_le done b
    simp only [step]
    omega
  | within owed low high value =>
    have := length_lead_le (replacement :: done) b
    simp only [List.length_cons] at this
    simp only [step]
    split
    · cases owed <;> simp
    · omega

theorem length_foldl_step_le (bytes : List UInt8) (s : List Char × Progress) :
    (bytes.foldl step s).1.length ≤ s.1.length + 2 * bytes.length := by
  induction bytes generalizing s with
  | nil => simp
  | cons b bytes ih =>
    have := length_step_le s b
    have := ih (step s b)
    simp only [List.foldl_cons, List.length_cons]
    omega

theorem length_finish_le (s : List Char × Progress) : (finish s).length ≤ s.1.length + 1 := by
  obtain ⟨done, progress⟩ := s
  cases progress <;> simp [finish]

theorem length_encodeChars_le (cs : List Char) :
    (cs.flatMap String.utf8EncodeChar).length ≤ 4 * cs.length := by
  induction cs with
  | nil => simp
  | cons c cs ih =>
    have hfour : (String.utf8EncodeChar c).length ≤ 4 := by
      rw [String.length_utf8EncodeChar]
      exact c.utf8Size_le_four
    simp only [List.flatMap_cons, List.length_append, List.length_cons]
    omega

/-- Bytes that are missing are missing as scalars, at four bytes each. -/
theorem length_read_take_le (cs done : List Char) (n : Nat) :
    (cs.flatMap String.utf8EncodeChar).length +
        4 * (finish (((cs.flatMap String.utf8EncodeChar).take n).foldl step (done, .between))).length ≤
      n + 4 * (cs.length + done.length) + 28 := by
  induction cs generalizing done n with
  | nil =>
    simp [finish]
    omega
  | cons c cs ih =>
    rw [List.flatMap_cons, List.take_append, List.foldl_append, List.length_append,
      List.length_cons]
    by_cases hwhole : (String.utf8EncodeChar c).length ≤ n
    · have htail := ih (c :: done) (n - (String.utf8EncodeChar c).length)
      rw [List.length_cons] at htail
      rw [List.take_of_length_le hwhole, foldl_step_encodeChar]
      omega
    · -- The cut lies inside this scalar, so nothing of the others is read.
      have hrest := length_encodeChars_le cs
      have hfour : (String.utf8EncodeChar c).length ≤ 4 := by
        rw [String.length_utf8EncodeChar]
        exact c.utf8Size_le_four
      have hnone : n - (String.utf8EncodeChar c).length = 0 := by omega
      have hread := length_foldl_step_le ((String.utf8EncodeChar c).take n) (done, .between)
      have htaken : ((String.utf8EncodeChar c).take n).length ≤ n := List.length_take_le n _
      have hlast := length_finish_le (((String.utf8EncodeChar c).take n).foldl step (done, .between))
      rw [hnone, List.take_zero, List.foldl_nil]
      dsimp only at hread
      omega

theorem decode_take_ne {text : String} {n : Nat} (h : n + 28 < (encode text).length) :
    decode ((encode text).take n) ≠ text := by
  intro hsame
  have hread := length_read_take_le text.toList [] n
  have hlength : (finish (((encode text).take n).foldl step ([], .between))).length =
      text.toList.length := by
    rw [← congrArg (fun t => t.toList.length) hsame, decode, String.toList_ofList]
  rw [← encode, hlength] at hread
  simp only [List.length_nil] at hread
  omega

end DeviceSupport.Utf8
