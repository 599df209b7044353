import DeviceSupport.Proofs.Json.Tokens

/-! A JSON value written over several lines is read back.

`Reads` says that a text is read as a value with just enough fuel: one unit for each character. The
lines of a block are `following` text, in which each line but the last is followed by a comma; the
reader goes through it item by item (`items?_following`) or field by field (`fields?_following`).
The values this holds of are the `Regular` ones: numbers are natural, and every text is a text. -/
namespace DeviceSupport.Json
set_option autoImplicit false

inductive Regular : Json → Prop where
  | null : Regular .null
  | bool (value : Bool) : Regular (.bool value)
  | natural (n : Nat) : Regular (natural n)
  | text (value : String) : Regular (.text value)
  | array {items : List Json} (h : ∀ item ∈ items, Regular item) : Regular (.array items)
  | object {fields : List (String × Json)} (h : ∀ field ∈ fields, Regular field.2) :
      Regular (.object fields)

def Reads (text : List Char) (v : Json) : Prop :=
  ∀ (fuel : Nat) (rest : List Char), text.length ≤ fuel → Closes rest →
    value? fuel (text ++ rest) = some (v, rest)

/-! ## Blanks -/

/-- The end of a line and the blanks before the next one. -/
def breakLine (depth : Nat) : List Char := '\n' :: (indent depth).toList

theorem skipBlanks_append {blanks : List Char} (h : ∀ c ∈ blanks, isBlank c = true)
    (cs : List Char) : skipBlanks (blanks ++ cs) = skipBlanks cs :=
  List.dropWhile_append_of_pos h

theorem skipBlanks_breakLine (depth : Nat) (cs : List Char) :
    skipBlanks (breakLine depth ++ cs) = skipBlanks cs := by
  refine skipBlanks_append (fun c hc => ?_) cs
  simp only [breakLine, indent, String.toList_ofList, List.mem_cons, List.mem_replicate] at hc
  rcases hc with rfl | ⟨-, rfl⟩ <;> rfl

theorem skipBlanks_cons {c : Char} (h : isBlank c = false) (cs : List Char) :
    skipBlanks (c :: cs) = c :: cs := by
  simp [skipBlanks, h]

/-! ## Blocks -/

/-- What stands behind the opening bracket of a block. -/
def following (depth : Nat) (closing : Char) (line : List Char) : List (List Char) → List Char
  | [] => breakLine (depth + 1) ++ line ++ breakLine depth ++ [closing]
  | next :: more => breakLine (depth + 1) ++ line ++ ',' :: following depth closing next more

theorem intercalate_lines (depth : Nat) (closing line : String) (more : List String) {c : Char}
    (hc : closing.toList = [c]) :
    '\n' :: ((",\n".intercalate ((line :: more).map (indent (depth + 1) ++ ·))).toList ++
      ('\n' :: ((indent depth).toList ++ closing.toList))) =
        following depth c line.toList (more.map String.toList) := by
  induction more generalizing line with
  | nil => simp [following, breakLine, hc]
  | cons next more ih =>
    have hcomma : (",\n" : String).toList = [',', '\n'] := rfl
    rw [List.map_cons (f := String.toList), following, ← ih next]
    simp [String.intercalate_cons_cons, hcomma, breakLine]

theorem toList_block (depth : Nat) (opening closing line : String) (more : List String)
    {o c : Char} (ho : opening.toList = [o]) (hc : closing.toList = [c]) :
    (block depth opening closing (line :: more)).toList =
      o :: following depth c line.toList (more.map String.toList) := by
  rw [← intercalate_lines depth closing line more hc]
  have hbreak : ("\n" : String).toList = ['\n'] := rfl
  simp [block, ho, hbreak]

/-- An item on a line of its own. -/
def itemLine (depth : Nat) (item : Json) : List Char := (prettyAt depth item).toList

/-- A field on a line of its own. -/
def fieldLine (depth : Nat) (field : String × Json) : List Char :=
  (quote field.1).toList ++ ':' :: ' ' :: (prettyAt depth field.2).toList

theorem toList_prettyItems (depth : Nat) (items : List Json) :
    (prettyItems depth items).map String.toList = items.map (itemLine depth) := by
  induction items with
  | nil => rfl
  | cons item items ih => simp [prettyItems_cons, itemLine, ih]

theorem toList_prettyFields (depth : Nat) (fields : List (String × Json)) :
    (prettyFields depth fields).map String.toList = fields.map (fieldLine depth) := by
  have hcolon : (": " : String).toList = [':', ' '] := rfl
  induction fields with
  | nil => rfl
  | cons field fields ih => simp [prettyFields_cons, fieldLine, hcolon, ih]

/-! ## Items and fields -/

theorem closes_breakLine (depth : Nat) (rest : List Char) : Closes (breakLine depth ++ rest) := by
  intro c hc
  cases hc
  decide

theorem closes_comma (rest : List Char) : Closes (',' :: rest) := by
  intro c hc
  cases hc
  decide

/-- The items of a block, by induction over those that are still to be read. -/
theorem items?_following {depth : Nat} {item : Json} {more : List Json}
    (hreads : ∀ i ∈ item :: more, Reads (itemLine (depth + 1) i) i) (done : List Json)
    (fuel : Nat) (rest : List Char)
    (hfuel : (following depth ']' (itemLine (depth + 1) item)
      (more.map (itemLine (depth + 1)))).length ≤ fuel) :
    items? fuel done
        (following depth ']' (itemLine (depth + 1) item) (more.map (itemLine (depth + 1))) ++
          rest) =
      some (.array (done.reverse ++ item :: more), rest) := by
  induction more generalizing item done fuel with
  | nil =>
    simp only [following, List.map_nil, List.length_append, List.length_singleton,
      List.append_assoc, List.singleton_append] at hfuel ⊢
    obtain ⟨fuel, rfl⟩ : ∃ k, fuel = k + 1 := ⟨fuel - 1, by omega⟩
    have hitem := hreads item List.mem_cons_self fuel (breakLine depth ++ ']' :: rest) (by omega)
      (closes_breakLine depth _)
    rw [items?, ← value?_skipBlanks, skipBlanks_breakLine, value?_skipBlanks, hitem]
    have hclosing : skipBlanks (breakLine depth ++ ']' :: rest) = ']' :: rest := by
      rw [skipBlanks_breakLine]
      exact skipBlanks_cons rfl rest
    simp [hclosing]
  | cons next more ih =>
    simp only [following, List.map_cons, List.length_append, List.length_cons, List.append_assoc,
      List.cons_append] at hfuel ⊢
    obtain ⟨fuel, rfl⟩ : ∃ k, fuel = k + 1 := ⟨fuel - 1, by omega⟩
    have hlater := ih (fun i hi => hreads i (List.mem_cons_of_mem item hi)) (item :: done) fuel
      (by omega)
    generalize following depth ']' (itemLine (depth + 1) next) (more.map (itemLine (depth + 1))) =
      later at hfuel hlater ⊢
    have hitem := hreads item List.mem_cons_self fuel (',' :: (later ++ rest)) (by omega)
      (closes_comma _)
    rw [items?, ← value?_skipBlanks, skipBlanks_breakLine, value?_skipBlanks, hitem]
    simp [skipBlanks_cons, isBlank, hlater]

/-- Behind a field a comma leads on to the next one, and a bracket closes the block. -/
theorem fields?_line {depth : Nat} {field : String × Json}
    (hreads : Reads (itemLine depth field.2) field.2) (done : List (Option String × Json))
    (fuel : Nat) (rest behind : List Char) (hfuel : (fieldLine depth field).length ≤ fuel)
    (hrest : Closes rest) :
    (skipBlanks rest = ',' :: behind →
      fields? (fuel + 1) done (fieldLine depth field ++ rest) =
        fields? fuel ((some field.1, field.2) :: done) behind) ∧
    (skipBlanks rest = '\x7d' :: behind →
      fields? (fuel + 1) done (fieldLine depth field ++ rest) =
        some (ofFields ((some field.1, field.2) :: done).reverse, behind)) := by
  simp only [fieldLine, List.length_append, List.length_cons] at hfuel
  have hvalue : value? fuel (' ' :: (itemLine depth field.2 ++ rest)) = some (field.2, rest) := by
    have hblank : ∀ c ∈ [' '], isBlank c = true := fun c hc => List.mem_singleton.mp hc ▸ rfl
    rw [← value?_skipBlanks, ← List.singleton_append, skipBlanks_append hblank, value?_skipBlanks]
    exact hreads fuel rest (by simp only [itemLine]; omega) hrest
  have hkey := quoted?_quote field.1 (':' :: ' ' :: (itemLine depth field.2 ++ rest))
  obtain ⟨key, hquote⟩ : ∃ key, (quote field.1).toList = '"' :: key := ⟨_, toList_quote field.1⟩
  rw [hquote, List.tail_cons] at hkey
  have hline : fieldLine depth field ++ rest =
      '"' :: (key ++ ':' :: ' ' :: (itemLine depth field.2 ++ rest)) := by
    simp [fieldLine, itemLine, hquote]
  have hcolon : skipBlanks (':' :: ' ' :: (itemLine depth field.2 ++ rest)) =
      ':' :: ' ' :: (itemLine depth field.2 ++ rest) := skipBlanks_cons rfl _
  constructor
  · intro hcomma
    rw [hline, fields?, skipBlanks_cons rfl]
    simp only [hkey, hcolon, hvalue, hcomma]
  · intro hclosing
    rw [hline, fields?, skipBlanks_cons rfl]
    simp only [hkey, hcolon, hvalue, hclosing]

theorem ofFields_some (fields : List (String × Json)) :
    ofFields (fields.map fun field => (some field.1, field.2)) = .object fields := by
  have hkeys : fields.mapM some = some fields := by
    induction fields with
    | nil => rfl
    | cons field fields ih => simp [ih]
  rw [ofFields, List.mapM_map]
  simp [hkeys, Function.comp_def]

/-- The fields of a block, by induction over those that are still to be read. -/
theorem fields?_following {depth : Nat} {field : String × Json} {more : List (String × Json)}
    (hreads : ∀ f ∈ field :: more, Reads (itemLine (depth + 1) f.2) f.2)
    (done : List (String × Json)) (fuel : Nat) (rest : List Char)
    (hfuel : (following depth '\x7d' (fieldLine (depth + 1) field)
      (more.map (fieldLine (depth + 1)))).length ≤ fuel) :
    fields? fuel (done.map fun f => (some f.1, f.2))
        (following depth '\x7d' (fieldLine (depth + 1) field)
          (more.map (fieldLine (depth + 1))) ++ rest) =
      some (.object (done.reverse ++ field :: more), rest) := by
  induction more generalizing field done fuel with
  | nil =>
    simp only [following, List.map_nil, List.length_append, List.length_singleton,
      List.append_assoc, List.singleton_append] at hfuel ⊢
    obtain ⟨fuel, rfl⟩ : ∃ k, fuel = k + 1 := ⟨fuel - 1, by omega⟩
    have hclosing : skipBlanks (breakLine depth ++ '\x7d' :: rest) = '\x7d' :: rest := by
      rw [skipBlanks_breakLine, skipBlanks_cons rfl]
    rw [← fields?_skipBlanks, skipBlanks_breakLine, fields?_skipBlanks,
      (fields?_line (hreads field List.mem_cons_self) _ fuel _ rest (by omega)
        (closes_breakLine depth _)).2 hclosing]
    have hall := ofFields_some (field :: done).reverse
    rw [List.map_reverse, List.map_cons] at hall
    simpa using hall
  | cons next more ih =>
    simp only [following, List.map_cons, List.length_append, List.length_cons, List.append_assoc,
      List.cons_append] at hfuel ⊢
    obtain ⟨fuel, rfl⟩ : ∃ k, fuel = k + 1 := ⟨fuel - 1, by omega⟩
    have hlater := ih (fun f hf => hreads f (List.mem_cons_of_mem field hf)) (field :: done) fuel
      (by omega)
    generalize following depth '\x7d' (fieldLine (depth + 1) next)
      (more.map (fieldLine (depth + 1))) = later at hfuel hlater ⊢
    have hcomma : skipBlanks (',' :: (later ++ rest)) = ',' :: (later ++ rest) :=
      skipBlanks_cons rfl _
    rw [← fields?_skipBlanks, skipBlanks_breakLine, fields?_skipBlanks,
      (fields?_line (hreads field List.mem_cons_self) _ fuel _ _ (by omega)
        (closes_comma _)).1 hcomma]
    simpa using hlater

/-! ## Values -/

theorem itemLine_null (depth : Nat) : itemLine depth .null = ['n', 'u', 'l', 'l'] := by
  rw [itemLine, prettyAt_null]
  rfl

theorem itemLine_true (depth : Nat) : itemLine depth (.bool true) = ['t', 'r', 'u', 'e'] := by
  rw [itemLine, prettyAt_bool]
  rfl

theorem itemLine_false (depth : Nat) :
    itemLine depth (.bool false) = ['f', 'a', 'l', 's', 'e'] := by
  rw [itemLine, prettyAt_bool]
  rfl

theorem itemLine_natural (depth n : Nat) : itemLine depth (natural n) = Nat.toDigits 10 n := by
  simp [itemLine, prettyAt_natural]

theorem itemLine_text (depth : Nat) (value : String) :
    itemLine depth (.text value) = (quote value).toList := by
  rw [itemLine, prettyAt_text]

theorem itemLine_array_nil (depth : Nat) : itemLine depth (.array []) = ['[', ']'] := by
  rw [itemLine, prettyAt_array]
  exact String.toList_append

theorem itemLine_array_cons (depth : Nat) (item : Json) (more : List Json) :
    itemLine depth (.array (item :: more)) =
      '[' :: following depth ']' (itemLine (depth + 1) item) (more.map (itemLine (depth + 1))) := by
  have hblock := toList_block depth "[" "]" (prettyAt (depth + 1) item)
    (prettyItems (depth + 1) more) (o := '[') (c := ']') rfl rfl
  rw [itemLine, prettyAt_array, prettyItems_cons, hblock, toList_prettyItems, itemLine]

theorem itemLine_object_nil (depth : Nat) : itemLine depth (.object []) = ['\x7b', '\x7d'] := by
  rw [itemLine, prettyAt_object]
  exact String.toList_append

theorem itemLine_object_cons (depth : Nat) (field : String × Json) (more : List (String × Json)) :
    itemLine depth (.object (field :: more)) =
      '\x7b' :: following depth '\x7d' (fieldLine (depth + 1) field)
        (more.map (fieldLine (depth + 1))) := by
  have hlines := toList_prettyFields (depth + 1) (field :: more)
  rw [prettyFields_cons, List.map_cons, List.map_cons] at hlines
  obtain ⟨hfirst, hmore⟩ := List.cons.inj hlines
  have hblock := toList_block depth "\x7b" "\x7d"
    (quote field.1 ++ ": " ++ prettyAt (depth + 1) field.2) (prettyFields (depth + 1) more)
    (o := '\x7b') (c := '\x7d') rfl rfl
  rw [itemLine, prettyAt_object, prettyFields_cons, hblock, hmore, hfirst]

theorem isBlank_of_isDigit {c : Char} (h : isDigit c = true) : isBlank c = false := by
  simp only [isDigit, Bool.and_eq_true, decide_eq_true_eq] at h
  simp only [isBlank, Bool.or_eq_false_iff, decide_eq_false_iff_not]
  refine ⟨⟨⟨?_, ?_⟩, ?_⟩, ?_⟩ <;> rintro rfl <;> exact absurd h (by decide)

/-- The first character of a text pays for the first step. -/
theorem reads_cons {c : Char} {tail : List Char} {v : Json}
    (h : ∀ (fuel : Nat) (rest : List Char), tail.length ≤ fuel → Closes rest →
      value? (fuel + 1) (c :: (tail ++ rest)) = some (v, rest)) : Reads (c :: tail) v := by
  intro fuel rest hfuel hrest
  rw [List.length_cons] at hfuel
  obtain ⟨fuel, rfl⟩ : ∃ k, fuel = k + 1 := ⟨fuel - 1, by omega⟩
  exact h fuel rest (by omega) hrest

/-- A number has a digit in front, so that nothing else is tried for it. -/
theorem reads_natural (n : Nat) : Reads (Nat.toDigits 10 n) (natural n) := by
  obtain ⟨c, front, hdigits, hdigit⟩ := toDigits_eq_cons n
  rw [hdigits]
  refine reads_cons fun fuel rest _ hrest => ?_
  have hnumber := number?_natural n hrest
  rw [hdigits, List.cons_append] at hnumber
  rw [value?, skipBlanks_cons (isBlank_of_isDigit hdigit)]
  split
  case h_7 => exact hnumber
  all_goals
    next hhead =>
      rw [(List.cons.inj hhead).1] at hdigit
      exact absurd hdigit (by decide)

theorem reads_text (value : String) : Reads (quote value).toList (.text value) := by
  rw [toList_quote]
  refine reads_cons fun fuel rest _ _ => ?_
  have hquoted := quoted?_quote value rest
  rw [toList_quote, List.tail_cons] at hquoted
  rw [value?_text, hquoted]
  rfl

/-- No text of a value starts like the end of a block. -/
theorem itemLine_eq_cons {v : Json} (h : Regular v) (depth : Nat) :
    ∃ c tail, itemLine depth v = c :: tail ∧ isBlank c = false ∧ c ≠ ']' := by
  cases h with
  | null => exact ⟨_, _, itemLine_null depth, rfl, by decide⟩
  | bool value =>
    cases value with
    | true => exact ⟨_, _, itemLine_true depth, rfl, by decide⟩
    | false => exact ⟨_, _, itemLine_false depth, rfl, by decide⟩
  | natural n =>
    rw [itemLine_natural]
    obtain ⟨c, front, hdigits, hdigit⟩ := toDigits_eq_cons n
    refine ⟨c, front, hdigits, isBlank_of_isDigit hdigit, ?_⟩
    rintro rfl
    exact absurd hdigit (by decide)
  | text value =>
    exact ⟨_, _, (itemLine_text depth value).trans (toList_quote value), rfl, by decide⟩
  | @array items _ =>
    cases items with
    | nil => exact ⟨_, _, itemLine_array_nil depth, rfl, by decide⟩
    | cons item more => exact ⟨_, _, itemLine_array_cons depth item more, rfl, by decide⟩
  | @object fields _ =>
    cases fields with
    | nil => exact ⟨_, _, itemLine_object_nil depth, rfl, by decide⟩
    | cons field more => exact ⟨_, _, itemLine_object_cons depth field more, rfl, by decide⟩

/-- The first line of a block starts with its item. -/
theorem skipBlanks_following (depth : Nat) (closing c : Char) (tail : List Char)
    (more : List (List Char)) (rest : List Char) (hc : isBlank c = false) :
    ∃ behind, skipBlanks (following depth closing (c :: tail) more ++ rest) = c :: behind := by
  cases more with
  | nil =>
    simp only [following, List.append_assoc, skipBlanks_breakLine, List.cons_append,
      skipBlanks_cons hc]
    exact ⟨_, rfl⟩
  | cons next more =>
    simp only [following, List.append_assoc, skipBlanks_breakLine, List.cons_append,
      skipBlanks_cons hc]
    exact ⟨_, rfl⟩

theorem reads_array {depth : Nat} {items : List Json} (hregular : ∀ item ∈ items, Regular item)
    (hreads : ∀ item ∈ items, Reads (itemLine (depth + 1) item) item) :
    Reads (itemLine depth (.array items)) (.array items) := by
  cases items with
  | nil =>
    rw [itemLine_array_nil]
    exact reads_cons fun fuel rest _ _ => rfl
  | cons item more =>
    rw [itemLine_array_cons]
    refine reads_cons fun fuel rest hfuel _ => ?_
    have hitems := items?_following hreads [] fuel rest hfuel
    obtain ⟨c, tail, hline, hblank, hclosing⟩ :=
      itemLine_eq_cons (hregular item List.mem_cons_self) (depth + 1)
    obtain ⟨behind, hbehind⟩ := skipBlanks_following depth ']' c tail
      (more.map (itemLine (depth + 1))) rest hblank
    rw [hline] at hitems ⊢
    rw [← items?_skipBlanks, hbehind] at hitems
    rw [value?_array, hbehind]
    split
    next heq => exact absurd (List.cons.inj heq).1 hclosing
    next => exact hitems

theorem reads_object {depth : Nat} {fields : List (String × Json)}
    (hreads : ∀ field ∈ fields, Reads (itemLine (depth + 1) field.2) field.2) :
    Reads (itemLine depth (.object fields)) (.object fields) := by
  cases fields with
  | nil =>
    rw [itemLine_object_nil]
    exact reads_cons fun fuel rest _ _ => rfl
  | cons field more =>
    rw [itemLine_object_cons]
    refine reads_cons fun fuel rest hfuel _ => ?_
    have hfields := fields?_following hreads [] fuel rest hfuel
    obtain ⟨tail, hline⟩ : ∃ tail, fieldLine (depth + 1) field = '"' :: tail :=
      ⟨_, by rw [fieldLine, toList_quote]; rfl⟩
    obtain ⟨behind, hbehind⟩ := skipBlanks_following depth '\x7d' '"' tail
      (more.map (fieldLine (depth + 1))) rest rfl
    rw [hline] at hfields ⊢
    rw [← fields?_skipBlanks, hbehind] at hfields
    rw [value?_object, hbehind]
    exact hfields

theorem reads_itemLine {v : Json} (h : Regular v) (depth : Nat) : Reads (itemLine depth v) v := by
  induction h generalizing depth with
  | null =>
    rw [itemLine_null]
    exact reads_cons fun fuel rest _ _ => rfl
  | bool value =>
    cases value with
    | true =>
      rw [itemLine_true]
      exact reads_cons fun fuel rest _ _ => rfl
    | false =>
      rw [itemLine_false]
      exact reads_cons fun fuel rest _ _ => rfl
  | natural n =>
    rw [itemLine_natural]
    exact reads_natural n
  | text value =>
    rw [itemLine_text]
    exact reads_text value
  | array hregular ih => exact reads_array hregular fun item hitem => ih item hitem (depth + 1)
  | object _ ih => exact reads_object fun field hfield => ih field hfield (depth + 1)

theorem read?_pretty {v : Json} (h : Regular v) : read? v.pretty = some v := by
  have hread := reads_itemLine h 0 (v.pretty.toList.length + 1) [] (Nat.le_succ _) nofun
  have hread : value? (v.pretty.toList.length + 1) v.pretty.toList = some (v, []) := by
    simpa [itemLine, pretty] using hread
  rw [read?, hread]
  rfl

end DeviceSupport.Json
