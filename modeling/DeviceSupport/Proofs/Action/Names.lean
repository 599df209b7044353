import DeviceSupport.Proofs.Action.Expansion
import Mathlib.Data.List.Infix
import Mathlib.Data.Nat.Find
import Mathlib.Tactic.Push

/-! What a name in place of the token makes of a text.

A text is cut at its tokens from left to right (`NameToken.Cut`), which is possible in one way only.
Expansion puts the name between the pieces. A name with a dot and without a percent sign makes no
new token: one across the seam would start and end with the percent signs of two pieces and have all
of the name between them. So nothing is left to expand (`names_expand`). -/
namespace DeviceSupport
set_option autoImplicit false

namespace NameToken

/-! ## Cutting a text at its tokens -/

def chars : List Char := token.toList

/-- No token in `piece ++ chars ++ rest` begins before the one behind `piece`. -/
def IsFirst (piece rest : List Char) : Prop :=
  ∀ before after, piece ++ chars ++ rest = before ++ chars ++ after → piece.length ≤ before.length

/-- A text in pieces, each of which reaches up to the first token of what is left of the text, and
what remains behind the last token. -/
inductive Cut : List (List Char) → List Char → List Char → Prop
  | last {text : List Char} (hnone : ¬ chars <:+: text) : Cut [] text text
  | piece {piece rest last text : List Char} {pieces : List (List Char)}
      (htext : text = piece ++ chars ++ rest) (hfirst : IsFirst piece rest)
      (hrest : Cut pieces last rest) : Cut (piece :: pieces) last text

/-- The pieces with a filler behind each, and the rest. -/
def joined (filler : List Char) (pieces : List (List Char)) (last : List Char) : List Char :=
  pieces.flatMap (· ++ filler) ++ last

theorem joined_cons (filler piece : List Char) (pieces : List (List Char)) (last : List Char) :
    joined filler (piece :: pieces) last = piece ++ filler ++ joined filler pieces last := by
  rw [joined, List.flatMap_cons, List.append_assoc, ← joined]

theorem exists_first {text : List Char} (h : chars <:+: text) :
    ∃ piece rest, text = piece ++ chars ++ rest ∧ IsFirst piece rest := by
  classical
  obtain ⟨before, after, htext⟩ := h
  have hplace : ∃ n before after, text = before ++ chars ++ after ∧ before.length = n :=
    ⟨_, before, after, htext.symm, rfl⟩
  obtain ⟨piece, rest, hpiece, hlength⟩ := Nat.find_spec hplace
  refine ⟨piece, rest, hpiece, fun before after heq => ?_⟩
  rw [hlength]
  exact Nat.find_min' hplace ⟨before, after, hpiece.trans heq, rfl⟩

theorem exists_cut (text : List Char) : ∃ pieces last, Cut pieces last text := by
  induction hsize : text.length using Nat.strongRecOn generalizing text with
  | ind n ih =>
    by_cases h : chars <:+: text
    · obtain ⟨piece, rest, htext, hfirst⟩ := exists_first h
      have hchars : chars.length = 4 := rfl
      have hshorter : rest.length < n := by
        rw [← hsize, htext, List.length_append, List.length_append]
        omega
      obtain ⟨pieces, last, hrest⟩ := ih rest.length hshorter rest rfl
      exact ⟨piece :: pieces, last, .piece htext hfirst hrest⟩
    · exact ⟨[], text, .last h⟩

/-- There is one way only to cut a text. -/
theorem Cut.unique {pieces pieces' : List (List Char)} {last last' text : List Char}
    (h : Cut pieces last text) (h' : Cut pieces' last' text) : pieces = pieces' ∧ last = last' := by
  induction h generalizing pieces' with
  | last hnone =>
    cases h' with
    | last => exact ⟨rfl, rfl⟩
    | piece htext => exact absurd ⟨_, _, htext.symm⟩ hnone
  | piece htext hfirst hrest ih =>
    cases h' with
    | last hnone => exact absurd ⟨_, _, htext.symm⟩ hnone
    | piece htext' hfirst' hrest' =>
      have hsame := htext.symm.trans htext'
      have hlength := Nat.le_antisymm (hfirst _ _ hsame) (hfirst' _ _ hsame.symm)
      rw [List.append_assoc, List.append_assoc] at hsame
      obtain ⟨rfl, hbehind⟩ := List.append_inj hsame hlength
      obtain rfl := List.append_cancel_left hbehind
      obtain ⟨rfl, rfl⟩ := ih hrest'
      exact ⟨rfl, rfl⟩

/-! ## Replacing them -/

theorem replaceFrom_token (name done rest : List Char) :
    replaceFrom name done (chars ++ rest) = replaceFrom name (name.reverse ++ done) rest := rfl

theorem replaceFrom_cons (name done : List Char) {c : Char} {text : List Char}
    (h : ¬ chars <+: c :: text) :
    replaceFrom name done (c :: text) = replaceFrom name (c :: done) text := by
  rw [replaceFrom]
  rintro rest heq htext
  exact h ⟨rest, by rw [heq, htext]; rfl⟩

theorem replaceFrom_of_not_infix (name done : List Char) {text : List Char}
    (h : ¬ chars <:+: text) : replaceFrom name done text = done.reverse ++ text := by
  induction text generalizing done with
  | nil => exact (List.append_nil _).symm
  | cons c text ih =>
    rw [List.infix_cons_iff, not_or] at h
    rw [replaceFrom_cons name done h.1, ih (c :: done) h.2, List.reverse_cons, List.append_assoc]
    rfl

theorem replaceFrom_of_first (name done : List Char) {piece rest : List Char}
    (h : IsFirst piece rest) :
    replaceFrom name done (piece ++ chars ++ rest) =
      replaceFrom name (name.reverse ++ (piece.reverse ++ done)) rest := by
  induction piece generalizing done with
  | nil => exact replaceFrom_token name done rest
  | cons c piece ih =>
    have hhere : ¬ chars <+: c :: (piece ++ chars ++ rest) := by
      rintro ⟨after, heq⟩
      exact absurd (h [] after heq.symm) (Nat.not_succ_le_zero _)
    have hlater : IsFirst piece rest := fun before after heq =>
      Nat.le_of_succ_le_succ (h (c :: before) after (congrArg (c :: ·) heq))
    rw [List.cons_append, List.cons_append, replaceFrom_cons name done hhere, ih (c :: done) hlater,
      List.reverse_cons, List.append_assoc]
    rfl

theorem Cut.replaceFrom_eq {pieces : List (List Char)} {last text : List Char}
    (h : Cut pieces last text) (name done : List Char) :
    replaceFrom name done text = done.reverse ++ joined name pieces last := by
  induction h generalizing done with
  | last hnone => exact replaceFrom_of_not_infix name done hnone
  | piece htext hfirst hrest ih =>
    rw [htext, replaceFrom_of_first name done hfirst, ih, joined_cons]
    simp only [List.reverse_append, List.reverse_reverse, List.append_assoc]

/-- What a text becomes when a name takes the place of its tokens. -/
def Replaces (name value expanded : String) : Prop :=
  ∃ pieces last, Cut pieces last value.toList ∧
    expanded = String.ofList (joined name.toList pieces last)

theorem replaces_iff (name value expanded : String) :
    Replaces name value expanded ↔ expanded = replace name value := by
  constructor
  · rintro ⟨pieces, last, hcut, rfl⟩
    rw [replace, hcut.replaceFrom_eq]
    rfl
  · rintro rfl
    obtain ⟨pieces, last, hcut⟩ := exists_cut value.toList
    refine ⟨pieces, last, hcut, ?_⟩
    rw [replace, hcut.replaceFrom_eq]
    rfl

theorem replace_of_not_infix (name : String) {value : String} (h : ¬ chars <:+: value.toList) :
    replace name value = value := by
  rw [replace, replaceFrom_of_not_infix _ _ h]
  exact String.ofList_toList

/-! ## Sizes -/

theorem size_joined_cons (filler piece last : List Char) (pieces : List (List Char)) :
    (String.ofList (joined filler (piece :: pieces) last)).utf8ByteSize =
      (String.ofList piece).utf8ByteSize + (String.ofList filler).utf8ByteSize +
        (String.ofList (joined filler pieces last)).utf8ByteSize := by
  rw [joined_cons, String.ofList_append, String.ofList_append, String.utf8ByteSize_append,
    String.utf8ByteSize_append]

/-- Each token gives way to one name. -/
theorem Cut.size_joined {pieces : List (List Char)} {last text : List Char}
    (h : Cut pieces last text) (name : List Char) :
    (String.ofList (joined name pieces last)).utf8ByteSize + pieces.length * 4 =
      (String.ofList text).utf8ByteSize + pieces.length * (String.ofList name).utf8ByteSize := by
  induction h with
  | last hnone =>
    rw [List.length_nil, Nat.zero_mul, Nat.zero_mul]
    rfl
  | @piece piece rest last text pieces htext hfirst hrest ih =>
    have htoken : (String.ofList chars).utf8ByteSize = 4 := rfl
    have hsize : (String.ofList text).utf8ByteSize =
        (String.ofList piece).utf8ByteSize + 4 + (String.ofList rest).utf8ByteSize := by
      rw [htext, String.ofList_append, String.ofList_append, String.utf8ByteSize_append,
        String.utf8ByteSize_append, htoken]
    rw [size_joined_cons, hsize, List.length_cons, Nat.add_one_mul, Nat.add_one_mul]
    omega

/-! ## Nothing left to replace -/

section
variable {a b u v : List Char}

theorem percent_mem_of_append {front back : List Char} (h : chars = front ++ back) :
    (front ≠ [] → '%' ∈ front) ∧ (back ≠ [] → '%' ∈ back) := by
  have hhead : chars.head? = some '%' := rfl
  have hlast : chars.getLast? = some '%' := rfl
  rw [h] at hhead hlast
  constructor
  · intro hfront
    rw [List.head?_append_of_ne_nil _ hfront] at hhead
    exact List.mem_of_head? hhead
  · intro hback
    rw [List.getLast?_append_of_ne_nil _ hback] at hlast
    exact List.mem_of_getLast? hlast

theorem infix_left_of_append (hu : '%' ∉ u) (h : chars <:+: a ++ u) : chars <:+: a := by
  rcases List.infix_append_iff.mp h with h | h | ⟨front, back, hchars, hfront, hback⟩
  · exact h
  · exact absurd (h.subset (by decide)) hu
  · have hnil : back = [] := by
      by_contra hback'
      exact hu (hback.subset ((percent_mem_of_append hchars).2 hback'))
    rw [hchars, hnil, List.append_nil]
    exact hfront.isInfix

theorem infix_right_of_append (hv : '%' ∉ v) (h : chars <:+: v ++ b) : chars <:+: b := by
  rcases List.infix_append_iff.mp h with h | h | ⟨front, back, hchars, hfront, hback⟩
  · exact absurd (h.subset (by decide)) hv
  · exact h
  · have hnil : front = [] := by
      by_contra hfront'
      exact hv (hfront.subset ((percent_mem_of_append hchars).1 hfront'))
    rw [hchars, hnil, List.nil_append]
    exact hback.isInfix

/-- What does not hold a character lies on one side of it. -/
theorem infix_of_append_cons {t : List Char} {c : Char} (hc : c ∉ t) (h : t <:+: a ++ c :: b) :
    t <:+: a ∨ t <:+: b := by
  have hnil {l : List Char} (hl : c ∉ l) (hstart : l <+: c :: b) : l = [] := by
    rcases List.prefix_cons_iff.mp hstart with hnil | ⟨rest, rfl, -⟩
    · exact hnil
    · exact absurd List.mem_cons_self hl
  rcases List.infix_append_iff.mp h with h | h | ⟨front, back, rfl, hfront, hback⟩
  · exact .inl h
  · rcases List.infix_cons_iff.mp h with h | h
    · exact .inl (hnil hc h ▸ List.nil_infix)
    · exact .inr h
  · have hback' := hnil (fun hmem => hc (List.mem_append_right _ hmem)) hback
    rw [hback', List.append_nil]
    exact .inl hfront.isInfix

/-- No token crosses a name with a dot and without a percent sign. -/
theorem infix_of_across (hu : '%' ∉ u) (hv : '%' ∉ v)
    (h : chars <:+: a ++ (u ++ '.' :: v) ++ b) : chars <:+: a ∨ chars <:+: b := by
  have hdot : a ++ (u ++ '.' :: v) ++ b = (a ++ u) ++ '.' :: (v ++ b) := by
    simp only [List.append_assoc, List.cons_append]
  rw [hdot] at h
  exact (infix_of_append_cons (by decide) h).imp (infix_left_of_append hu)
    (infix_right_of_append hv)

theorem IsFirst.not_infix {piece rest : List Char} (h : IsFirst piece rest) :
    ¬ chars <:+: piece := by
  rintro ⟨before, after, rfl⟩
  have hle := h before (after ++ chars ++ rest) (by simp only [List.append_assoc])
  have hchars : chars.length = 4 := rfl
  rw [List.length_append, List.length_append] at hle
  omega

theorem Cut.not_infix_joined {pieces : List (List Char)} {last text : List Char}
    (h : Cut pieces last text) (hu : '%' ∉ u) (hv : '%' ∉ v) :
    ¬ chars <:+: joined (u ++ '.' :: v) pieces last := by
  induction h with
  | last hnone => exact hnone
  | piece htext hfirst hrest ih =>
    rw [joined_cons]
    exact fun hinfix => (infix_of_across hu hv hinfix).elim hfirst.not_infix ih

end

theorem Replaces.not_infix {participant domain value expanded : String}
    (h : Replaces (participant ++ "." ++ domain) value expanded)
    (hparticipant : '%' ∉ participant.toList) (hdomain : '%' ∉ domain.toList) :
    ¬ chars <:+: expanded.toList := by
  obtain ⟨pieces, last, hcut, rfl⟩ := h
  have hname : (participant ++ "." ++ domain).toList =
      participant.toList ++ '.' :: domain.toList := by
    rw [String.toList_append, String.toList_append, List.append_assoc]
    rfl
  rw [String.toList_ofList, hname]
  exact hcut.not_infix_joined hparticipant hdomain

end NameToken

/-! ## Parameters -/

namespace Params
open NameToken (Cut Replaces joined)

/-- A text that grows beyond its limit. -/
def TooLong (name : String) (param : Option Param) : Prop :=
  ∃ value expanded, param = some (.text value) ∧ Replaces name value expanded ∧
    Limits.parameterLength < expanded.utf8ByteSize

theorem tooLong_text_iff (name value : String) :
    TooLong name (some (.text value)) ↔
      Limits.parameterLength < (NameToken.replace name value).utf8ByteSize := by
  constructor
  · rintro ⟨_, expanded, heq, hreplaces, hlong⟩
    cases heq
    rwa [(NameToken.replaces_iff name value expanded).mp hreplaces] at hlong
  · exact fun hlong => ⟨value, _, rfl, (NameToken.replaces_iff name value _).mpr rfl, hlong⟩

theorem fits_iff (name : String) (params : Params) :
    Fits name params ↔ ∀ param ∈ params, ¬ TooLong name param := by
  constructor
  · intro hfits param hmem hlong
    have ⟨value, _, htext, _⟩ := hlong
    subst htext
    exact absurd (hfits value hmem) (Nat.not_le.mpr ((tooLong_text_iff name value).mp hlong))
  · intro hshort value hmem
    exact Nat.not_lt.mp fun hlong => hshort _ hmem ((tooLong_text_iff name value).mpr hlong)

/-- Parameters that do not fit have a first text that is too long. -/
theorem exists_first_long {name : String} {params : Params} (h : ¬ Fits name params) :
    ∃ before value after, params = before ++ some (.text value) :: after ∧ Fits name before ∧
      Limits.parameterLength < (NameToken.replace name value).utf8ByteSize := by
  induction params with
  | nil => exact absurd (fun value hmem => absurd hmem List.not_mem_nil) h
  | cons param params ih =>
    by_cases hparam : ∀ value, param = some (.text value) →
        (NameToken.replace name value).utf8ByteSize ≤ Limits.parameterLength
    · obtain ⟨before, value, after, rfl, hbefore, hlong⟩ :=
        ih fun hfits => h ((fits_cons name param params).mpr ⟨hparam, hfits⟩)
      exact ⟨param :: before, value, after, rfl,
        (fits_cons name param before).mpr ⟨hparam, hbefore⟩, hlong⟩
    · push Not at hparam
      obtain ⟨value, rfl, hlong⟩ := hparam
      exact ⟨[], value, params, rfl, fun value hmem => absurd hmem List.not_mem_nil, hlong⟩

/-- What parameters become, slot by slot: numbers and vacant slots stay, and a text gets the name in
place of each token of its only cut. -/
structure Expanded (name : String) (params expanded : Params) : Prop where
  length : expanded.length = params.length
  vacant : ∀ i : Nat, params[i]? = some none → expanded[i]? = some none
  number : ∀ (i : Nat) n, params[i]? = some (some (.number n)) →
    expanded[i]? = some (some (.number n))
  text : ∀ (i : Nat) value, params[i]? = some (some (.text value)) →
    ∃ pieces last result,
      (∀ pieces' last', Cut pieces' last' value.toList ↔ pieces' = pieces ∧ last' = last) ∧
      result = String.ofList (joined name.toList pieces last) ∧
      expanded[i]? = some (some (.text result)) ∧
      (result.utf8ByteSize : Int) =
        value.utf8ByteSize + pieces.length * (name.utf8ByteSize - 4 : Int)

theorem expanded_map_named (name : String) (params : Params) :
    Expanded name params (params.map (Option.map (Param.named name))) := by
  constructor
  case length => exact List.length_map _
  case vacant =>
    intro i h
    rw [List.getElem?_map, h]
    rfl
  case number =>
    intro i n h
    rw [List.getElem?_map, h]
    rfl
  case text =>
    intro i value h
    obtain ⟨pieces, last, hcut⟩ := NameToken.exists_cut value.toList
    have hresult : NameToken.replace name value =
        String.ofList (joined name.toList pieces last) :=
      ((NameToken.replaces_iff name value _).mp ⟨pieces, last, hcut, rfl⟩).symm
    have hsize := hcut.size_joined name.toList
    rw [← hresult, String.ofList_toList, String.ofList_toList] at hsize
    refine ⟨pieces, last, NameToken.replace name value, fun pieces' last' => ?_, hresult, ?_, ?_⟩
    · refine ⟨fun hcut' => hcut'.unique hcut, ?_⟩
      rintro ⟨rfl, rfl⟩
      exact hcut
    · rw [List.getElem?_map, h]
      rfl
    · rw [Int.mul_sub]
      have hcast := congrArg (Nat.cast (R := Int)) hsize
      push_cast at hcast
      omega

theorem text_mem_map_named {name value : String} {params : Params}
    (h : some (.text value) ∈ params.map (Option.map (Param.named name))) :
    ∃ old, some (.text old) ∈ params ∧ value = NameToken.replace name old := by
  obtain ⟨param, hmem, hparam⟩ := List.mem_map.mp h
  rcases param with _ | old | n
  · nomatch hparam
  · cases hparam
    exact ⟨old, hmem, rfl⟩
  · nomatch hparam

/-- Parameters without a token expand to themselves. -/
theorem expand_of_not_infix {params : Params} {participant domain : String}
    (hnone : ∀ value, some (.text value) ∈ params → ¬ NameToken.chars <:+: value.toList)
    (hshort : ∀ value, some (.text value) ∈ params →
      value.utf8ByteSize ≤ Limits.parameterLength) :
    params.expand participant domain = .ok params := by
  refine (expandFrom_eq_ok_iff _ 1 params params).mpr ⟨fun value hmem => ?_, ?_⟩
  · rw [NameToken.replace_of_not_infix _ (hnone value hmem)]
    exact hshort value hmem
  · refine ((List.map_congr_left fun param hmem => ?_).trans (List.map_id params)).symm
    rcases param with _ | value | n
    · rfl
    · exact congrArg (fun text => some (Param.text text))
        (NameToken.replace_of_not_infix _ (hnone value hmem))
    · rfl

section
variable {params expanded : Params} {participant domain : String}

theorem exists_fault_iff :
    (∃ fault, params.expand participant domain = .error fault) ↔
      ∃ param ∈ params, TooLong (participant ++ "." ++ domain) param := by
  constructor
  · rintro ⟨fault, hfault⟩
    by_contra hshort
    push Not at hshort
    have hok := expand_of_fits ((fits_iff _ params).mpr hshort)
    exact nomatch hok.symm.trans hfault
  · rintro ⟨param, hmem, hparam⟩
    cases hexpand : params.expand participant domain with
    | error fault => exact ⟨fault, rfl⟩
    | ok expanded =>
      obtain ⟨hfits, -⟩ := (expandFrom_eq_ok_iff _ 1 params expanded).mp hexpand
      exact absurd hparam ((fits_iff _ params).mp hfits param hmem)

/-- The first text that is too long is the one that is reported. -/
theorem reported_of_expand {fault : Fault} (h : params.expand participant domain = .error fault) :
    ∃ before value expanded after, params = before ++ some (.text value) :: after ∧
      (∀ param ∈ before, ¬ TooLong (participant ++ "." ++ domain) param) ∧
      Replaces (participant ++ "." ++ domain) value expanded ∧
      fault = .parameterOutOfBounds
        s!"parameter {before.length + 1} expands to {expanded.utf8ByteSize} bytes" := by
  have hlong : ¬ Fits (participant ++ "." ++ domain) params := fun hfits =>
    nomatch (expand_of_fits hfits).symm.trans h
  obtain ⟨before, value, after, rfl, hbefore, hsize⟩ := exists_first_long hlong
  refine ⟨before, value, _, after, rfl, (fits_iff _ before).mp hbefore,
    (NameToken.replaces_iff _ value _).mpr rfl, ?_⟩
  rw [Nat.add_comm before.length 1]
  exact Except.error.inj (h.symm.trans (expandFrom_of_long hbefore rfl hsize 1))

/-- Without a percent sign in the name, what came out of an expansion is complete. -/
theorem expand_twice (h : params.expand participant domain = .ok expanded)
    (hparticipant : '%' ∉ participant.toList) (hdomain : '%' ∉ domain.toList) :
    (∀ value, some (.text value) ∈ expanded → ¬ NameToken.chars <:+: value.toList) ∧
      expanded.expand participant domain = .ok expanded := by
  obtain ⟨hfits, rfl⟩ := (expandFrom_eq_ok_iff _ 1 params expanded).mp h
  have hnone : ∀ value,
      some (.text value) ∈ params.map (Option.map (Param.named (participant ++ "." ++ domain))) →
        ¬ NameToken.chars <:+: value.toList := by
    intro value hmem
    obtain ⟨old, -, hreplaced⟩ := text_mem_map_named hmem
    have hreplaces := (NameToken.replaces_iff _ old value).mpr hreplaced
    exact hreplaces.not_infix hparticipant hdomain
  refine ⟨hnone, expand_of_not_infix hnone fun value hmem => ?_⟩
  obtain ⟨old, hold, rfl⟩ := text_mem_map_named hmem
  exact hfits old hold

end

/-- Parameters expand unless some text would grow beyond the limit; the first such text is reported
with its slot and its size. Else numbers and vacant slots stay, and each text is the old one with
the name in place of its tokens, from left to right, so that its size changes by the number of
tokens times what the name is longer than a token. When neither part of the name has a percent sign,
no token is left and another expansion changes nothing. -/
theorem names_expand (params : Params) (participant domain : String) :
    let name := participant ++ "." ++ domain
    ((∃ fault, params.expand participant domain = .error fault) ↔
        ∃ param ∈ params, TooLong name param) ∧
      (∀ fault, params.expand participant domain = .error fault →
        ∃ before value expanded after, params = before ++ some (.text value) :: after ∧
          (∀ param ∈ before, ¬ TooLong name param) ∧ Replaces name value expanded ∧
          fault = .parameterOutOfBounds
            s!"parameter {before.length + 1} expands to {expanded.utf8ByteSize} bytes") ∧
      ∀ expanded, params.expand participant domain = .ok expanded →
        Expanded name params expanded ∧
          ('%' ∉ participant.toList → '%' ∉ domain.toList →
            (∀ value, some (.text value) ∈ expanded → ¬ NameToken.chars <:+: value.toList) ∧
              Params.expand expanded participant domain = .ok expanded) := by
  intro name
  refine ⟨exists_fault_iff, fun fault hfault => reported_of_expand hfault, fun expanded h => ?_⟩
  have hexpanded : Expanded name params expanded := by
    obtain ⟨-, rfl⟩ := (expandFrom_eq_ok_iff name 1 params expanded).mp h
    exact expanded_map_named name params
  exact ⟨hexpanded, expand_twice h⟩

end Params

namespace Sample

/-- Tokens that touch, overlap, and stand inside a broken one. -/
def crossing : Params := [some (.text "%nm%nm%%n%nm%m%"), some (.number 7), none]

def crossed : Params := [some (.text "TFN1.D0nm%%nTFN1.D0m%"), some (.number 7), none]

/-- The first of two overlapping tokens is replaced, and the broken one stays broken. A text of 9363
tokens grows by three bytes for each to more than its limit. -/
theorem crossing_expands :
    (∃ fault, Params.expand [none, some (.text (NameToken.tokens 9363))] "TFN1" "D0" =
          .error fault ∧ ∃ text, fault = .parameterOutOfBounds text) ∧
      crossing.expand "TFN1" "D0" = .ok crossed ∧
      Params.Expanded ("TFN1" ++ "." ++ "D0") crossing crossed ∧
      '%' ∉ "TFN1".toList ∧ '%' ∉ "D0".toList ∧
      (∀ value, some (.text value) ∈ crossed → ¬ NameToken.chars <:+: value.toList) ∧
      crossed.expand "TFN1" "D0" = .ok crossed := by
  have hlong : Params.TooLong ("TFN1" ++ "." ++ "D0") (some (.text (NameToken.tokens 9363))) := by
    rw [Params.tooLong_text_iff, NameToken.utf8ByteSize_replace_tokens]
    decide
  have hok : crossing.expand "TFN1" "D0" = .ok crossed := by decide
  have hparticipant : '%' ∉ "TFN1".toList := by decide
  have hdomain : '%' ∉ "D0".toList := by decide
  obtain ⟨hfails, hreports, -⟩ :=
    Params.names_expand [none, some (.text (NameToken.tokens 9363))] "TFN1" "D0"
  obtain ⟨fault, hfault⟩ := hfails.mpr ⟨_, List.mem_cons_of_mem _ List.mem_cons_self, hlong⟩
  obtain ⟨_, _, _, _, -, -, -, htext⟩ := hreports fault hfault
  obtain ⟨-, -, hexpands⟩ := Params.names_expand crossing "TFN1" "D0"
  obtain ⟨hexpanded, hcomplete⟩ := hexpands crossed hok
  obtain ⟨hnone, htwice⟩ := hcomplete hparticipant hdomain
  exact ⟨⟨fault, hfault, _, htext⟩, hok, hexpanded, hparticipant, hdomain, hnone, htwice⟩

end Sample

end DeviceSupport
