import Mathlib.Data.List.DropRight
import RunControl.Text

/-!
# What is left of a text without its blanks

`Trims s t`: the text `s` is `t` with blanks around it, and `t` neither begins nor ends with a
blank.

* `trims_iff`: every text has one such part, and `trim` finds it;
* `trim_around`: a word is found among blanks;
* `trim_trimEnd_isLineEnd`: line ends are blanks, so nothing changes if they are removed first;
* `trimEnd_append`: what is removed from the end may be there any number of times.
-/

namespace RunControl.Text

/-- The text consists of blanks, or is empty. -/
def Blank (s : List Char) : Prop := ∀ c ∈ s, isBlank c = true

instance (s : List Char) : Decidable (Blank s) :=
  decidable_of_iff (s.all isBlank = true) List.all_eq_true

/-- `t` is the text `s` without the blanks around it. -/
structure Trims (s t : List Char) : Prop where
  around : ∃ before after, s = before ++ t ++ after ∧ Blank before ∧ Blank after
  head : ∀ c ∈ t.head?, isBlank c = false
  last : ∀ c ∈ t.getLast?, isBlank c = false

variable {p : Char → Bool} {s t before after : List Char}

/-! ## At one end -/

theorem dropWhile_eq_self (h : ∀ c ∈ s.head?, p c = false) : s.dropWhile p = s := by
  cases s with
  | nil => rfl
  | cons c rest => rw [List.dropWhile_cons, h c rfl, if_neg Bool.false_ne_true]

theorem dropWhile_head (p : Char → Bool) (s : List Char) :
    ∀ c ∈ (s.dropWhile p).head?, p c = false := by
  intro c hc
  have := List.head?_dropWhile_not p s
  rwa [Option.mem_def.1 hc] at this

theorem trimEnd_append (h : ∀ c ∈ after, p c = true) : trimEnd p (s ++ after) = trimEnd p s := by
  rw [trimEnd, List.reverse_append, List.dropWhile_append_of_pos, trimEnd]
  intro c hc
  exact h c (List.mem_reverse.1 hc)

theorem trimEnd_eq_self (h : ∀ c ∈ s.getLast?, p c = false) : trimEnd p s = s := by
  rw [trimEnd, dropWhile_eq_self, List.reverse_reverse]
  rwa [List.head?_reverse]

theorem exists_eq_trimEnd_append (p : Char → Bool) (s : List Char) :
    ∃ after, s = trimEnd p s ++ after ∧ ∀ c ∈ after, p c = true :=
  ⟨s.rtakeWhile p, List.rdropWhile_append_rtakeWhile.symm, fun _ => List.mem_rtakeWhile_imp⟩

theorem trimEnd_last (p : Char → Bool) (s : List Char) :
    ∀ c ∈ (trimEnd p s).getLast?, p c = false := by
  intro c hc
  obtain ⟨hne, rfl⟩ := List.mem_getLast?_eq_getLast hc
  exact Bool.eq_false_iff.2 (List.rdropWhile_last_not p s hne)

/-! ## At both ends -/

theorem Trims.trim_eq (h : Trims s t) : trim s = t := by
  obtain ⟨before, after, rfl, hbefore, hafter⟩ := h.around
  rw [trim, List.append_assoc, List.dropWhile_append_of_pos hbefore]
  rcases t.eq_nil_or_concat with rfl | ⟨rest, c, rfl⟩
  · rw [List.nil_append, List.dropWhile_eq_nil_iff.2 hafter]
    rfl
  · rw [dropWhile_eq_self, trimEnd_append hafter, trimEnd_eq_self h.last]
    intro c hc
    refine h.head c ?_
    rwa [List.head?_append_of_ne_nil] at hc
    simp

theorem trims_trim (s : List Char) : Trims s (trim s) := by
  obtain ⟨after, hs, hafter⟩ := exists_eq_trimEnd_append isBlank (s.dropWhile isBlank)
  refine ⟨⟨s.takeWhile isBlank, after, ?_, ?_, hafter⟩, ?_, trimEnd_last isBlank _⟩
  · rw [trim, List.append_assoc, ← hs, List.takeWhile_append_dropWhile]
  · exact fun c hc => List.mem_takeWhile_imp hc
  · intro c hc
    rw [trim, Option.mem_def] at hc
    refine dropWhile_head isBlank s c ?_
    rw [hs, List.head?_append, hc]
    rfl

/-- Every text has one trimmed part. -/
theorem trims_iff : Trims s t ↔ trim s = t := by
  constructor
  · exact Trims.trim_eq
  · rintro rfl
    exact trims_trim s

/-- A word is what is left of it with blanks around it. -/
theorem trim_around (hbefore : Blank before) (hafter : Blank after)
    (h : ∀ c ∈ t, isBlank c = false) : trim (before ++ t ++ after) = t := by
  apply Trims.trim_eq
  refine ⟨⟨before, after, rfl, hbefore, hafter⟩, fun c hc => ?_, fun c hc => ?_⟩
  · exact h c (List.mem_of_mem_head? hc)
  · exact h c (List.mem_of_mem_getLast? hc)

theorem trim_of_blank (h : Blank s) : trim s = [] := by
  have htrim : trim (s ++ [] ++ []) = [] := trim_around h nofun nofun
  rwa [List.append_nil, List.append_nil] at htrim

theorem isBlank_of_isDigit {c : Char} (h : c.isDigit = true) : isBlank c = false := by
  obtain ⟨hlow, hhigh⟩ := Char.isDigit_iff_toNat.1 h
  change 48 ≤ c.toNat at hlow
  change c.toNat ≤ 57 at hhigh
  simp only [isBlank, Bool.or_eq_false_iff, Bool.and_eq_false_iff, decide_eq_false_iff_not,
    beq_eq_false_iff_ne]
  omega

theorem isBlank_of_isLineEnd {c : Char} (h : isLineEnd c = true) : isBlank c = true := by
  rw [isLineEnd, Bool.or_eq_true, beq_iff_eq, beq_iff_eq] at h
  rcases h with rfl | rfl <;> decide

/-- A line can be trimmed with its end or without it. -/
theorem trim_trimEnd_isLineEnd (s : List Char) : trim (trimEnd isLineEnd s) = trim s := by
  obtain ⟨ends, hs, hends⟩ := exists_eq_trimEnd_append isLineEnd s
  have h := trims_trim (trimEnd isLineEnd s)
  obtain ⟨before, after, hline, hbefore, hafter⟩ := h.around
  symm
  refine Trims.trim_eq ⟨⟨before, after ++ ends, ?_, hbefore, ?_⟩, h.head, h.last⟩
  · rw [← List.append_assoc, ← hline, ← hs]
  · exact List.forall_mem_append.2 ⟨hafter, fun c hc => isBlank_of_isLineEnd (hends c hc)⟩

end RunControl.Text
