import Mathlib.Data.List.Forall2
import RunControl.Breakpoints.Entry
import RunControl.Proofs.Numerals
import RunControl.Proofs.Trimming

/-!
# Typed lists of lines

`Parts s parts`: between its commas the text `s` has these parts, trimmed, as far as something is
left of them. All of them have to be numbers of lines, and the first that is not is reported.

* `mapM_eq_ok_iff`, `mapM_eq_error_iff`: reading one after the other, up to the first that is
  refused;
* `parts_iff`: every text has one list of parts, and `pieces` finds it;
* `Listed`: numbers in decimal, with blanks around them and with empty pieces anywhere;
* **`exactLines`**: which texts are read as which lists, which part is reported of all others, and
  that a list is read back however it is laid out.
-/

namespace RunControl.Breakpoints

open Text (Blank Trims trim trim_around trim_of_blank)

/-! ## One after the other -/

section Reading

variable {α β ε : Type} {read : α → Except ε β} {xs : List α} {ys : List β} {e : ε}

theorem mapM_eq_ok_iff :
    xs.mapM read = .ok ys ↔ List.Forall₂ (fun x y => read x = .ok y) xs ys := by
  induction xs generalizing ys with
  | nil => cases ys <;> simp [pure, Except.pure]
  | cons x rest ih =>
    rw [List.mapM_cons, List.forall₂_cons_left_iff]
    simp only [← ih]
    cases hx : read x with
    | error e => simp [bind, Except.bind]
    | ok y =>
      cases hrest : rest.mapM read with
      | error e => simp [bind, Except.bind]
      | ok others => simp [bind, Except.bind, pure, Except.pure, eq_comm]

/-- The first of a list that is found is its head, or the first of the others. -/
theorem exists_first_cons {p q : α → Prop} {x : α} :
    (∃ before y after, x :: xs = before ++ y :: after ∧ (∀ z ∈ before, p z) ∧ q y) ↔
      q x ∨ p x ∧ ∃ before y after, xs = before ++ y :: after ∧ (∀ z ∈ before, p z) ∧ q y := by
  constructor
  · rintro ⟨before, y, after, heq, hbefore, hy⟩
    rcases List.cons_eq_append_iff.1 heq with ⟨rfl, hcons⟩ | ⟨before, rfl, rfl⟩
    · obtain ⟨rfl, -⟩ := List.cons.inj hcons
      exact .inl hy
    · obtain ⟨hx, hbefore⟩ := List.forall_mem_cons.1 hbefore
      exact .inr ⟨hx, before, y, after, rfl, hbefore, hy⟩
  · rintro (hx | ⟨hx, before, y, after, rfl, hbefore, hy⟩)
    · exact ⟨[], x, xs, rfl, nofun, hx⟩
    · exact ⟨x :: before, y, after, rfl, List.forall_mem_cons.2 ⟨hx, hbefore⟩, hy⟩

/-- What is reported comes from the first that is refused. -/
theorem mapM_eq_error_iff : xs.mapM read = .error e ↔ ∃ good x rest, xs = good ++ x :: rest ∧
    (∀ x ∈ good, ∃ y, read x = .ok y) ∧ read x = .error e := by
  induction xs with
  | nil => simp [pure, Except.pure]
  | cons x rest ih =>
    rw [List.mapM_cons, exists_first_cons, ← ih]
    cases hx : read x with
    | error e' => simp [bind, Except.bind]
    | ok y => cases rest.mapM read <;> simp [bind, Except.bind, pure, Except.pure]

end Reading

/-! ## The parts of a text -/

/-- The trimmed pieces between the commas of the text, without the empty ones. -/
def Parts (s : List Char) (parts : List (List Char)) : Prop :=
  ∃ raw trimmed : List (List Char), raw ≠ [] ∧ (∀ piece ∈ raw, ',' ∉ piece) ∧
    s = [','].intercalate raw ∧ List.Forall₂ Trims raw trimmed ∧
      parts = trimmed.filter fun piece => piece ≠ []

variable {s : List Char} {parts : List (List Char)}

theorem not_mem_of_mem_splitOn {c : Char} : ∀ piece ∈ s.splitOn c, c ∉ piece := by
  induction s with
  | nil => simp
  | cons d rest ih =>
    rw [List.splitOn_cons_eq_if_modifyHead]
    split
    next => exact List.forall_mem_cons.2 ⟨List.not_mem_nil, ih⟩
    next hne =>
      cases hpieces : rest.splitOn c with
      | nil => nofun
      | cons first others =>
        rw [hpieces] at ih
        obtain ⟨hfirst, hothers⟩ := List.forall_mem_cons.1 ih
        refine List.forall_mem_cons.2 ⟨fun hmem => ?_, hothers⟩
        rcases List.mem_cons.1 hmem with rfl | hmem
        · exact hne (beq_self_eq_true c)
        · exact hfirst hmem

theorem pieces_intercalate {raw : List (List Char)} (hne : raw ≠ [])
    (hcomma : ∀ piece ∈ raw, ',' ∉ piece) :
    pieces ([','].intercalate raw) = (raw.map trim).filter fun piece => piece ≠ [] := by
  rw [pieces, List.splitOn_intercalate ',' hcomma hne]
  refine List.filter_congr fun piece _ => ?_
  cases piece <;> rfl

/-- There is one list of parts. -/
theorem parts_iff : Parts s parts ↔ pieces s = parts := by
  constructor
  · rintro ⟨raw, trimmed, hne, hcomma, rfl, htrims, rfl⟩
    have htrimmed : raw.map trim = trimmed := by
      rw [← List.forall₂_eq_eq_eq, List.forall₂_map_left_iff]
      exact htrims.imp fun _ _ => Text.trims_iff.1
    rw [pieces_intercalate hne hcomma, htrimmed]
  · rintro rfl
    have hne : s.splitOn ',' ≠ [] := List.splitOn_ne_nil ',' s
    have heq : [','].intercalate (s.splitOn ',') = s := List.intercalate_splitOn ','
    refine ⟨s.splitOn ',', (s.splitOn ',').map trim, hne, not_mem_of_mem_splitOn, heq.symm, ?_, ?_⟩
    · rw [List.forall₂_map_right_iff, List.forall₂_same]
      exact fun piece _ => Text.trims_iff.2 rfl
    · rw [← pieces_intercalate hne not_mem_of_mem_splitOn, heq]

/-! ## Numbers of lines -/

/-- The part is the number of a line: an optional plus and digits, of a value below `2 ^ 32`. -/
def IsLine (part : List Char) : Prop := ∃ n < 2 ^ 32, Numeral.Unsigned part n

variable {part : List Char} {line : UInt32} {e : LineError}

theorem lineOfPiece_eq_ok_iff : lineOfPiece part = .ok line ↔ Numeral.Unsigned part line.toNat := by
  rw [← Numeral.uint32?_eq_some_iff, lineOfPiece]
  cases Numeral.uint32? part <;> simp

theorem isLine_iff : IsLine part ↔ ∃ line, lineOfPiece part = .ok line := by
  simp only [lineOfPiece_eq_ok_iff]
  constructor
  · rintro ⟨n, hn, h⟩
    exact ⟨UInt32.ofNat n, by rwa [UInt32.toNat_ofNat_of_lt' hn]⟩
  · rintro ⟨line, h⟩
    exact ⟨line.toNat, line.toNat_lt, h⟩

theorem lineOfPiece_eq_error_iff :
    lineOfPiece part = .error e ↔ ¬ IsLine part ∧ e = ⟨String.ofList part⟩ := by
  rw [isLine_iff, lineOfPiece]
  cases Numeral.uint32? part <;> simp [eq_comm]

/-! ## Lists that are laid out -/

/-- Pieces that hold these lines in decimal, with blanks around them, and otherwise blanks only. -/
inductive Laid : List UInt32 → List (List Char) → Prop
  | nil : Laid [] []
  | gap {lines : List UInt32} {raw : List (List Char)} (blanks : List Char) (hblanks : Blank blanks)
      (hrest : Laid lines raw) : Laid lines (blanks :: raw)
  | line {lines : List UInt32} {raw : List (List Char)} (line : UInt32) (before after : List Char)
      (hbefore : Blank before) (hafter : Blank after) (hrest : Laid lines raw) :
      Laid (line :: lines) ((before ++ Numeral.digits line.toNat ++ after) :: raw)

/-- The text lists these lines: it is such pieces, with commas between them. -/
def Listed (lines : List UInt32) (s : String) : Prop :=
  ∃ raw, Laid lines raw ∧ s.toList = [','].intercalate raw

variable {lines : List UInt32} {raw : List (List Char)}

theorem not_mem_of_blank {blanks : List Char} (h : Blank blanks) : ',' ∉ blanks :=
  fun hmem => absurd (h ',' hmem) (by decide)

theorem not_mem_digits (n : ℕ) : ',' ∉ Numeral.digits n :=
  fun hmem => absurd (Numeral.isDigit_of_mem_digits hmem) (by decide)

theorem Laid.not_mem (h : Laid lines raw) : ∀ piece ∈ raw, ',' ∉ piece := by
  induction h with
  | nil => nofun
  | gap blanks hblanks _ ih => exact List.forall_mem_cons.2 ⟨not_mem_of_blank hblanks, ih⟩
  | line line before after hbefore hafter _ ih =>
    refine List.forall_mem_cons.2 ⟨fun hmem => ?_, ih⟩
    rw [List.mem_append, List.mem_append] at hmem
    rcases hmem with (hmem | hmem) | hmem
    · exact not_mem_of_blank hbefore hmem
    · exact not_mem_digits line.toNat hmem
    · exact not_mem_of_blank hafter hmem

theorem Laid.filter_trim (h : Laid lines raw) :
    ((raw.map trim).filter fun piece => piece ≠ []) =
      lines.map fun line => Numeral.digits line.toNat := by
  induction h with
  | nil => rfl
  | gap blanks hblanks _ ih =>
    rw [List.map_cons, trim_of_blank hblanks, List.filter_cons_of_neg (by simp), ih]
  | line line before after hbefore hafter _ ih =>
    have hdigits : ∀ c ∈ Numeral.digits line.toNat, Text.isBlank c = false := fun c hc =>
      Text.isBlank_of_isDigit (Numeral.isDigit_of_mem_digits hc)
    rw [List.map_cons, trim_around hbefore hafter hdigits, List.map_cons, List.filter_cons_of_pos,
      ih]
    exact decide_eq_true (Numeral.digits_ne_nil line.toNat)

theorem Laid.pieces_eq (h : Laid lines raw) :
    pieces ([','].intercalate raw) = lines.map fun line => Numeral.digits line.toNat := by
  -- the empty text splits into one piece, so it is a case of its own
  cases hraw : raw with
  | nil =>
    rw [hraw] at h
    cases h
    rfl
  | cons first rest =>
    rw [← hraw, pieces_intercalate (by rw [hraw]; exact List.cons_ne_nil first rest) h.not_mem,
      h.filter_trim]

/-! ## Reading a list -/

/-- **Lists of lines are read exactly.** A text is read as the list of the numbers that its parts
denote; if a part denotes none, the first such part is reported; and a list is read from every text
that lists it. -/
theorem exactLines (s : String) : ∃ parts, Parts s.toList parts ∧
    (∀ lines, linesOfText s = .ok lines ↔
      List.Forall₂ (fun part line => Numeral.Unsigned part line.toNat) parts lines) ∧
    (∀ e, linesOfText s = .error e ↔ ∃ good part rest, parts = good ++ part :: rest ∧
      (∀ part ∈ good, IsLine part) ∧ ¬ IsLine part ∧ e = ⟨String.ofList part⟩) ∧
    ∀ lines, Listed lines s → linesOfText s = .ok lines := by
  have hok (lines : List UInt32) : linesOfText s = .ok lines ↔
      List.Forall₂ (fun part line => Numeral.Unsigned part line.toNat) (pieces s.toList) lines := by
    rw [linesOfText, mapM_eq_ok_iff]
    simp only [lineOfPiece_eq_ok_iff]
  refine ⟨pieces s.toList, parts_iff.2 rfl, hok, fun e => ?_, ?_⟩
  · rw [linesOfText, mapM_eq_error_iff]
    simp only [← isLine_iff, lineOfPiece_eq_error_iff]
  · rintro lines ⟨raw, hlaid, heq⟩
    rw [hok, heq, hlaid.pieces_eq, List.forall₂_map_left_iff, List.forall₂_same]
    exact fun line _ => .bare (Numeral.natural_digits line.toNat)

/-- Lines in decimal, twice the same one, with blanks and empty pieces. -/
theorem exactLines_gaps : Listed [3, 7, 7] ", 3 ,7,\u2003,\t7" ∧
    linesOfText ", 3 ,7,\u2003,\t7" = .ok [3, 7, 7] := by
  have hlisted : Listed [3, 7, 7] ", 3 ,7,\u2003,\t7" := by
    refine ⟨[[], [' ', '3', ' '], ['7'], ['\u2003'], ['\t', '7']], ?_, by decide⟩
    refine .gap [] (by decide) ?_
    refine .line 3 [' '] [' '] (by decide) (by decide) ?_
    refine .line 7 [] [] (by decide) (by decide) ?_
    refine .gap ['\u2003'] (by decide) ?_
    exact .line 7 ['\t'] [] (by decide) (by decide) .nil
  obtain ⟨_, _, _, _, hread⟩ := exactLines ", 3 ,7,\u2003,\t7"
  exact ⟨hlisted, hread _ hlisted⟩

end RunControl.Breakpoints
