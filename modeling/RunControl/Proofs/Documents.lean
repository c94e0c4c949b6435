import Mathlib.Data.List.TakeDrop
import RunControl.Json.Number
import RunControl.Json.Reader
import RunControl.Proofs.Numerals

/-!
# Documents that have been written can be read

`Writes j s`: the text `s` is a way to write the document `j`, with blanks wherever they may stand.
The reader takes every such text, whatever follows it, and answers with the document.

* `readRaw?_escape`, `unescape?_escape`: an escaped text is read, and is the text again;
* `integer?_intDigits`, `isNumber_intDigits`: so is a number;
* **`Writes.parse?`**: a text that is a way to write a document is read as that document;
* **`Readable.parse?_pretty`**: so is a document that is written over several lines;
* **`Readable.parse?_compact`**: so is a document that is written on one line.
-/

namespace RunControl.Json

/-! ## Texts inside quotes -/

theorem hexValue?_hexDigit : ∀ n < 16, hexValue? (hexDigit n) = some n := by decide

theorem hex4?_hexDigit {n : ℕ} (h : n < 0x20) :
    hex4? '0' '0' (hexDigit (n / 16)) (hexDigit (n % 16)) = some n := by
  have hzero : hexValue? '0' = some 0 := by decide
  simp only [hex4?, hzero, hexValue?_hexDigit (n / 16) (by omega),
    hexValue?_hexDigit (n % 16) (by omega), Option.bind_eq_bind, Option.bind_some]
  exact congrArg some (by omega)

theorem readRaw?_escapeChar (c : Char) (s : List Char) :
    readRaw? (escapeChar c ++ s) =
      (readRaw? s).map fun p => (escapeChar c ++ p.1, p.2) := by
  unfold escapeChar
  split_ifs with h1 h2 h3 h4 h5 h6 h7 h8
  · rfl
  · rfl
  · rfl
  · rfl
  · rfl
  · rfl
  · rfl
  · simp only [List.cons_append, List.nil_append, readRaw?, hex4?_hexDigit h8]
  · simp only [List.cons_append, List.nil_append]
    rw [readRaw?, if_neg h8] <;> simp [h1, h2]

/-- An escaped text is read up to the quote that follows it. -/
theorem readRaw?_escape (s : List Char) (rest : List Char) :
    readRaw? (escape s ++ '"' :: rest) = some (escape s, rest) := by
  induction s with
  | nil => rfl
  | cons c s ih =>
    rw [escape, List.flatMap_cons, List.append_assoc, readRaw?_escapeChar, ← escape, ih]
    rfl

theorem unescape?_escapeChar (c : Char) (s : List Char) :
    unescape? (escapeChar c ++ s) = (unescape? s).map (c :: ·) := by
  unfold escapeChar
  split_ifs with h1 h2 h3 h4 h5 h6 h7 h8
  · rw [h1]; rfl
  · rw [h2]; rfl
  · rw [h3]; rfl
  · rw [h4]; rfl
  · rw [h5]; rfl
  · rw [h6]; rfl
  · rw [h7]; rfl
  · have hsurrogate : isSurrogate c.toNat = false := by
      simp only [isSurrogate, Bool.and_eq_false_iff, decide_eq_false_iff_not]
      omega
    simp only [List.cons_append, List.nil_append, unescape?, hex4?_hexDigit h8, hsurrogate,
      Char.ofNat_toNat]
    rfl
  · simp only [List.cons_append, List.nil_append]
    rw [unescape?] <;> simp [h2]

/-- An escaped text is the text again. -/
theorem unescape?_escape (s : List Char) : unescape? (escape s) = some s := by
  induction s with
  | nil => rfl
  | cons c s ih =>
    rw [escape, List.flatMap_cons, unescape?_escapeChar, ← escape, ih]
    rfl

/-! ## Numbers -/

/-- What follows does not go on with a number. -/
def Ends (rest : List Char) : Prop :=
  ∀ c ∈ rest.head?, isSpace c = true ∨ c = ',' ∨ c = ']' ∨ c = '\x7d'

theorem Ends.not_isDigit {c : Char} {rest : List Char} (h : Ends (c :: rest)) :
    c.isDigit = false ∧ c ≠ '.' ∧ c ≠ 'e' ∧ c ≠ 'E' := by
  obtain h | rfl | rfl | rfl := h c rfl
  · simp only [isSpace, Bool.or_eq_true, beq_iff_eq] at h
    obtain ((rfl | rfl) | rfl) | rfl := h <;> decide
  · decide
  · decide
  · decide

/-- A number as the reader takes it, which begins with a digit or a minus. -/
structure IsNumber (literal : List Char) : Prop where
  head : ∃ c s, literal = c :: s ∧ (c.isDigit = true ∨ c = '-')
  read : ∀ rest, Ends rest → readNumber? (literal ++ rest) = some (literal, rest)

theorem span_digits {digits rest : List Char} (h : ∀ c ∈ digits, c.isDigit = true)
    (he : Ends rest) : (digits ++ rest).span Char.isDigit = (digits, rest) := by
  have hrest : rest.takeWhile Char.isDigit = [] ∧ rest.dropWhile Char.isDigit = rest := by
    cases rest with
    | nil => exact ⟨rfl, rfl⟩
    | cons c rest => simp [he.not_isDigit.1]
  rw [List.span_eq_takeWhile_dropWhile, List.takeWhile_append_of_pos h,
    List.dropWhile_append_of_pos h, hrest.1, hrest.2, List.append_nil]

theorem readWhole?_digits (n : ℕ) {rest : List Char} (he : Ends rest) :
    readWhole? (Numeral.digits n ++ rest) = some (Numeral.digits n, rest) := by
  by_cases hn : n = 0
  · subst hn
    cases rest with
    | nil => rfl
    | cons c rest =>
      have hc := he.not_isDigit.1
      change (if c.isDigit = true then none else some (['0'], c :: rest)) = _
      rw [hc]
      rfl
  · obtain ⟨c, cs, hcs, hc⟩ := Numeral.digits_eq_cons (Nat.pos_of_ne_zero hn)
    have hspan := span_digits (fun _ => Numeral.isDigit_of_mem_digits (n := n)) he
    rw [hcs, List.cons_append] at hspan ⊢
    rw [readWhole?]
    · rw [hspan]
      rfl
    · simp [hc]

theorem readFraction?_of_ends {rest : List Char} (he : Ends rest) :
    readFraction? rest = some ([], rest) := by
  cases rest with
  | nil => rfl
  | cons c rest =>
    rw [readFraction?]
    simp [he.not_isDigit.2.1]

theorem readPower?_of_ends {rest : List Char} (he : Ends rest) :
    readPower? rest = some ([], rest) := by
  cases rest with
  | nil => rfl
  | cons c rest =>
    obtain ⟨-, -, he, hE⟩ := he.not_isDigit
    rw [readPower?, if_neg (by simp [he, hE])]

theorem isNumber_digits (n : ℕ) : IsNumber (Numeral.digits n) := by
  obtain ⟨c, cs, hcs, hc⟩ := Numeral.exists_digits_eq_cons n
  refine ⟨⟨c, cs, hcs, .inl hc⟩, fun rest he => ?_⟩
  have hsign : c ≠ '-' := by
    rintro rfl
    cases hc
  have hwhole := readWhole?_digits n he
  rw [hcs, List.cons_append] at hwhole ⊢
  rw [readNumber?, hwhole]
  · simp only [readFraction?_of_ends he, readPower?_of_ends he, Option.bind_eq_bind,
      Option.bind_some, List.nil_append, List.append_nil]
  · simp [hsign]

theorem integer?_digits (n : ℕ) : integer? (Numeral.digits n) = some (n : ℤ) := by
  obtain ⟨c, cs, hcs, hc⟩ := Numeral.exists_digits_eq_cons n
  have hnatural := Numeral.natural?_digits n
  rw [hcs] at hnatural ⊢
  have hsign : c ≠ '-' := by
    rintro rfl
    cases hc
  rw [integer?, hnatural]
  · rfl
  · simp [hsign]

/-- An integer is read as it is written. -/
theorem isNumber_intDigits (n : ℤ) : IsNumber (Numeral.intDigits n) := by
  cases n with
  | ofNat n => exact isNumber_digits n
  | negSucc n =>
    refine ⟨⟨'-', _, rfl, .inr rfl⟩, fun rest he => ?_⟩
    rw [Numeral.intDigits, List.cons_append, readNumber?]
    simp only [readWhole?_digits _ he, readFraction?_of_ends he, readPower?_of_ends he,
      Option.bind_eq_bind, Option.bind_some, List.append_nil, List.cons_append, List.nil_append]

theorem integer?_intDigits (n : ℤ) : integer? (Numeral.intDigits n) = some n := by
  cases n with
  | ofNat n => exact integer?_digits n
  | negSucc n =>
    simp only [Numeral.intDigits, integer?, Numeral.natural?_digits]
    rfl

/-! ## Ways to write a document -/

/-- Blanks and nothing else. -/
def Blank (s : List Char) : Prop := ∀ c ∈ s, isSpace c = true

/-- A text between quotes as the reader takes it. -/
def IsRaw (raw : List Char) : Prop := ∀ rest, readRaw? (raw ++ '"' :: rest) = some (raw, rest)

mutual

/-- The text is a way to write the document. -/
inductive Writes : Json → List Char → Prop
  | null : Writes .null ['n', 'u', 'l', 'l']
  | bool (b : Bool) : Writes (.bool b) (write (.bool b))
  | number {literal : List Char} : IsNumber literal → Writes (.number literal) literal
  | string {raw : List Char} : IsRaw raw → Writes (.string raw) (quoted raw)
  | emptyArray {b : List Char} : Blank b → Writes (.array []) ('[' :: (b ++ [']']))
  | array {items : List Json} {b s : List Char} : Blank b → WritesItems items s →
    Writes (.array items) ('[' :: (b ++ s))
  | emptyObject {b : List Char} : Blank b → Writes (.object []) ('\x7b' :: (b ++ ['\x7d']))
  | object {members : List (List Char × Json)} {b s : List Char} : Blank b →
    WritesMembers members s → Writes (.object members) ('\x7b' :: (b ++ s))

/-- The text is a way to write items and the end of the array. -/
inductive WritesItems : List Json → List Char → Prop
  | last {item : Json} {s b : List Char} : Writes item s → Blank b →
    WritesItems [item] (s ++ (b ++ [']']))
  | cons {item : Json} {items : List Json} {s b b' s' : List Char} : Writes item s → Blank b →
    Blank b' → WritesItems items s' →
    WritesItems (item :: items) (s ++ (b ++ ',' :: (b' ++ s')))

/-- The text is a way to write members and the end of the object. -/
inductive WritesMembers : List (List Char × Json) → List Char → Prop
  | last {name : List Char} {value : Json} {s b b' b₁ : List Char} : IsRaw name → Blank b →
    Blank b' → Writes value s → Blank b₁ → WritesMembers [(name, value)]
      (quoted name ++ (b ++ ':' :: (b' ++ (s ++ (b₁ ++ ['\x7d'])))))
  | cons {name : List Char} {value : Json} {members : List (List Char × Json)}
    {s b b' b₁ b₂ s' : List Char} : IsRaw name → Blank b → Blank b' → Writes value s →
    Blank b₁ → Blank b₂ → WritesMembers members s' → WritesMembers ((name, value) :: members)
      (quoted name ++ (b ++ ':' :: (b' ++ (s ++ (b₁ ++ ',' :: (b₂ ++ s'))))))

end

theorem Blank.skipSpace {b : List Char} (hb : Blank b) (s : List Char) :
    skipSpace (b ++ s) = Json.skipSpace s :=
  List.dropWhile_append_of_pos hb

theorem Blank.ends {b rest : List Char} (hb : Blank b) (h : Ends rest) : Ends (b ++ rest) := by
  cases b with
  | nil => exact h
  | cons c b => exact fun _ hc => .inl (hb _ (by cases hc; exact List.mem_cons_self))

theorem ends_cons {c : Char} {rest : List Char} (h : c = ',' ∨ c = ']' ∨ c = '\x7d') :
    Ends (c :: rest) := by
  rintro _ ⟨⟩
  exact .inr h

theorem isSpace_of_isDigit {c : Char} (h : c.isDigit = true ∨ c = '-') : isSpace c = false := by
  rw [Bool.eq_false_iff]
  intro hspace
  simp only [isSpace, Bool.or_eq_true, beq_iff_eq] at hspace
  obtain ((rfl | rfl) | rfl) | rfl := hspace <;> simp at h

theorem skipSpace_cons {c : Char} {s : List Char} (h : isSpace c = false) :
    skipSpace (c :: s) = c :: s := by
  rw [skipSpace, List.dropWhile_cons_of_neg (by simp [h])]

theorem Writes.head {j : Json} {s : List Char} (h : Writes j s) :
    ∃ c s', s = c :: s' ∧ isSpace c = false ∧ c ≠ ']' := by
  cases h with
  | number h =>
    obtain ⟨c, s', rfl, hc⟩ := h.head
    refine ⟨c, s', rfl, isSpace_of_isDigit hc, ?_⟩
    rintro rfl
    simp at hc
  | bool b => cases b <;> exact ⟨_, _, rfl, by decide, by decide⟩
  | _ => exact ⟨_, _, rfl, by decide, by decide⟩

theorem WritesItems.head {items : List Json} {s : List Char} (h : WritesItems items s) :
    ∃ c s', s = c :: s' ∧ isSpace c = false ∧ c ≠ ']' := by
  cases h with
  | last h | cons h =>
    obtain ⟨c, s', rfl, hc⟩ := h.head
    exact ⟨c, _, rfl, hc⟩

theorem WritesMembers.head {members : List (List Char × Json)} {s : List Char}
    (h : WritesMembers members s) : ∃ s', s = '"' :: s' := by
  cases h <;> exact ⟨_, rfl⟩

/-! ## The reader takes them -/

/-- With so much fuel the reader takes every shorter text. -/
structure Reads (fuel : ℕ) : Prop where
  value : ∀ {j s rest}, Writes j s → s.length < fuel → Ends rest →
    readValue? fuel (s ++ rest) = some (j, rest)
  items : ∀ {items s} rest, WritesItems items s → s.length < fuel →
    readItems? fuel (s ++ rest) = some (items, rest)
  members : ∀ {members s} rest, WritesMembers members s → s.length < fuel →
    readMembers? fuel (s ++ rest) = some (members, rest)

theorem readValue?_blank {b : List Char} (hb : Blank b) (fuel : ℕ) (s : List Char) :
    readValue? fuel (b ++ s) = readValue? fuel s := by
  cases fuel with
  | zero => rfl
  | succ fuel => rw [readValue?, readValue?, hb.skipSpace]

theorem readMembers?_blank {b : List Char} (hb : Blank b) (fuel : ℕ) (s : List Char) :
    readMembers? fuel (b ++ s) = readMembers? fuel s := by
  cases fuel with
  | zero => rfl
  | succ fuel => rw [readMembers?, readMembers?, hb.skipSpace]

theorem readItems?_blank {b : List Char} (hb : Blank b) (fuel : ℕ) (s : List Char) :
    readItems? fuel (b ++ s) = readItems? fuel s := by
  cases fuel with
  | zero => rfl
  | succ fuel => rw [readItems?, readItems?, readValue?_blank hb]

theorem Reads.value_succ {fuel : ℕ} (h : Reads fuel) {j : Json} {s rest : List Char}
    (hw : Writes j s) (hs : s.length < fuel + 1) (he : Ends rest) :
    readValue? (fuel + 1) (s ++ rest) = some (j, rest) := by
  cases hw with
  | null => rfl
  | bool b => cases b <;> rfl
  | number hn =>
    obtain ⟨c, s', rfl, hc⟩ := hn.head
    have hread := hn.read rest he
    rw [List.cons_append] at hread ⊢
    rw [readValue?, skipSpace_cons (isSpace_of_isDigit hc)]
    split
    case h_7 => rw [hread]; rfl
    all_goals
      next heq =>
        -- no other document begins with a digit or a minus
        obtain ⟨rfl, -⟩ := List.cons.inj heq
        simp at hc
  | string hraw =>
    rw [quoted, List.cons_append, List.cons_append, List.append_assoc]
    exact congrArg (Option.map fun p => (string p.1, p.2)) (hraw rest)
  | emptyArray hb =>
    rw [readValue?, List.cons_append, skipSpace_cons (by decide), List.append_assoc]
    simp only [hb.skipSpace]
    rfl
  | array hb hi =>
    obtain ⟨c, s', rfl, hspace, hc⟩ := hi.head
    rw [readValue?, List.cons_append, skipSpace_cons (by decide), List.append_assoc]
    simp only [hb.skipSpace, List.cons_append, skipSpace_cons hspace]
    have hread := h.items rest hi (by simp at hs ⊢; omega)
    rw [List.cons_append] at hread
    split
    · next heq => exact absurd (List.cons.inj heq).1 hc
    · rw [hread]; rfl
  | emptyObject hb =>
    rw [readValue?, List.cons_append, skipSpace_cons (by decide), List.append_assoc]
    simp only [hb.skipSpace]
    rfl
  | object hb hm =>
    obtain ⟨s', rfl⟩ := hm.head
    rw [readValue?, List.cons_append, skipSpace_cons (by decide), List.append_assoc]
    simp only [hb.skipSpace]
    exact congrArg (Option.map fun p => (object p.1, p.2))
      (h.members rest hm (by simp at hs ⊢; omega))

theorem Reads.items_succ {fuel : ℕ} (h : Reads fuel) {items : List Json} {s : List Char}
    (rest : List Char) (hw : WritesItems items s) (hs : s.length < fuel + 1) :
    readItems? (fuel + 1) (s ++ rest) = some (items, rest) := by
  cases hw with
  | last hv hb =>
    simp only [List.length_append, List.length_cons] at hs
    simp only [List.append_assoc, List.cons_append, List.nil_append]
    rw [readItems?, h.value hv (by omega) (hb.ends (ends_cons (by simp)))]
    simp only [hb.skipSpace]
    rfl
  | cons hv hb hb' hi =>
    simp only [List.length_append, List.length_cons] at hs
    simp only [List.append_assoc, List.cons_append]
    rw [readItems?, h.value hv (by omega) (hb.ends (ends_cons (by simp)))]
    simp only [hb.skipSpace, skipSpace_cons (show isSpace ',' = false by decide),
      readItems?_blank hb', h.items rest hi (by omega)]
    rfl

theorem Reads.member {fuel : ℕ} (h : Reads fuel) {name : List Char} {value : Json}
    {b b' s rest : List Char} (hname : IsRaw name) (hb : Blank b) (hb' : Blank b')
    (hv : Writes value s) (hs : s.length < fuel) (he : Ends rest) :
    readMembers? (fuel + 1) (quoted name ++ (b ++ ':' :: (b' ++ (s ++ rest)))) =
      match skipSpace rest with
      | ',' :: rest => (readMembers? fuel rest).map fun p => ((name, value) :: p.1, p.2)
      | '\x7d' :: rest => some ([(name, value)], rest)
      | _ => none := by
  simp only [quoted, List.append_assoc, List.cons_append, List.nil_append]
  rw [readMembers?, skipSpace_cons (by decide)]
  apply Eq.trans
  · simp only [hname _, hb.skipSpace, skipSpace_cons (show isSpace ':' = false by decide),
      readValue?_blank hb', h.value hv hs he]
    exact rfl
  · rfl

theorem Reads.members_succ {fuel : ℕ} (h : Reads fuel) {members : List (List Char × Json)}
    {s : List Char} (rest : List Char) (hw : WritesMembers members s)
    (hs : s.length < fuel + 1) :
    readMembers? (fuel + 1) (s ++ rest) = some (members, rest) := by
  cases hw with
  | last hname hb hb' hv hb₁ =>
    simp only [List.length_append, List.length_cons] at hs
    simp only [List.append_assoc, List.cons_append, List.nil_append]
    rw [h.member hname hb hb' hv (by omega) (hb₁.ends (ends_cons (by simp)))]
    simp only [hb₁.skipSpace]
    rfl
  | cons hname hb hb' hv hb₁ hb₂ hm =>
    simp only [List.length_append, List.length_cons] at hs
    simp only [List.append_assoc, List.cons_append]
    rw [h.member hname hb hb' hv (by omega) (hb₁.ends (ends_cons (by simp)))]
    simp only [hb₁.skipSpace, skipSpace_cons (show isSpace ',' = false by decide),
      readMembers?_blank hb₂, h.members rest hm (by omega)]
    rfl

theorem reads (fuel : ℕ) : Reads fuel := by
  induction fuel with
  | zero => exact ⟨fun _ h => absurd h (by omega), fun _ _ h => absurd h (by omega),
      fun _ _ h => absurd h (by omega)⟩
  | succ fuel ih => exact ⟨ih.value_succ, ih.items_succ, ih.members_succ⟩

/-- **What is a way to write a document is read as that document.** -/
theorem Writes.parse? {j : Json} {s b : List Char} (h : Writes j s) (hb : Blank b) :
    parse? (String.ofList (s ++ b)) = some j := by
  have hends : Ends b := by
    have hnil : Ends [] := by rintro _ ⟨⟩
    have hends := hb.ends hnil
    rwa [List.append_nil] at hends
  have hblank : skipSpace b = [] := by
    have := hb.skipSpace []
    rwa [List.append_nil] at this
  rw [Json.parse?, String.toList_ofList,
    (reads _).value h (by rw [List.length_append]; omega) hends]
  simp only [hblank]
  rfl

/-! ## Documents that the program writes -/

/-- All numbers, texts and names in the document are such as the reader takes. -/
inductive Readable : Json → Prop
  | null : Readable .null
  | bool (b : Bool) : Readable (.bool b)
  | number {literal : List Char} : IsNumber literal → Readable (.number literal)
  | string {raw : List Char} : IsRaw raw → Readable (.string raw)
  | array {items : List Json} : (∀ item ∈ items, Readable item) → Readable (.array items)
  | object {members : List (List Char × Json)} : (∀ m ∈ members, IsRaw m.1) →
    (∀ m ∈ members, Readable m.2) → Readable (.object members)

theorem readable_ofString (s : String) : Readable (ofString s) :=
  .string (readRaw?_escape s.toList)

theorem readable_ofNat (n : ℕ) : Readable (ofNat n) := .number (isNumber_digits n)

theorem readable_ofInt (n : ℤ) : Readable (ofInt n) := .number (isNumber_intDigits n)

theorem readable_ofMembers {members : List (String × Json)} (h : ∀ m ∈ members, Readable m.2) :
    Readable (ofMembers members) := by
  refine .object (List.forall_mem_map.2 fun m _ => ?_) (List.forall_mem_map.2 fun m hm => ?_)
  · exact readRaw?_escape m.1.toList
  · exact h m hm

theorem blank_nil : Blank [] := fun _ h => by cases h

theorem blank_newline (level : ℕ) : Blank (newline level) := by
  intro c hc
  obtain rfl | hc := List.mem_cons.1 hc
  · decide
  · rw [List.eq_of_mem_replicate hc]
    decide

section Pretty

variable {level : ℕ}

theorem writesItems_pretty {item : Json} {items : List Json}
    (h : ∀ i ∈ item :: items, Writes i (writePretty (level + 1) i)) :
    WritesItems (item :: items) (writePretty (level + 1) item ++ prettyItems level items) := by
  induction items generalizing item with
  | nil => exact .last (h item List.mem_cons_self) (blank_newline level)
  | cons next items ih =>
    have hitems := ih fun i hi => h i (List.mem_cons_of_mem _ hi)
    rw [prettyItems]
    simpa using WritesItems.cons (h item List.mem_cons_self) blank_nil
      (blank_newline (level + 1)) hitems

theorem writesMembers_pretty {m : List Char × Json} {members : List (List Char × Json)}
    (hn : ∀ m' ∈ m :: members, IsRaw m'.1)
    (hv : ∀ m' ∈ m :: members, Writes m'.2 (writePretty (level + 1) m'.2)) :
    WritesMembers (m :: members) (quoted m.1 ++ ':' :: ' ' :: writePretty (level + 1) m.2 ++
      prettyMembers level members) := by
  have hspace : Blank [' '] := by simp [Blank, isSpace]
  induction members generalizing m with
  | nil =>
    rw [prettyMembers]
    simpa using WritesMembers.last (hn m List.mem_cons_self) blank_nil hspace
      (hv m List.mem_cons_self) (blank_newline level)
  | cons next members ih =>
    have hmembers := ih (fun m' hm => hn m' (List.mem_cons_of_mem _ hm))
      (fun m' hm => hv m' (List.mem_cons_of_mem _ hm))
    rw [prettyMembers]
    simpa using WritesMembers.cons (hn m List.mem_cons_self) blank_nil hspace
      (hv m List.mem_cons_self) blank_nil (blank_newline (level + 1)) hmembers

end Pretty

theorem Readable.writes_pretty {j : Json} (h : Readable j) (level : ℕ) :
    Writes j (writePretty level j) := by
  induction h generalizing level with
  | null => exact .null
  | bool b => exact .bool b
  | number h => exact .number h
  | string h => exact .string h
  | @array items h ih =>
    cases items with
    | nil => exact .emptyArray blank_nil
    | cons item items =>
      rw [writePretty]
      simpa using Writes.array (blank_newline (level + 1))
        (writesItems_pretty fun i hi => ih i hi (level + 1))
  | @object members hn hv ih =>
    cases members with
    | nil => exact .emptyObject blank_nil
    | cons m members =>
      rw [writePretty]
      simpa using Writes.object (blank_newline (level + 1))
        (writesMembers_pretty hn fun m hm => ih m hm (level + 1))

/-- **What is written over several lines can be read**, also when blanks follow. -/
theorem Readable.parse?_pretty {j : Json} (h : Readable j) {b : List Char} (hb : Blank b) :
    parse? (j.pretty ++ String.ofList b) = some j := by
  rw [pretty, ← String.ofList_append]
  exact (h.writes_pretty 0).parse? hb

theorem writesItems_compact {item : Json} {items : List Json}
    (h : ∀ i ∈ item :: items, Writes i (write i)) :
    WritesItems (item :: items) (write item ++ writeItems items) := by
  induction items generalizing item with
  | nil => exact .last (h item List.mem_cons_self) blank_nil
  | cons next items ih =>
    have hitems := ih fun i hi => h i (List.mem_cons_of_mem _ hi)
    rw [writeItems]
    simpa using WritesItems.cons (h item List.mem_cons_self) blank_nil blank_nil hitems

theorem writesMembers_compact {m : List Char × Json} {members : List (List Char × Json)}
    (hn : ∀ m' ∈ m :: members, IsRaw m'.1) (hv : ∀ m' ∈ m :: members, Writes m'.2 (write m'.2)) :
    WritesMembers (m :: members) (quoted m.1 ++ ':' :: write m.2 ++ writeMembers members) := by
  induction members generalizing m with
  | nil =>
    rw [writeMembers]
    simpa using WritesMembers.last (hn m List.mem_cons_self) blank_nil blank_nil
      (hv m List.mem_cons_self) blank_nil
  | cons next members ih =>
    have hmembers := ih (fun m' hm => hn m' (List.mem_cons_of_mem _ hm))
      (fun m' hm => hv m' (List.mem_cons_of_mem _ hm))
    rw [writeMembers]
    simpa using WritesMembers.cons (hn m List.mem_cons_self) blank_nil blank_nil
      (hv m List.mem_cons_self) blank_nil blank_nil hmembers

theorem Readable.writes_compact {j : Json} (h : Readable j) : Writes j (write j) := by
  induction h with
  | null => exact .null
  | bool b => exact .bool b
  | number h => exact .number h
  | string h => exact .string h
  | @array items h ih =>
    cases items with
    | nil => exact .emptyArray blank_nil
    | cons item items =>
      rw [write]
      simpa using Writes.array blank_nil (writesItems_compact ih)
  | @object members hn hv ih =>
    cases members with
    | nil => exact .emptyObject blank_nil
    | cons m members =>
      rw [write]
      simpa using Writes.object blank_nil (writesMembers_compact hn ih)

/-- **What is written on one line can be read.** -/
theorem Readable.parse?_compact {j : Json} (h : Readable j) : parse? j.compact = some j := by
  have hparse := h.writes_compact.parse? blank_nil
  rwa [List.append_nil] at hparse

end RunControl.Json
