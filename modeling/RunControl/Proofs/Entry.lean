import Mathlib.Data.List.Forall2
import RunControl.Proofs.Numerals
import RunControl.Proofs.Trimming
import RunControl.Value.Entry

/-!
# Typed values

What a line means at a type is said by a grammar: an integer is typed as one of its numerals, a
truth value as one of its words, a character as itself, all with blanks around them. A text is typed
as it is, and line ends after it do not count.

* `ofLine_eq_ok_iff`, `ofLine_eq_error_iff`: a line is read without its end, and trimmed;
* **`exactIntegers`**: which lines are read as an integer, and what is said about all others;
* `Spells`: the ways to type a value;
* **`readsBack`**: a value that is typed in one of these ways is read as this value, in particular
  one that is typed as it is shown.
-/

namespace RunControl.Value

open Text (Blank Trims isBlank isLineEnd trim trimEnd trim_around)

variable {s : String} {v : Value} {type : DataType} {e : EntryError}

/-! ## Lines -/

theorem ofLine_eq_ok_iff : ofLine s type = .ok v ↔
    ofTrimmed? (trimEnd isLineEnd s.toList) (trim s.toList) type = some v := by
  simp only [ofLine, Text.trim_trimEnd_isLineEnd]
  cases ofTrimmed? (trimEnd isLineEnd s.toList) (trim s.toList) type <;> simp

theorem ofLine_eq_error_iff : ofLine s type = .error e ↔
    ofTrimmed? (trimEnd isLineEnd s.toList) (trim s.toList) type = none ∧
      e = ⟨String.ofList (trim s.toList), type⟩ := by
  simp only [ofLine, Text.trim_trimEnd_isLineEnd]
  cases ofTrimmed? (trimEnd isLineEnd s.toList) (trim s.toList) type <;> simp [eq_comm]

/-! ## Integers -/

theorem ofLine_integer_iff {n : Int64} : ofLine s .integer = .ok (integer n) ↔
    Numeral.Signed (trim s.toList) n.toInt := by
  rw [ofLine_eq_ok_iff, ofTrimmed?, Option.map_eq_some_iff, ← Numeral.int64?_eq_some_iff]
  simp

/-- **The lines that are read as an integer** are the numerals of the integers in range, with blanks
around them. About every other line the trimmed text is reported. -/
theorem exactIntegers (s : String) : ∃ t, Trims s.toList t ∧
    (∀ z : ℤ, (∃ n : Int64, n.toInt = z ∧ ofLine s .integer = .ok (integer n)) ↔
      Numeral.Signed t z ∧ -2 ^ 63 ≤ z ∧ z ≤ 2 ^ 63 - 1) ∧
    (ofLine s .integer = .error ⟨String.ofList t, .integer⟩ ↔
      ¬ ∃ z, Numeral.Signed t z ∧ -2 ^ 63 ≤ z ∧ z ≤ 2 ^ 63 - 1) := by
  have hok (z : ℤ) : (∃ n : Int64, n.toInt = z ∧ ofLine s .integer = .ok (integer n)) ↔
      Numeral.Signed (trim s.toList) z ∧ -2 ^ 63 ≤ z ∧ z ≤ 2 ^ 63 - 1 := by
    simp only [ofLine_integer_iff]
    rw [← Numeral.exists_toInt_iff]
    constructor
    · rintro ⟨n, rfl, h⟩
      exact ⟨h, n, rfl⟩
    · rintro ⟨h, n, rfl⟩
      exact ⟨n, rfl, h⟩
  refine ⟨trim s.toList, Text.trims_iff.2 rfl, hok, ?_⟩
  simp only [← hok]
  constructor
  · rintro herror ⟨z, n, -, hn⟩
    rw [herror] at hn
    cases hn
  · intro hnone
    rw [ofLine_eq_error_iff]
    refine ⟨Option.eq_none_iff_forall_not_mem.2 fun v hv => ?_, rfl⟩
    obtain ⟨n, -, rfl⟩ := Option.map_eq_some_iff.1 hv
    exact hnone ⟨_, n, rfl, ofLine_eq_ok_iff.2 hv⟩

/-! ## Spellings -/

/-- The words for a truth value. -/
def words : Bool → List String
  | true => ["true", "verdadeiro"]
  | false => ["false", "falso"]

/-- The same text, except that ASCII letters may be of the other case. -/
def Recased (word s : String) : Prop :=
  List.Forall₂ (fun c d => d ∈ [c, c.toUpper, c.toLower]) word.toList s.toList

instance (word s : String) : Decidable (Recased word s) :=
  inferInstanceAs (Decidable (List.Forall₂ _ _ _))

/-- The ways to type a value. -/
inductive Spells : Value → String → Prop
  | integer (n : Int64) (before after : String) (hbefore : Blank before.toList)
      (hafter : Blank after.toList) : Spells (integer n) (before ++ (integer n).display ++ after)
  | boolean (b : Bool) (word s before after : String) (hword : word ∈ words b) (hs : Recased word s)
      (hbefore : Blank before.toList) (hafter : Blank after.toList) :
      Spells (boolean b) (before ++ s ++ after)
  | character (c : Char) (before after : String) (hc : isBlank c = false)
      (hbefore : Blank before.toList) (hafter : Blank after.toList) :
      Spells (character c) (before ++ (character c).display ++ after)
  | text (s ends : String) (hs : ∀ c ∈ s.toList.getLast?, isLineEnd c = false)
      (hends : ∀ c ∈ ends.toList, isLineEnd c = true) : Spells (text s) ((text s).display ++ ends)

/-- The value is read back if it is typed as it is shown. -/
def IsTypeable : Value → Prop
  | integer _ | boolean _ => True
  | real _ => False
  | character c => isBlank c = false
  | text s => ∀ c ∈ s.toList.getLast?, isLineEnd c = false

instance : DecidablePred IsTypeable
  | integer _ | boolean _ => .isTrue trivial
  | real _ => .isFalse id
  | character c => inferInstanceAs (Decidable (isBlank c = false))
  | text s => Option.decidableForallMem s.toList.getLast?

theorem IsTypeable.spells (h : v.IsTypeable) : Spells v v.display := by
  cases v with
  | integer n => simpa using Spells.integer n "" "" nofun nofun
  | real x => cases h
  | boolean b =>
    have hword : (boolean b).display ∈ words b := by cases b <;> decide
    have hs : Recased (boolean b).display (boolean b).display :=
      List.forall₂_same.2 fun _ _ => List.mem_cons_self
    simpa using Spells.boolean b _ _ "" "" hword hs nofun nofun
  | character c => simpa using Spells.character c "" "" h nofun nofun
  | text s => simpa using Spells.text s "" h nofun

/-! ## Reading back -/

theorem isBlank_of_mem_intDigits {z : ℤ} {c : Char} (h : c ∈ Numeral.intDigits z) :
    isBlank c = false := by
  cases z with
  | ofNat n => exact Text.isBlank_of_isDigit (Numeral.isDigit_of_mem_digits h)
  | negSucc n =>
    rcases List.mem_cons.1 h with rfl | h
    · rfl
    · exact Text.isBlank_of_isDigit (Numeral.isDigit_of_mem_digits h)

theorem letter_of_mem_words {b : Bool} {word : String} (hword : word ∈ words b) :
    ∀ c ∈ word.toList, ∀ d ∈ [c, c.toUpper, c.toLower],
      isBlank d = false ∧ d.toLower = c.toLower := by
  -- decided as a computation over the letters, not over all characters
  have hall : ∀ b, ∀ word ∈ words b, word.toList.all (fun c =>
      [c, c.toUpper, c.toLower].all fun d => !isBlank d && d.toLower == c.toLower) = true := by
    decide
  intro c hc d hd
  have hletters := List.all_eq_true.1 (List.all_eq_true.1 (hall b word hword) c hc) d hd
  rwa [Bool.and_eq_true, Bool.not_eq_true', beq_iff_eq] at hletters

theorem booleanOfChars?_words : ∀ b, ∀ word ∈ words b, booleanOfChars? word.toList = some b := by
  decide

theorem Recased.letters {b : Bool} {word : String} (hword : word ∈ words b) (h : Recased word s) :
    List.Forall₂ (fun d c => isBlank d = false ∧ d.toLower = c.toLower) s.toList word.toList := by
  have hletters := (List.forall₂_and_left _ _).2 ⟨letter_of_mem_words hword, h⟩
  exact (hletters.imp fun c d hcd => hcd.1 d hcd.2).flip

theorem Recased.isBlank {b : Bool} {word : String} (hword : word ∈ words b) (h : Recased word s) :
    ∀ d ∈ s.toList, isBlank d = false :=
  ((List.forall₂_and_left _ _).1 (h.letters hword)).1

theorem Recased.booleanOfChars? {b : Bool} {word : String} (hword : word ∈ words b)
    (h : Recased word s) : booleanOfChars? s.toList = some b := by
  have hlower : Text.lowerAscii s.toList = Text.lowerAscii word.toList := by
    rw [← List.forall₂_eq_eq_eq, Text.lowerAscii, Text.lowerAscii, List.forall₂_map_left_iff,
      List.forall₂_map_right_iff]
    exact ((List.forall₂_and_left _ _).1 (h.letters hword)).2
  rw [← booleanOfChars?_words b word hword, Value.booleanOfChars?, Value.booleanOfChars?, hlower]

theorem toList_display (v : Value) : v.display.toList = v.displayChars := String.toList_ofList

theorem ofLine_of_spells (h : Spells v s) : ofLine s v.type = .ok v := by
  rw [ofLine_eq_ok_iff]
  -- the trimmed line is read, except for a text, of which only the line ends are taken off
  cases h with
  | integer n before after hbefore hafter =>
    have hread : Numeral.int64? (Numeral.intDigits n.toInt) = some n :=
      Numeral.int64?_eq_some_iff.2 (Numeral.signed_intDigits n.toInt)
    rw [String.toList_append, String.toList_append, toList_display, displayChars,
      trim_around hbefore hafter fun c => isBlank_of_mem_intDigits]
    exact congrArg (Option.map Value.integer) hread
  | boolean b word s before after hword hs hbefore hafter =>
    rw [String.toList_append, String.toList_append,
      trim_around hbefore hafter (hs.isBlank hword)]
    exact congrArg (Option.map Value.boolean) (hs.booleanOfChars? hword)
  | character c before after hc hbefore hafter =>
    rw [String.toList_append, String.toList_append, toList_display, displayChars,
      trim_around hbefore hafter (List.forall_mem_singleton.2 hc)]
    rfl
  | text s ends hs hends =>
    rw [String.toList_append, toList_display, displayChars, Text.trimEnd_append hends,
      Text.trimEnd_eq_self hs]
    exact congrArg (fun s => some (Value.text s)) String.ofList_toList

/-- **Values are read back as they were typed.** -/
theorem readsBack : (∀ v : Value, v.IsTypeable → ofLine v.display v.type = .ok v) ∧
    ∀ v s, Spells v s → ofLine s v.type = .ok v :=
  ⟨fun _ h => ofLine_of_spells h.spells, fun _ _ h => ofLine_of_spells h⟩

/-- A text with blanks and a line end inside, and a word in mixed letters among blanks. -/
theorem readsBack_mixed :
    (IsTypeable (text "\t a\r\nb ") ∧
      ofLine (text "\t a\r\nb ").display .text = .ok (text "\t a\r\nb ")) ∧
    Spells (boolean false) ("\u2003" ++ "FaLSo" ++ "\t\r\n") ∧
      ofLine ("\u2003" ++ "FaLSo" ++ "\t\r\n") .boolean = .ok (boolean false) := by
  have htext : IsTypeable (text "\t a\r\nb ") := by decide
  have hword : Spells (boolean false) ("\u2003" ++ "FaLSo" ++ "\t\r\n") :=
    .boolean false "falso" _ _ _ (by decide) (by decide) (by decide) (by decide)
  exact ⟨⟨htext, readsBack.1 _ htext⟩, hword, readsBack.2 _ _ hword⟩

end RunControl.Value
