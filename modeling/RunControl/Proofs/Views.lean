import Mathlib.Data.List.Forall2
import RunControl.Json.Content
import RunControl.Proofs.Schema
import RunControl.Wire.Reading

/-!
# The views of a document

Readers look at a document through its views only. `Mirrors shows` says that whenever `shows d j`
holds, the views of `d` are those of the document `j`; it holds of documents as they stand and of
contents that were put aside, so what is proved of one reader holds for both.

* `mirrors_located`, `mirrors_content`: the two kinds of documents;
* **`Mirrors.fields?`**: the fields of a structure are found under their names;
* `Mirrors.named?`, `Mirrors.word?`, `Mirrors.longWord?`, `Mirrors.nullable?`: what a field holds.
-/

namespace RunControl

namespace Source

open Json (ofString ofNat ofInt ofMembers ofOption)

/-- An integer that a document can hold. -/
def Fits (n : ℤ) : Prop := Int64.minValue.toInt ≤ n ∧ n < UInt64.size

/-- The parts that are shown have the views of the documents that they show, and no document but
null is null. -/
structure Mirrors {δ : Type} [Source δ] (shows : δ → Json → Prop) : Prop where
  null {d : δ} : shows d .null → isNull d = true
  present {d : δ} {j : Json} : shows d j → j ≠ .null → isNull d = false
  truth {d : δ} {b : Bool} : shows d (.bool b) → truth? d = some b
  integer {d : δ} {n : ℤ} : shows d (ofInt n) → Fits n → integer? d = some n
  text {d : δ} {s : String} : shows d (ofString s) → text? d = some s
  choice {d : δ} {s : String} : shows d (ofString s) → choice? d = some s
  array {d : δ} {items : List Json} : shows d (.array items) →
    ∃ parts, items? d = some parts ∧ List.Forall₂ shows parts items
  object {d : δ} {members : List (String × Json)} : shows d (ofMembers members) →
    ∃ parts, members? d = some parts ∧
      List.Forall₂ (fun p m => p.1 = m.1 ∧ shows p.2 m.2) parts members

variable {δ α : Type}

/-! ## Members and fields -/

theorem member?_of_mem {members : List (String × δ)} (hnodup : (members.map (·.1)).Nodup)
    {m : String × δ} (hm : m ∈ members) : member? members m.1 = some (some m.2) := by
  have hfilter : members.filter (fun m' => m'.1 = m.1) = [m] := by
    induction members with
    | nil => cases hm
    | cons first rest ih =>
      rw [List.map_cons, List.nodup_cons] at hnodup
      obtain rfl | hm := List.mem_cons.1 hm
      · have hrest : rest.filter (fun m' => m'.1 = m.1) = [] := by
          rw [List.filter_eq_nil_iff]
          rintro m' hm' h
          exact hnodup.1 (List.mem_map.2 ⟨m', hm', of_decide_eq_true h⟩)
        rw [List.filter_cons_of_pos (by simp), hrest]
      · have hne : first.1 ≠ m.1 := fun h => hnodup.1 (List.mem_map.2 ⟨m, hm, h.symm⟩)
        rw [List.filter_cons_of_neg (by simp [hne]), ih hnodup.2 hm]
  rw [member?, hfilter]

theorem mapM_member? {members : List (String × δ)} (hnodup : (members.map (·.1)).Nodup) :
    (members.map (·.1)).mapM (member? members) = some (members.map fun m => some m.2) := by
  suffices h : ∀ found ⊆ members, (found.map (·.1)).mapM (member? members) =
      some (found.map fun m => some m.2) from h members (List.Subset.refl _)
  intro found hsubset
  induction found with
  | nil => rfl
  | cons m rest ih =>
    obtain ⟨hm, hrest⟩ := List.cons_subset.1 hsubset
    simp [member?_of_mem hnodup hm, ih hrest]

variable {shows : δ → Json → Prop}

theorem mapM_of_forall₂ {read? : δ → Option α} {write : α → Json}
    (hread : ∀ d a, shows d (write a) → read? d = some a) {parts : List δ} {items : List α}
    (hparts : List.Forall₂ shows parts (items.map write)) : parts.mapM read? = some items := by
  rw [List.forall₂_map_right_iff] at hparts
  induction hparts with
  | nil => rfl
  | cons hd _ ih => simp [hread _ _ hd, ih]

variable [Source δ]

/-- **The fields of a structure are found under their names.** -/
theorem Mirrors.fields? (h : Mirrors shows) {d : δ} {members : List (String × Json)}
    (hd : shows d (ofMembers members)) (all : Bool) (names : List String)
    (hnames : members.map (·.1) = names) (hnodup : names.Nodup) :
    ∃ parts, fields? all names d = some (parts.map some) ∧
      List.Forall₂ shows parts (members.map (·.2)) := by
  obtain ⟨parts, hparts, hshows⟩ := h.object hd
  obtain rfl : parts.map (·.1) = names := by
    rw [← hnames, ← List.forall₂_eq_eq_eq, List.forall₂_map_left_iff, List.forall₂_map_right_iff]
    exact hshows.imp fun _ _ h => h.1
  refine ⟨parts.map (·.2), ?_, ?_⟩
  · rw [Source.fields?, hparts]
    simp only [mapM_member? hnodup, List.map_map]
    rfl
  · rw [List.forall₂_map_left_iff, List.forall₂_map_right_iff]
    exact hshows.imp fun _ _ h => h.2

/-! ## What a field holds -/

/-- A thing is found by its name. -/
theorem Mirrors.named? (h : Mirrors shows) {d : δ} {all : List α} {name : α → String} {a : α}
    (hd : shows d (ofString (name a))) (ha : (all.find? fun b => name b = name a) = some a) :
    named? all name d = some a := by
  rw [Source.named?, h.choice hd, Option.bind_some, ha]

theorem Mirrors.natural? (h : Mirrors shows) {d : δ} {n limit : ℕ} (hd : shows d (ofNat n))
    (hn : n ≤ limit) (hlimit : limit < UInt64.size) : natural? limit d = some n := by
  have hfits : Fits n := ⟨(by decide : Int64.minValue.toInt ≤ 0).trans (by omega), by omega⟩
  have hinteger : integer? d = some (n : ℤ) := h.integer hd hfits
  rw [Source.natural?, hinteger, Option.bind_some, if_pos ⟨by omega, by omega⟩, Int.toNat_natCast]

theorem Mirrors.word? (h : Mirrors shows) {d : δ} {w : UInt32} (hd : shows d (ofNat w.toNat)) :
    word? d = some w := by
  have hw : w.toNat ≤ UInt32.size - 1 := Nat.le_sub_one_of_lt w.toNat_lt
  rw [RunControl.word?, h.natural? hd hw (by decide), Option.map_some, UInt32.ofNat_toNat]

theorem Mirrors.longWord? (h : Mirrors shows) {d : δ} {n : ℕ} (hd : shows d (ofNat n))
    (hn : n < UInt64.size) : longWord? d = some n :=
  h.natural? hd (Nat.le_sub_one_of_lt hn) (by decide)

/-- A thing that may be missing is null or is read. -/
theorem Mirrors.nullable? (h : Mirrors shows) {d : δ} {read? : δ → Option α} {write : α → Json}
    {o : Option α} (hd : shows d (ofOption write o)) (hne : ∀ a, write a ≠ .null)
    (hread : ∀ a, shows d (write a) → read? d = some a) : nullable? read? d = some o := by
  cases o with
  | none => rw [Source.nullable?, h.null hd, if_pos rfl]
  | some a =>
    have hpresent : isNull d = false := h.present hd (hne a)
    rw [Source.nullable?, hpresent, if_neg (by decide), hread a hd, Option.map_some]

end Source

namespace Json

open Source

/-! ## Documents as they stand -/

theorem mapM_members (d : Located) (members : List (String × Json)) :
    (members.map fun m => (escape m.1.toList, m.2)).mapM
        (fun m => (textOf? m.1).map fun name => (name, d.below m.2)) =
      some (members.map fun m => (m.1, d.below m.2)) := by
  induction members with
  | nil => rfl
  | cons m rest ih => simp [ih, Schema.textOf?_escape]

/-- A document as it stands has the views of the document. -/
theorem mirrors_located : Mirrors fun (d : Located) j => d.json = j where
  null := by
    rintro ⟨_, _⟩ rfl
    rfl
  present := by
    rintro ⟨_, j⟩ _ rfl hne
    cases j <;> first | rfl | exact absurd rfl hne
  truth := by
    rintro ⟨_, _⟩ b rfl
    rfl
  integer := by
    rintro ⟨_, _⟩ n rfl -
    exact integer?_intDigits n
  text := by
    rintro ⟨_, _⟩ s rfl
    exact Schema.textOf?_escape s
  choice := by
    rintro ⟨_, _⟩ s rfl
    exact Schema.textOf?_escape s
  array := by
    rintro ⟨depth, _⟩ items rfl
    refine ⟨items.map (Located.below ⟨depth, .array items⟩), rfl, ?_⟩
    rw [List.forall₂_map_left_iff, List.forall₂_same]
    exact fun _ _ => rfl
  object := by
    rintro d members hd
    refine ⟨members.map fun m => (m.1, d.below m.2), ?_, ?_⟩
    · change Located.members? d = _
      rw [Located.members?, hd]
      exact mapM_members d members
    · rw [List.forall₂_map_left_iff, List.forall₂_same]
      exact fun _ _ => ⟨rfl, rfl⟩

/-! ## Contents that were put aside -/

/-- The document can be put aside as this content. -/
def KeptAs (c : Content) (j : Json) : Prop := ∃ room, content? room j = some c

theorem content?_ofString (room : ℕ) (s : String) :
    content? room (ofString s) = some (.text s) := by
  rw [ofString, content?, Schema.textOf?_escape, Option.map_some]

theorem content?_ofInt (room : ℕ) {n : ℤ} (h : Fits n) :
    content? room (ofInt n) = some (.integer n) := by
  rw [ofInt, content?, numberOf?, integer?_intDigits]
  exact if_pos h

theorem forall₂_contents {room : ℕ} {items : List Json} {cs : List Content}
    (h : contents? room items = some cs) : List.Forall₂ KeptAs cs items := by
  induction items generalizing cs with
  | nil =>
    obtain rfl := Option.some.inj h
    exact .nil
  | cons item rest ih =>
    rw [contents?] at h
    split at h
    · next c cs' hc hcs =>
      obtain rfl := Option.some.inj h
      exact .cons ⟨room, hc⟩ (ih hcs)
    · cases h

theorem forall₂_contentMembers {room : ℕ} {members : List (String × Json)}
    {cs : List (String × Content)}
    (h : contentMembers? room (members.map fun m => (escape m.1.toList, m.2)) = some cs) :
    List.Forall₂ (fun p m => p.1 = m.1 ∧ KeptAs p.2 m.2) cs members := by
  induction members generalizing cs with
  | nil =>
    obtain rfl := Option.some.inj h
    exact .nil
  | cons m rest ih =>
    rw [List.map_cons, contentMembers?, Schema.textOf?_escape] at h
    split at h
    · next s c cs' hs hc hcs =>
      obtain rfl := Option.some.inj h
      exact .cons ⟨(Option.some.inj hs).symm, room, hc⟩ (ih hcs)
    · cases h

theorem isNull_content {room : ℕ} {j : Json} {c : Content} (h : content? room j = some c)
    (hne : j ≠ .null) : isNull c = false := by
  cases j with
  | null => exact absurd rfl hne
  | bool b =>
    rw [content?] at h
    obtain rfl := Option.some.inj h
    rfl
  | number literal =>
    simp only [content?, numberOf?] at h
    split at h
    · split_ifs at h with hn
      · obtain rfl := Option.some.inj h
        rfl
      · obtain ⟨x, -, rfl⟩ := Option.map_eq_some_iff.1 h
        rfl
    · obtain ⟨x, -, rfl⟩ := Option.map_eq_some_iff.1 h
      rfl
  | string raw =>
    rw [content?] at h
    obtain ⟨s, -, rfl⟩ := Option.map_eq_some_iff.1 h
    rfl
  | array items | object members =>
    cases room with
    | zero => cases h
    | succ room =>
      rw [content?] at h
      obtain ⟨cs, -, rfl⟩ := Option.map_eq_some_iff.1 h
      rfl

/-- A content has the views of the document that was put aside. -/
theorem mirrors_content : Mirrors KeptAs where
  null := by
    rintro c ⟨room, hc⟩
    rw [content?] at hc
    obtain rfl := Option.some.inj hc
    rfl
  present := fun ⟨_, hc⟩ => isNull_content hc
  truth := by
    rintro c b ⟨room, hc⟩
    rw [content?] at hc
    obtain rfl := Option.some.inj hc
    rfl
  integer := by
    rintro c n ⟨room, hc⟩ hn
    rw [content?_ofInt room hn] at hc
    obtain rfl := Option.some.inj hc
    rfl
  text := by
    rintro c s ⟨room, hc⟩
    rw [content?_ofString] at hc
    obtain rfl := Option.some.inj hc
    rfl
  choice := by
    rintro c s ⟨room, hc⟩
    rw [content?_ofString] at hc
    obtain rfl := Option.some.inj hc
    rfl
  array := by
    rintro c items ⟨room, hc⟩
    cases room with
    | zero => cases hc
    | succ room =>
      rw [content?, Option.map_eq_some_iff] at hc
      obtain ⟨cs, hcs, rfl⟩ := hc
      exact ⟨cs, rfl, forall₂_contents hcs⟩
  object := by
    rintro c members ⟨room, hc⟩
    cases room with
    | zero => cases hc
    | succ room =>
      rw [ofMembers, content?, Option.map_eq_some_iff] at hc
      obtain ⟨cs, hcs, rfl⟩ := hc
      exact ⟨cs, rfl, forall₂_contentMembers hcs⟩

end Json

end RunControl
