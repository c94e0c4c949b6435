import RunControl.Proofs.Views

/-!
# Decoding undoes encoding

The text of an object is read as that object again. Only the time of a result is cut: a document has
it in whole milliseconds.

* `Diagnostic.read?_toJson`, `RunResult.read?_toJson`: read from both kinds of documents;
* `ProgramInfo.read?_toJson`, `Value.read?_toJson`, `Cell.read?_toJson`, `Notice.read?_toJson`;
* `Faithful`: what it means for a way to write objects and a way to read them;
* **`faithfulWire`**: it is so for all that goes over the wire.
-/

namespace RunControl

open Json (ofString ofNat ofInt ofMembers ofOption Located Content Keeps KeptAs content?)
open Source

variable {δ : Type} [Source δ] {shows : δ → Json → Prop}

/-! ## Names -/

theorem DataType.find?_name (t : DataType) : (all.find? fun t' => t'.name = t.name) = some t := by
  cases t <;> rfl

theorem DiagnosticKind.find?_tag (k : DiagnosticKind) :
    (all.find? fun k' => k'.tag = k.tag) = some k := by
  cases k <;> rfl

theorem Termination.find?_name (t : Termination) :
    (all.find? fun t' => t'.name = t.name) = some t := by
  cases t <;> rfl

theorem Command.find?_name (c : Command) : (all.find? fun c' => c'.name = c.name) = some c := by
  cases c <;> rfl

/-! ## Structures -/

theorem Diagnostic.toJson_ne_null (x : Diagnostic) : x.toJson ≠ .null := by rintro ⟨⟩

theorem Diagnostic.read?_toJson (h : Mirrors shows) {d : δ} {x : Diagnostic}
    (hd : shows d x.toJson) : Diagnostic.read? d = some x := by
  obtain ⟨parts, hfields, hparts⟩ :=
    h.fields? hd true ["kind", "line", "column", "message"] rfl (by decide)
  simp only [List.map_cons, List.map_nil, List.forall₂_cons_right_iff,
    List.forall₂_nil_right_iff] at hparts
  obtain ⟨kind, _, hkind, ⟨line, _, hline, ⟨column, _, hcolumn, ⟨message, _, hmessage, rfl, rfl⟩,
    rfl⟩, rfl⟩, rfl⟩ := hparts
  have hkind : DiagnosticKind.read? kind = some x.kind := h.named? hkind x.kind.find?_tag
  simp only [Diagnostic.read?, hfields, List.map_cons, List.map_nil, Option.bind_eq_bind,
    Option.bind_some, required?, hkind, h.word? hline, h.word? hcolumn, h.text hmessage]

/-- What a document keeps of a result: the time in whole milliseconds, as a number of 64 bits. -/
def RunResult.kept (r : RunResult) : RunResult :=
  { r with elapsed := r.elapsedMillis.toNat * 1000000 }

theorem RunResult.kept_of_fits {r : RunResult} (h : r.elapsed / 1000000 < UInt64.size) :
    r.kept = { r with elapsed := r.elapsed / 1000000 * 1000000 } := by
  rw [kept, elapsedMillis, UInt64.toNat_ofNat_of_lt' h]

@[simp]
theorem RunResult.elapsedMillis_kept (r : RunResult) : r.kept.elapsedMillis = r.elapsedMillis := by
  rw [elapsedMillis, kept, Nat.mul_div_cancel _ (by decide), UInt64.ofNat_toNat]

@[simp]
theorem RunResult.toJson_kept (r : RunResult) : r.kept.toJson = r.toJson := by
  rw [toJson, elapsedMillis_kept]
  rfl

theorem RunResult.read?_toJson (h : Mirrors shows) {d : δ} {r : RunResult}
    (hd : shows d r.toJson) : RunResult.read? d = some r.kept := by
  obtain ⟨parts, hfields, hparts⟩ :=
    h.fields? hd true ["termination", "error", "elapsed_ms"] rfl (by decide)
  simp only [outline, List.cons_append, List.nil_append, List.map_cons, List.map_nil,
    List.forall₂_cons_right_iff, List.forall₂_nil_right_iff] at hparts
  obtain ⟨termination, _, htermination, ⟨error, _, herror, ⟨elapsed, _, helapsed, rfl, rfl⟩, rfl⟩,
    rfl⟩ := hparts
  have htermination : Termination.read? termination = some r.termination :=
    h.named? htermination r.termination.find?_name
  have herror : nullable? Diagnostic.read? error = some r.error :=
    h.nullable? herror Diagnostic.toJson_ne_null fun _ => Diagnostic.read?_toJson h
  simp only [RunResult.read?, hfields, List.map_cons, List.map_nil, Option.bind_eq_bind,
    Option.bind_some, required?, htermination, optional?, herror,
    h.longWord? helapsed r.elapsedMillis.toNat_lt]
  rfl

theorem ProgramInfo.read?_toJson (h : Mirrors shows) {d : δ} {p : ProgramInfo}
    (hp : p.lineCount < UInt64.size) (hd : shows d p.toJson) : ProgramInfo.read? d = some p := by
  obtain ⟨parts, hfields, hparts⟩ :=
    h.fields? hd true ["name", "line_count", "functions", "entry_function", "source_file"] rfl
      (by decide)
  simp only [List.map_cons, List.map_nil, List.forall₂_cons_right_iff,
    List.forall₂_nil_right_iff] at hparts
  obtain ⟨name, _, hname, ⟨lineCount, _, hlineCount, ⟨functions, _, hfunctions, ⟨entry, _, hentry,
    ⟨file, _, hfile, rfl, rfl⟩, rfl⟩, rfl⟩, rfl⟩, rfl⟩ := hparts
  have hfunctions : texts? functions = some p.functions := by
    obtain ⟨items, hitems, hshows⟩ := h.array hfunctions
    rw [texts?, hitems, Option.bind_some, mapM_of_forall₂ (fun _ _ => h.text) hshows]
  have hfile : nullable? text? file = some p.sourceFile :=
    h.nullable? hfile (by rintro _ ⟨⟩) fun _ => h.text
  simp only [ProgramInfo.read?, hfields, List.map_cons, List.map_nil, Option.bind_eq_bind,
    Option.bind_some, required?, h.text hname, h.longWord? hlineCount hp, hfunctions,
    h.text hentry, optional?, hfile]

/-! ## Tag and content -/

section Tagged

variable [Keeps δ] {d : δ} {tag content s : String}

theorem tagged?_alone (h : Mirrors shows) (names : List String) (hne : tag ≠ content)
    (hd : shows d (ofMembers [(tag, ofString s)])) :
    tagged? tag content names d = some (s, .alone) := by
  obtain ⟨parts, hmembers, hparts⟩ := h.object hd
  simp only [List.forall₂_cons_right_iff, List.forall₂_nil_right_iff] at hparts
  obtain ⟨⟨_, t⟩, _, ⟨rfl, ht⟩, rfl, rfl⟩ := hparts
  simp [tagged?, hmembers, member?, hne, h.choice ht]

theorem exists_tagged?_after {j : Json} (h : Mirrors shows) (names : List String)
    (hne : tag ≠ content) (hd : shows d (ofMembers [(tag, ofString s), (content, j)])) :
    ∃ c, tagged? tag content names d = some (s, .after c) ∧ shows c j := by
  obtain ⟨parts, hmembers, hparts⟩ := h.object hd
  simp only [List.forall₂_cons_right_iff, List.forall₂_nil_right_iff] at hparts
  obtain ⟨⟨_, t⟩, _, ⟨rfl, ht⟩, ⟨⟨_, c⟩, _, ⟨rfl, hc⟩, rfl, rfl⟩, rfl⟩ := hparts
  refine ⟨c, ?_, hc⟩
  simp [tagged?, hmembers, member?, hne, hne.symm, h.choice ht]

end Tagged

/-- The value is a real. -/
def Value.isReal : Value → Bool
  | real _ => true
  | _ => false

theorem Value.readContent?_content (h : Mirrors shows) {d : δ} {v : Value}
    (hv : v.isReal = false) (hd : shows d v.content) : readContent? v.type d = some v := by
  cases v with
  | integer n =>
    have hfits : Fits n.toInt := ⟨n.minValue_le_toInt, n.toInt_lt.trans (by decide)⟩
    have hinteger : integer? d = some n.toInt := h.integer hd hfits
    simp only [type, readContent?, hinteger, Option.bind_some, Numeral.toInt64?_toInt,
      Option.map_some]
  | real x => cases hv
  | boolean b => rw [type, readContent?, h.truth hd, Option.map_some]
  | character c =>
    simp only [type, readContent?, h.text hd, Option.map_some, String.toList_singleton]
  | text s => rw [type, readContent?, h.text hd, Option.map_some]

theorem Value.read?_toJson [Keeps δ] (h : Mirrors shows) {d : δ} {v : Value}
    (hv : v.isReal = false) (hd : shows d v.toJson) : Value.read? d = some v := by
  obtain ⟨c, htagged, hc⟩ := exists_tagged?_after h
    (DataType.all.map DataType.name) (by decide) hd
  simp only [Value.read?, htagged, Option.bind_eq_bind, Option.bind_some, v.type.find?_name,
    readContent?_content h hv hc]

/-- The cell holds a real. -/
def Cell.holdsReal : Cell → Bool
  | value v => v.isReal
  | _ => false

theorem Cell.read?_toJson [Keeps δ] (h : Mirrors shows) {d : δ} {c : Cell}
    (hc : c.holdsReal = false) (hd : shows d c.toJson) : Cell.read? d = some c := by
  cases c with
  | nullValue | empty =>
    have htagged := tagged?_alone h (CellState.all.map CellState.name)
      (show "state" ≠ "value" by decide) hd
    rw [Cell.read?, htagged]
    rfl
  | value v =>
    obtain ⟨content, htagged, hcontent⟩ := exists_tagged?_after h
      (CellState.all.map CellState.name) (by decide) hd
    rw [Cell.read?, htagged]
    exact congrArg (Option.map Cell.value) (v.read?_toJson h hc hcontent)

/-! ## Notices -/

namespace Json

theorem contentMembers?_eq_mapM (room : ℕ) (members : List (String × Json)) :
    contentMembers? room (members.map fun m => (escape m.1.toList, m.2)) =
      members.mapM fun m => (content? room m.2).map fun c => (m.1, c) := by
  induction members with
  | nil => rfl
  | cons m rest ih =>
    rw [List.map_cons, contentMembers?, ih, Schema.textOf?_escape, List.mapM_cons]
    cases content? room m.2 with
    | none => rfl
    | some c => cases rest.mapM fun m => (content? room m.2).map fun c => (m.1, c) <;> rfl

theorem exists_content_ofNat (room : ℕ) {n : ℕ} (h : n < UInt64.size) :
    ∃ c, content? room (ofNat n) = some c :=
  ⟨_, content?_ofInt room (n := n) ⟨(by decide : Int64.minValue.toInt ≤ 0).trans (by omega),
    by omega⟩⟩

theorem exists_content_ofMembers {room : ℕ} {members : List (String × Json)}
    (h : ∀ m ∈ members, ∃ c, content? room m.2 = some c) :
    ∃ c, content? (room + 1) (ofMembers members) = some c := by
  suffices hmembers : ∃ cs, contentMembers? room
      (members.map fun m => (escape m.1.toList, m.2)) = some cs by
    obtain ⟨cs, hcs⟩ := hmembers
    exact ⟨.object cs, by rw [ofMembers, content?, hcs, Option.map_some]⟩
  induction members with
  | nil => exact ⟨[], rfl⟩
  | cons m rest ih =>
    obtain ⟨c, hc⟩ := h m List.mem_cons_self
    obtain ⟨cs, hcs⟩ := ih fun m' hm' => h m' (List.mem_cons_of_mem _ hm')
    exact ⟨(m.1, c) :: cs, by rw [List.map_cons, contentMembers?, hcs, hc, Schema.textOf?_escape]⟩

theorem event?_located {d : Located} {event : String} {others : List (String × Json)} {c : Content}
    (hd : d.json = ofMembers (("event", ofString event) :: others))
    (hothers : ∀ m ∈ others, m.1 ≠ "event")
    (hc : content? (depthLimit - d.depth) (ofMembers others) = some c) :
    event? d = some (event, c) := by
  obtain ⟨room, hroom⟩ : ∃ room, depthLimit - d.depth = room + 1 := by
    cases hroom : depthLimit - d.depth with
    | zero =>
      rw [hroom] at hc
      cases hc
    | succ room => exact ⟨room, rfl⟩
  have hbelow (j : Json) : Keeps.keep? (d.below j) = content? room j :=
    congrArg (content? · j) (show depthLimit - (d.depth + 1) = room by omega)
  rw [hroom, ofMembers, content?, contentMembers?_eq_mapM, Option.map_eq_some_iff] at hc
  obtain ⟨cs, hcs, rfl⟩ := hc
  let parts := others.map fun m => (m.1, d.below m.2)
  have hparts : ∀ p ∈ parts, p.1 ≠ "event" := List.forall_mem_map.2 hothers
  have hmembers : members? d = some (("event", d.below (ofString event)) :: parts) := by
    change Located.members? d = _
    rw [Located.members?, hd]
    exact mapM_members d _
  have hevent : Source.member? (("event", d.below (ofString event)) :: parts) "event" =
      some (some (d.below (ofString event))) := by
    rw [Source.member?, List.filter_cons_of_pos (by simp),
      List.filter_eq_nil_iff.2 (by simpa using hparts)]
  have hrest : (("event", d.below (ofString event)) :: parts).filter (fun m => m.1 ≠ "event") =
      parts := by
    rw [List.filter_cons_of_neg (by simp), List.filter_eq_self.2 (by simpa using hparts)]
  have htag : tag? (eventFields.map (·.1)) (d.below (ofString event)) = some event :=
    Schema.textOf?_escape event
  have hkeep : (parts.mapM fun m => (Keeps.keep? m.2).map fun c => (m.1, c)) = some cs := by
    simp only [parts, List.mapM_map, Function.comp_def, hbelow, hcs]
  simp only [event?, hmembers, hevent, hrest, hkeep, htag, Option.bind_eq_bind, Option.bind_some]

end Json

open Json (event?_located exists_content_ofMembers exists_content_ofNat content?_ofString
  mirrors_content mirrors_located)

theorem Diagnostic.exists_content (d : Diagnostic) (room : ℕ) :
    ∃ c, content? (room + 1) d.toJson = some c := by
  refine exists_content_ofMembers ?_
  simp only [List.forall_mem_cons]
  exact ⟨⟨_, content?_ofString room _⟩, exists_content_ofNat room (d.position.line.toNat_lt.trans
    (by decide)), exists_content_ofNat room (d.position.column.toNat_lt.trans (by decide)),
    ⟨_, content?_ofString room _⟩, fun m hm => by cases hm⟩

theorem RunResult.exists_content (r : RunResult) (room : ℕ) :
    ∃ c, content? (room + 2) r.toJson = some c := by
  have herror : ∃ c, content? (room + 1) (ofOption Diagnostic.toJson r.error) = some c := by
    cases r.error with
    | none => exact ⟨.null, rfl⟩
    | some d => exact d.exists_content room
  refine exists_content_ofMembers ?_
  simp only [outline, List.cons_append, List.nil_append, List.forall_mem_cons]
  exact ⟨⟨_, content?_ofString _ _⟩, herror, exists_content_ofNat _ r.elapsedMillis.toNat_lt,
    fun m hm => by cases hm⟩

/-- What a document keeps of a notice. -/
def Notice.kept : Notice → Notice
  | ended result => ended result.kept
  | n => n

@[simp]
theorem Notice.toJson_kept (n : Notice) : n.kept.toJson = n.toJson := by
  cases n with
  | ended result => simp only [kept, toJson, RunResult.toJson_kept, event]
  | _ => rfl

/-- What stands in the document of a notice beside the name of its event. -/
def Notice.others : Notice → List (String × Json)
  | lineHighlighted line => [("line", ofNat line.toNat)]
  | ended result => [("result", result.toJson)]
  | _ => []

theorem Notice.toJson_eq (n : Notice) :
    n.toJson = ofMembers (("event", ofString n.event) :: n.others) := by
  cases n <;> rfl

theorem Notice.exists_content (n : Notice) :
    ∃ c, content? Json.depthLimit (ofMembers n.others) = some c := by
  refine exists_content_ofMembers fun m hm => ?_
  cases n with
  | lineHighlighted line =>
    obtain rfl := List.mem_singleton.1 hm
    exact exists_content_ofNat _ (line.toNat_lt.trans (by decide))
  | ended result =>
    obtain rfl := List.mem_singleton.1 hm
    exact result.exists_content _
  | started | paused | resumed => cases hm

theorem Notice.read?_toJson (n : Notice) : Notice.read? (Located.root n.toJson) = some n.kept := by
  have hothers : ∀ m ∈ n.others, m.1 ≠ "event" := by
    cases n <;> simp [others]
  obtain ⟨c, hc⟩ := n.exists_content
  have hevent : event? (Located.root n.toJson) = some (n.event, c) :=
    event?_located n.toJson_eq hothers hc
  have hkept : KeptAs c (ofMembers n.others) := ⟨_, hc⟩
  obtain ⟨parts, hfields, hparts⟩ := mirrors_content.fields? hkept true _ rfl
    (by cases n <;> simp [others])
  rw [read?, hevent]
  cases n with
  | started | paused | resumed =>
    obtain rfl := List.forall₂_nil_right_iff.1 hparts
    exact congrArg (Option.bind · _) hfields
  | lineHighlighted line =>
    obtain ⟨part, _, hline, hnil, rfl⟩ := List.forall₂_cons_right_iff.1 hparts
    obtain rfl := List.forall₂_nil_right_iff.1 hnil
    have hline : word? part = some line := mirrors_content.word? hline
    refine (congrArg (Option.bind · _) hfields).trans ?_
    exact congrArg (Option.map lineHighlighted) hline
  | ended result =>
    obtain ⟨part, _, hresult, hnil, rfl⟩ := List.forall₂_cons_right_iff.1 hparts
    obtain rfl := List.forall₂_nil_right_iff.1 hnil
    have hresult : RunResult.read? part = some result.kept :=
      RunResult.read?_toJson mirrors_content hresult
    refine (congrArg (Option.bind · _) hfields).trans ?_
    exact congrArg (Option.map ended) hresult

/-! ## Texts -/

section Readable

open Json (Readable readable_ofString readable_ofNat readable_ofInt readable_ofMembers)

theorem ProgramInfo.readable_toJson (p : ProgramInfo) : p.toJson.Readable := by
  have hfunctions : (Json.array (p.functions.map ofString)).Readable :=
    .array (List.forall_mem_map.2 fun _ _ => readable_ofString _)
  have hfile : (ofOption ofString p.sourceFile).Readable := by
    cases p.sourceFile with
    | none => exact .null
    | some s => exact readable_ofString s
  refine readable_ofMembers ?_
  simp only [List.forall_mem_cons]
  exact ⟨readable_ofString _, readable_ofNat _, hfunctions, readable_ofString _, hfile,
    fun m hm => by cases hm⟩

theorem Value.readable_toJson {v : Value} (hv : v.isReal = false) : v.toJson.Readable := by
  have hcontent : v.content.Readable := by
    cases v with
    | integer n => exact readable_ofInt _
    | real x => cases hv
    | boolean b => exact .bool b
    | character c => exact readable_ofString _
    | text s => exact readable_ofString s
  refine readable_ofMembers ?_
  simp only [List.forall_mem_cons]
  exact ⟨readable_ofString _, hcontent, fun m hm => by cases hm⟩

theorem Cell.readable_toJson {c : Cell} (hc : c.holdsReal = false) : c.toJson.Readable := by
  refine readable_ofMembers (List.forall_mem_cons.2 ⟨readable_ofString _, ?_⟩)
  cases c with
  | nullValue | empty => exact fun m hm => by cases hm
  | value v => exact List.forall_mem_singleton.2 (v.readable_toJson hc)

theorem Notice.readable_toJson (n : Notice) : n.toJson.Readable := by
  rw [n.toJson_eq]
  refine readable_ofMembers (List.forall_mem_cons.2 ⟨readable_ofString _, ?_⟩)
  cases n with
  | started | paused | resumed => exact fun m hm => by cases hm
  | lineHighlighted line => exact List.forall_mem_singleton.2 (readable_ofNat _)
  | ended result => exact List.forall_mem_singleton.2 result.readable_toJson

end Readable

/-! ## What goes over the wire -/

/-- Objects are written and read faithfully: of the objects that are admitted, a text keeps what
`kept` says, no more and no less. They are read from their texts and have these texts again, and
different ones have different texts. -/
structure Faithful {α : Type} (write : α → Json) (read? : Located → Option α) (admits : α → Prop)
    (kept : α → α) : Prop where
  decode {a : α} : admits a → Json.read? read? (write a).compact = some (kept a)
  encode {a : α} : admits a → (write (kept a)).compact = (write a).compact
  distinct {a b : α} : admits a → admits b →
    ((write a).compact = (write b).compact ↔ kept a = kept b)

theorem Faithful.of_read? {α : Type} {write : α → Json} {read? : Located → Option α}
    {admits : α → Prop} {kept : α → α} (hreadable : ∀ a, admits a → (write a).Readable)
    (hread : ∀ a, admits a → read? (Located.root (write a)) = some (kept a))
    (hkept : ∀ a, write (kept a) = write a) : Faithful write read? admits kept := by
  have hdecode {a : α} (ha : admits a) : Json.read? read? (write a).compact = some (kept a) := by
    rw [Json.read?, (hreadable a ha).parse?_compact, Option.bind_some, hread a ha]
  refine ⟨hdecode, fun _ => by rw [hkept], fun {a b} ha hb => ⟨fun htext => ?_, fun h => ?_⟩⟩
  · rw [← Option.some.injEq, ← hdecode ha, htext, hdecode hb]
  · rw [← hkept a, h, hkept]

/-- What goes over the wire is written and read faithfully; of a result only the time is cut. -/
structure FaithfulWire : Prop where
  notice : Faithful Notice.toJson Notice.read? (fun _ => True) Notice.kept
  result : Faithful RunResult.toJson RunResult.read? (fun _ => True) RunResult.kept
  time : ∀ r : RunResult, r.elapsed / 1000000 < UInt64.size →
    r.kept = { r with elapsed := r.elapsed / 1000000 * 1000000 }
  diagnostic : Faithful Diagnostic.toJson Diagnostic.read? (fun _ => True) id
  program : Faithful ProgramInfo.toJson ProgramInfo.read? (fun p => p.lineCount < UInt64.size) id
  command : Faithful (fun c => ofString c.name) Command.read? (fun _ => True) id
  value : Faithful Value.toJson Value.read? (fun v => v.isReal = false) id
  cell : Faithful Cell.toJson Cell.read? (fun c => c.holdsReal = false) id

/-- **Decoding undoes encoding**, for everything that goes over the wire. -/
theorem faithfulWire : FaithfulWire where
  notice := .of_read? (fun n _ => n.readable_toJson) (fun n _ => n.read?_toJson)
    Notice.toJson_kept
  result := .of_read? (fun r _ => r.readable_toJson)
    (fun _ _ => RunResult.read?_toJson mirrors_located rfl) RunResult.toJson_kept
  time := fun _ => RunResult.kept_of_fits
  diagnostic := .of_read? (fun d _ => d.readable_toJson)
    (fun _ _ => Diagnostic.read?_toJson mirrors_located rfl) fun _ => rfl
  program := .of_read? (fun p _ => p.readable_toJson)
    (fun _ hp => ProgramInfo.read?_toJson mirrors_located hp rfl) fun _ => rfl
  command := .of_read? (fun _ _ => Json.readable_ofString _)
    (fun c _ => mirrors_located.named? rfl c.find?_name) fun _ => rfl
  value := .of_read? (fun _ hv => Value.readable_toJson hv)
    (fun _ hv => Value.read?_toJson mirrors_located hv rfl) fun _ => rfl
  cell := .of_read? (fun _ hc => Cell.readable_toJson hc)
    (fun _ hc => Cell.read?_toJson mirrors_located hc rfl) fun _ => rfl

end RunControl
