import FormulaSheet.Log.Event
import FormulaSheet.Proofs.Json.Sorted

/-!
# Events without doubles, and plain ones

The context of an event may hold values of every type that files have. Doubles are the only ones
whose documents may not be exact. An event is plain if its context is made of nothing, truth values,
integers, texts, sequences and mappings under texts. The document of an event without doubles is
exact, and that of a plain event is plain, as soon as the event is not refused; then it is also
nested less deep than the reader allows.

* `Value.isExact_document`, `Value.isPlain_document`: documents of values without doubles are exact,
  and those of plain values are plain;
* `Event.IsFloatFree.document`, `Event.IsPlain.document`: so are documents of events;
* `Event.depth_document_le`: how deep the document of an event is nested.
-/

namespace FormulaSheet

namespace Value

mutual

/-- The value is made of nothing, truth values, integers, joined texts, sequences, and mappings
under joined texts. -/
def IsPlain : Value → Prop
  | null | bool _ | int _ => True
  | str s => Json.IsJoined s
  | list items => ArePlain items
  | map entries => EntriesArePlain entries
  | float _ | octets _ | timestamp _ | set _ => False

/-- All items are plain. -/
def ArePlain : List Value → Prop
  | [] => True
  | v :: items => IsPlain v ∧ ArePlain items

/-- All entries are plain, and their keys are joined texts. -/
def EntriesArePlain : List (Value × Value) → Prop
  | [] => True
  | (key, v) :: entries => (∃ s, key = str s ∧ Json.IsJoined s) ∧ IsPlain v ∧
      EntriesArePlain entries

end

mutual

/-- There is no double among the parts of the value. The keys of a mapping do not count, since they
are written as texts. -/
def IsFloatFree : Value → Prop
  | float _ => False
  | list items | set items => AreFloatFree items
  | map entries => EntriesAreFloatFree entries
  | null | bool _ | int _ | str _ | octets _ | timestamp _ => True

/-- There is no double in any of the items. -/
def AreFloatFree : List Value → Prop
  | [] => True
  | v :: items => IsFloatFree v ∧ AreFloatFree items

/-- There is no double in what any of the entries holds. -/
def EntriesAreFloatFree : List (Value × Value) → Prop
  | [] => True
  | (_, v) :: entries => IsFloatFree v ∧ EntriesAreFloatFree entries

end

mutual

theorem IsPlain.isFloatFree : ∀ {v : Value}, IsPlain v → IsFloatFree v
  | null, _ | bool _, _ | int _, _ | str _, _ => True.intro
  | list items, h => ArePlain.areFloatFree (show ArePlain items from h)
  | map entries, h => EntriesArePlain.areFloatFree (show EntriesArePlain entries from h)
  | float _, h | octets _, h | timestamp _, h | set _, h => h.elim

theorem ArePlain.areFloatFree : ∀ {items : List Value}, ArePlain items → AreFloatFree items
  | [], h => h
  | _ :: _, h => ⟨h.1.isFloatFree, ArePlain.areFloatFree h.2⟩

theorem EntriesArePlain.areFloatFree : ∀ {entries : List (Value × Value)},
    EntriesArePlain entries → EntriesAreFloatFree entries
  | [], h => h
  | (_, _) :: _, h => ⟨h.2.1.isFloatFree, EntriesArePlain.areFloatFree h.2.2⟩

end

mutual

/-- **The document of a value without doubles** is exact if its integers can be written. -/
theorem isExact_document : ∀ {v : Value}, IsFloatFree v →
    (Event.valueDocument v).isWritable = true → (Event.valueDocument v).IsExact
  | null, _ | bool _, _ | str _, _ | octets _, _ | timestamp _, _ => fun _ => True.intro
  | int _, _ => fun hw => hw
  | list items, h | set items, h => areExact_documents (show AreFloatFree items from h)
  | map entries, h => fun hw => by
    refine Json.fieldsAreExact_iff.2 fun f hf => ?_
    have hwf := Json.fieldsAreWritable_iff.1 hw f hf
    exact exact_entryDocuments (show EntriesAreFloatFree entries from h) f
      (Register.mem_of_mem_ofList hf) hwf
  | float _, h => h.elim

theorem areExact_documents : ∀ {items : List Value}, AreFloatFree items →
    Json.areWritable (Event.itemDocuments items) = true →
    Json.AreExact (Event.itemDocuments items)
  | [], _ => fun _ => True.intro
  | v :: items, h => fun hw => by
    rw [Event.itemDocuments, Json.areWritable, Bool.and_eq_true] at hw
    exact ⟨isExact_document h.1 hw.1, areExact_documents h.2 hw.2⟩

theorem exact_entryDocuments : ∀ {entries : List (Value × Value)}, EntriesAreFloatFree entries →
    ∀ f ∈ Event.entryDocuments entries, f.2.isWritable = true → f.2.IsExact
  | [], _, _, hf => absurd hf List.not_mem_nil
  | (key, v) :: entries, h, f, hf => by
    rw [Event.entryDocuments] at hf
    rcases List.mem_cons.1 hf with rfl | hf
    · exact isExact_document h.1
    · exact exact_entryDocuments h.2 f hf

end

mutual

/-- **The document of a plain value** is plain if its integers can be written. -/
theorem isPlain_document : ∀ {v : Value}, IsPlain v → (Event.valueDocument v).isWritable = true →
    (Event.valueDocument v).IsPlain
  | null, _ | bool _, _ => fun _ => True.intro
  | int _, _ => fun hw => by
    rw [Event.valueDocument, Json.isWritable] at hw
    rw [Event.valueDocument, Json.IsPlain]
    exact hw
  | str _, h => fun _ => h
  | list items, h => arePlain_documents (show ArePlain items from h)
  | map entries, h => fun hw => by
    -- of the entries under one name only the last one is left
    refine ⟨Register.names_ofList_nodup _, Json.fieldsArePlain_iff.2 fun f hf => ?_⟩
    have hwf := Json.fieldsAreWritable_iff.1 hw f hf
    have hm := Register.mem_of_mem_ofList hf
    have hp := entries_documents (show EntriesArePlain entries from h) f hm
    exact ⟨hp.1, hp.2 hwf⟩
  | float _, h | octets _, h | timestamp _, h | set _, h => h.elim

theorem arePlain_documents : ∀ {items : List Value}, ArePlain items →
    Json.areWritable (Event.itemDocuments items) = true →
    Json.ArePlain (Event.itemDocuments items)
  | [], _ => fun _ => True.intro
  | v :: items, h => fun hw => by
    rw [Event.itemDocuments, Json.areWritable, Bool.and_eq_true] at hw
    exact ⟨isPlain_document h.1 hw.1, arePlain_documents h.2 hw.2⟩

theorem entries_documents : ∀ {entries : List (Value × Value)}, EntriesArePlain entries →
    ∀ f ∈ Event.entryDocuments entries,
      Json.IsJoined f.1 ∧ (f.2.isWritable = true → f.2.IsPlain)
  | [], _, _, hf => absurd hf List.not_mem_nil
  | (key, v) :: entries, ⟨⟨s, hk, hs⟩, hv, h⟩, f, hf => by
    rw [Event.entryDocuments] at hf
    rcases List.mem_cons.1 hf with rfl | hf
    · rw [hk]
      exact ⟨hs, isPlain_document hv⟩
    · exact entries_documents h f hf

end

end Value

namespace Event

/-- The texts of the event are joined, its context has no name twice, and the values in it are
plain. -/
structure IsPlain (e : Event) : Prop where
  /-- the time is a joined text -/
  stamp : Json.IsJoined e.stamp
  /-- the message is a joined text -/
  message : Json.IsJoined e.message
  /-- the code of an error is a joined text -/
  code : ∀ code, e.code = some code → Json.IsJoined code
  /-- the context has no name twice -/
  nodup : (Register.names e.context).Nodup
  /-- the names in the context are joined texts -/
  names : ∀ f ∈ e.context, Json.IsJoined f.1
  /-- the values in the context are plain -/
  values : ∀ f ∈ e.context, f.2.IsPlain

/-- There are no doubles in the context of the event. -/
def IsFloatFree (e : Event) : Prop :=
  ∀ f ∈ e.context, f.2.IsFloatFree

theorem IsPlain.isFloatFree {e : Event} (h : e.IsPlain) : e.IsFloatFree :=
  fun f hf => (h.values f hf).isFloatFree

/-- The document of the code of an error. -/
def codeDocument : Option Text → Json
  | some code => .str code
  | none => .null

/-- The fields of the document of an event. -/
def fields (e : Event) : Register Json :=
  [("schema_version", .int e.version), ("ts", .str e.stamp), ("level", .str e.level.name),
    ("event_type", .str e.type.name), ("context", contextDocument e.context),
    ("message", .str e.message), ("error_code", codeDocument e.code)]

theorem document_eq (e : Event) : e.document = .obj e.fields :=
  rfl

theorem names_fields_nodup (e : Event) : (Register.names e.fields).Nodup := by
  simp [fields]

theorem depth_codeDocument (code : Option Text) : (codeDocument code).depth = 0 := by
  cases code <;> rfl

/-! ## Events that are not refused -/

/-- An event is not refused exactly if its context is not nested too deep and its integers have few
enough digits. -/
theorem refusal?_eq_none_iff {e : Event} : e.refusal? = none ↔
    (contextDocument e.context).depth ≤ maxDepth + 1 ∧ e.document.isWritable = true := by
  by_cases hd : maxDepth + 1 < (contextDocument e.context).depth
  · simp only [refusal?, document?, if_pos hd, reduceCtorEq, false_iff, not_and]
    exact fun h => absurd hd (Nat.not_lt.2 h)
  · by_cases hw : e.document.isWritable = true
    · simp only [refusal?, document?, if_neg hd, if_pos hw, true_iff]
      exact ⟨Nat.not_lt.1 hd, hw⟩
    · simp only [refusal?, document?, if_neg hd, if_neg hw, reduceCtorEq, false_iff, not_and]
      exact fun _ => hw

theorem isWritable_of_refusal? {e : Event} (h : e.refusal? = none) :
    e.document.isWritable = true :=
  (refusal?_eq_none_iff.1 h).2

/-- The document of an event is nested one level deeper than its context. -/
theorem depth_document_le {e : Event} (h : e.refusal? = none) :
    e.document.depth ≤ maxDepth + 2 := by
  have hc := (refusal?_eq_none_iff.1 h).1
  rw [document_eq, fields]
  simp only [Json.depth, Json.fieldsDepth, depth_codeDocument]
  omega

/-! ## Documents of events -/

theorem isExact_codeDocument (code : Option Text) : (codeDocument code).IsExact := by
  cases code <;> exact True.intro

/-- **The document of an event without doubles** is exact if its integers can be written. -/
theorem IsFloatFree.document {e : Event} (h : e.IsFloatFree) (hw : e.document.isWritable = true) :
    e.document.IsExact := by
  rw [document_eq] at hw ⊢
  simp only [fields, Json.isWritable, Json.fieldsAreWritable, Bool.and_eq_true] at hw
  -- only the version and the context have integers
  obtain ⟨hversion, -, -, -, hcontext, -⟩ := hw
  have hexact : (contextDocument e.context).IsExact := by
    refine Json.fieldsAreExact_iff.2 fun f hf => ?_
    have hwf := Json.fieldsAreWritable_iff.1 hcontext f hf
    obtain ⟨d, hd, rfl⟩ := List.mem_map.1 hf
    exact Value.isExact_document (h d hd) hwf
  exact ⟨hversion, trivial, trivial, trivial, hexact, trivial, isExact_codeDocument e.code, trivial⟩

theorem IsPlain.context {e : Event} (h : e.IsPlain)
    (hw : (contextDocument e.context).isWritable = true) : (contextDocument e.context).IsPlain := by
  have hn : Register.names (e.context.map fun f => (f.1, valueDocument f.2)) =
      Register.names e.context := by
    rw [Register.names, Register.names, List.map_map]
    rfl
  refine ⟨hn ▸ h.nodup, Json.fieldsArePlain_iff.2 fun f hf => ?_⟩
  have hwf := Json.fieldsAreWritable_iff.1 hw f hf
  obtain ⟨d, hd, rfl⟩ := List.mem_map.1 hf
  exact ⟨h.names d hd, Value.isPlain_document (h.values d hd) hwf⟩

theorem isJoined_level (l : Level) : Json.IsJoined l.name := by
  cases l <;> decide

theorem isJoined_type (t : EventType) : Json.IsJoined t.name := by
  cases t <;> decide

theorem IsPlain.codeDocument {e : Event} (h : e.IsPlain) : (codeDocument e.code).IsPlain := by
  cases hc : e.code with
  | none => exact True.intro
  | some code => exact h.code code hc

/-- **The document of a plain event** is plain if its integers can be written. -/
theorem IsPlain.document {e : Event} (h : e.IsPlain) (hw : e.document.isWritable = true) :
    e.document.IsPlain := by
  rw [document_eq] at hw ⊢
  simp only [fields, Json.isWritable, Json.fieldsAreWritable, Bool.and_eq_true] at hw
  -- only the version and the context have integers
  obtain ⟨hversion, -, -, -, hcontext, -⟩ := hw
  have hname (name : Text) (hn : name ∈ [("schema_version" : Text), "ts", "level", "event_type",
      "context", "message", "error_code"]) : Json.IsJoined name := by
    revert name
    decide
  refine ⟨e.names_fields_nodup, hname _ (by simp), hversion, hname _ (by simp), h.stamp,
    hname _ (by simp), isJoined_level e.level, hname _ (by simp), isJoined_type e.type,
    hname _ (by simp), h.context hcontext, hname _ (by simp), h.message, hname _ (by simp),
    h.codeDocument, trivial⟩

/-! ## Two events -/

/-- An event without a context. -/
def loaded : Event :=
  .make "t1" .info .sheetLoaded "loaded" [] none

/-- An event with a message of several lines and a context of values one inside another. -/
def failed : Event :=
  .make "t2" .error .formulaError "a \"b\"\n\u0085c"
    [("cells", .map [(.str "n", .int 1), (.str "in", .list [.null, .str "\u2028"])])] (some "#ERR!")

theorem isPlain_loaded : loaded.IsPlain where
  stamp := by decide
  message := by decide
  code := nofun
  nodup := List.nodup_nil
  names := nofun
  values := nofun

theorem isPlain_failed : failed.IsPlain where
  stamp := by decide
  message := by decide
  code := by
    rintro code h
    cases h
    decide
  nodup := by decide
  names := by
    intro f hf
    rw [List.mem_singleton.1 hf]
    decide
  values := by
    intro f hf
    have hlist : (Value.list [.null, .str "\u2028"]).IsPlain :=
      ⟨trivial, (by decide : Json.IsJoined "\u2028"), trivial⟩
    rw [List.mem_singleton.1 hf]
    exact ⟨⟨"n", rfl, by decide⟩, trivial, ⟨"in", rfl, by decide⟩, hlist, trivial⟩

theorem isWritable_one : Number.isWritable 1 = true :=
  Number.isWritable_of_le (by decide)

theorem refusal?_loaded : loaded.refusal? = none := by
  refine refusal?_eq_none_iff.2 ⟨by decide, ?_⟩
  rw [document_eq]
  simp [fields, Json.isWritable, Json.fieldsAreWritable, loaded, make, currentVersion,
    isWritable_one, contextDocument, codeDocument]

theorem refusal?_failed : failed.refusal? = none := by
  refine refusal?_eq_none_iff.2 ⟨by decide, ?_⟩
  rw [document_eq]
  simp [fields, Json.isWritable, Json.fieldsAreWritable, Json.areWritable, failed, make,
    currentVersion, isWritable_one, contextDocument, codeDocument, valueDocument, entryDocuments,
    itemDocuments, keyName, Register.ofList, Register.put]

end Event

end FormulaSheet
