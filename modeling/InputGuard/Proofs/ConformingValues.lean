import InputGuard.Proofs.BareSchemas
import InputGuard.Proofs.ExactNumbers

/-!
# Values of types without directives

What a value of a type has to be where there are no directives, said without schemas, trees or
caches: `Conforms`. The values that a compiled schema accepts without conversion are those, and it
gives them back as they are.
-/

namespace InputGuard

/-- The values of the scalar types. -/
def ScalarValue (name : String) (v : Value) : Prop :=
  match name with
  | "String" | "ID" => ∃ s, v = .str s
  | "Boolean" => ∃ b, v = .bool b
  | "Float" => ∃ x q, v = .number x ∧ x.rational? = some q ∧ |q| ≤ 2 ^ 53 - 1
  | "Int" => ∃ x, ∃ n : ℤ, v = .number x ∧ x.rational? = some (n : ℚ) ∧ |n| ≤ 2 ^ 53 - 1
  | _ => False

/-- The values of types. Null is a value of all of them, and an object of an input type may lack
fields. Other keys than those of fields occur only if they may be unknown. -/
inductive Conforms (graph : TypeGraph) (allowUnknown : Bool) : TypeRef → Value → Prop
  | null (ref : TypeRef) : Conforms graph allowUnknown ref .null
  | nonNull {ref : TypeRef} {v : Value} : Conforms graph allowUnknown ref v →
    Conforms graph allowUnknown (.nonNull ref) v
  | list {item : TypeRef} {items : List Value} :
    (∀ v ∈ items, Conforms graph allowUnknown item v) →
    Conforms graph allowUnknown (.list item) (.list items)
  | scalar {name : String} {v : Value} : (∀ type, graph.find? name ≠ some (.input type)) →
    (∀ type, graph.find? name ≠ some (.enum type)) → ScalarValue name v →
    Conforms graph allowUnknown (.named name) v
  | symbol {name : String} {type : EnumType} {v : Value} :
    graph.find? name = some (.enum type) → v ∈ type.values →
    Conforms graph allowUnknown (.named name) v
  | object {name : String} {type : InputType} {entries : Entries} :
    graph.find? name = some (.input type) →
    (∀ e ∈ entries, ∀ field ∈ type.fields, field.name = e.1 →
      Conforms graph allowUnknown field.type e.2) →
    (∀ e ∈ entries, e.1 ∉ type.fields.map (·.name) → allowUnknown = true) →
    Conforms graph allowUnknown (.named name) (.object entries)

variable {graph : TypeGraph} {allowUnknown : Bool} {name : String} {v w : Value}

lemma conforms_nonNull {ref : TypeRef} :
    Conforms graph allowUnknown (.nonNull ref) v ↔ Conforms graph allowUnknown ref v := by
  constructor
  · intro h
    cases h with
    | null => exact .null ref
    | nonNull h => exact h
  · exact .nonNull

lemma conforms_list {item : TypeRef} :
    Conforms graph allowUnknown (.list item) v ↔ v = .null ∨
      ∃ items, v = .list items ∧ ∀ v ∈ items, Conforms graph allowUnknown item v := by
  constructor
  · intro h
    cases h with
    | null => exact Or.inl rfl
    | list h => exact Or.inr ⟨_, rfl, h⟩
  · rintro (rfl | ⟨items, rfl, h⟩)
    · exact .null _
    · exact .list h

lemma conforms_scalar (hinput : ∀ type, graph.find? name ≠ some (.input type))
    (henum : ∀ type, graph.find? name ≠ some (.enum type)) :
    Conforms graph allowUnknown (.named name) v ↔ v = .null ∨ ScalarValue name v := by
  constructor
  · intro h
    cases h with
    | null => exact Or.inl rfl
    | scalar _ _ h => exact Or.inr h
    | symbol h => exact absurd h (henum _)
    | object h => exact absurd h (hinput _)
  · rintro (rfl | h)
    · exact .null _
    · exact .scalar hinput henum h

lemma conforms_enum {type : EnumType} (h : graph.find? name = some (.enum type)) :
    Conforms graph allowUnknown (.named name) v ↔ v = .null ∨ v ∈ type.values := by
  constructor
  · intro hv
    cases hv with
    | null => exact Or.inl rfl
    | scalar _ henum _ => exact absurd h (henum _)
    | symbol h' hv =>
      obtain rfl := TypeDefinition.enum.inj (Option.some.inj (h'.symm.trans h))
      exact Or.inr hv
    | object h' _ _ => simp [h] at h'
  · rintro (rfl | hv)
    · exact .null _
    · exact .symbol h hv

/-- What is asked of an entry of an object of an input type. -/
def EntryConforms (graph : TypeGraph) (allowUnknown : Bool) (type : InputType)
    (entry : String × Value) : Prop :=
  (∀ field ∈ type.fields, field.name = entry.1 → Conforms graph allowUnknown field.type entry.2) ∧
    (entry.1 ∉ type.fields.map (·.name) → allowUnknown = true)

lemma conforms_input {type : InputType} (h : graph.find? name = some (.input type)) :
    Conforms graph allowUnknown (.named name) v ↔ v = .null ∨
      ∃ entries, v = .object entries ∧ ∀ e ∈ entries, EntryConforms graph allowUnknown type e := by
  constructor
  · intro hv
    cases hv with
    | null => exact Or.inl rfl
    | scalar hinput _ _ => exact absurd h (hinput _)
    | symbol h' hv => simp [h] at h'
    | object h' hfields hothers =>
      obtain rfl := TypeDefinition.input.inj (Option.some.inj (h'.symm.trans h))
      exact Or.inr ⟨_, rfl, fun e he => ⟨hfields e he, hothers e he⟩⟩
  · rintro (rfl | ⟨entries, rfl, hentries⟩)
    · exact .null _
    · exact .object h (fun e he => (hentries e he).1) fun e he => (hentries e he).2

namespace Schema

variable {store : Store} {visit : Visit} {schema : Schema}

lemma validate_null : schema.validate store visit .null = .ok w ↔ w = .null := by
  rw [validate, Except.ok.injEq, eq_comm]

/-- A schema without parts checks any value but null as a whole. -/
lemma validate_whole (hitem : schema.item? = none) (htree : schema.tree? = none)
    (hv : v ≠ .null) :
    schema.validate store visit v = schema.finish (visit.under schema.settings) v := by
  cases v <;> simp_all [validate]

lemma finish_string :
    (string .plain []).finish visit v = .ok w ↔ (∃ s, v = .str s) ∧ w = v := by
  cases v with
  | str s =>
    have hfinish : (string .plain []).finish visit (.str s) = .ok (.str s) := rfl
    rw [hfinish, Except.ok.injEq]
    exact ⟨fun h => ⟨⟨s, rfl⟩, h.symm⟩, fun h => h.2.symm⟩
  | null | bool | number | list | object | moment | day | pattern => simp [finish]

lemma finish_texts {values : List Value} (hvalues : ∀ v ∈ values, ∃ s, v = .str s) :
    (string ⟨[], some values⟩ []).finish visit v = .ok w ↔ v ∈ values ∧ w = v := by
  cases v with
  | str s =>
    have hamong : (Value.str s).isAmong values = true ↔ .str s ∈ values := by
      rw [Value.isAmong, List.any_eq_true]
      constructor
      · rintro ⟨v, hv, hsame⟩
        obtain ⟨t, rfl⟩ := hvalues v hv
        rwa [eq_of_beq hsame]
      · exact fun h => ⟨_, h, beq_self_eq_true s⟩
    by_cases h : (Value.str s).isAmong values = true
    · have hfinish : (string ⟨[], some values⟩ []).finish visit (.str s) = .ok (.str s) := by
        simp [finish, Settings.permit, h]
      rw [hfinish, Except.ok.injEq]
      exact ⟨fun hw => ⟨hamong.mp h, hw.symm⟩, fun hw => hw.2.symm⟩
    · have hmem : .str s ∉ values := mt hamong.mpr h
      simp [finish, Settings.permit, h, hmem]
  | null | bool | number | list | object | moment | day | pattern =>
    simp only [finish, Visit.refuse_ne_ok, false_iff, not_and]
    intro hv
    obtain ⟨s, hs⟩ := hvalues _ hv
    cases hs

lemma finish_boolean (hvisit : visit.prefs.convert = false) :
    (boolean .plain).finish visit v = .ok w ↔ (∃ b, v = .bool b) ∧ w = v := by
  constructor
  · intro h
    have hw : w = v := finish_eq hvisit (boolean .plain) ?_ h
    · cases finish_eq_ok_iff.mp h with
      | boolean hb => exact ⟨⟨_, Value.toBool_eq hvisit hb⟩, hw⟩
    · rintro m rfl
      cases h
  · rintro ⟨⟨b, rfl⟩, rfl⟩
    rfl

/-- A schema for numbers passes on those that are within bounds and that its rules accept. -/
lemma finish_number (hvisit : visit.prefs.convert = false) {rules : List NumberRule} :
    (number .plain rules false).finish visit v = .ok w ↔
      ∃ x q, v = .number x ∧ x.rational? = some q ∧ |q| ≤ Number.greatestExact ∧
        rules.foldlM (fun x rule => rule.check visit x) x = .ok x ∧ w = v := by
  constructor
  · intro h
    cases finish_eq_ok_iff.mp h with
    | number hx _ hrules =>
      obtain rfl := Value.toNumber_eq hvisit hx
      obtain rfl := foldlM_eq_self (NumberRule.check_eq hvisit) hrules
      obtain ⟨⟨q, hq, hbound⟩, _⟩ := (Number.require_eq_ok visit).mp hx
      exact ⟨_, q, rfl, hq, hbound, hrules, rfl⟩
  · rintro ⟨x, q, rfl, hq, hbound, hrules, rfl⟩
    have hx : (Value.number x).toNumber visit false = .ok x :=
      (Number.require_eq_ok visit).mpr ⟨⟨q, hq, hbound⟩, rfl⟩
    exact finish_eq_ok_iff.mpr (.number hx rfl hrules)

lemma integer_rule {x : Number} :
    [NumberRule.integer].foldlM (fun x rule => rule.check visit x) x = .ok x ↔
      ∃ n : ℤ, x.rational? = some (n : ℚ) := by
  rw [← Number.isInteger_iff]
  by_cases h : x.isInteger = true <;> simp [NumberRule.check, NumberRule.require, h]

lemma greatestExact_cast : ((Number.greatestExact : ℤ) : ℚ) = 2 ^ 53 - 1 := by
  norm_num [Number.greatestExact]

/-- The schemas of the scalar types. -/
lemma finish_scalar (hvisit : visit.prefs.convert = false) (hs : scalarSchema name = .ok schema) :
    schema.finish visit v = .ok w ↔ ScalarValue name v ∧ w = v := by
  obtain ⟨rfl, rfl⟩ | ⟨rfl, rfl⟩ | ⟨rfl, rfl⟩ | ⟨rfl, rfl⟩ | ⟨rfl, rfl⟩ := scalarSchema_cases hs
  · exact finish_string
  · exact finish_string
  · rw [finish_number hvisit, greatestExact_cast]
    simp only [integer_rule]
    constructor
    · rintro ⟨x, q, rfl, hq, hbound, ⟨n, hn⟩, rfl⟩
      obtain rfl : q = n := Option.some.inj (hq.symm.trans hn)
      exact ⟨⟨x, n, rfl, hn, by exact_mod_cast hbound⟩, rfl⟩
    · rintro ⟨⟨x, n, rfl, hn, hbound⟩, rfl⟩
      exact ⟨x, n, rfl, hn, by exact_mod_cast hbound, ⟨n, hn⟩, rfl⟩
  · rw [finish_number hvisit, greatestExact_cast]
    constructor
    · rintro ⟨x, q, rfl, hq, hbound, _, rfl⟩
      exact ⟨⟨x, q, rfl, hq, hbound⟩, rfl⟩
    · rintro ⟨⟨x, q, rfl, hq, hbound⟩, rfl⟩
      exact ⟨x, q, rfl, hq, hbound, rfl, rfl⟩
  · exact finish_boolean hvisit

lemma under_plain (visit : Visit) : visit.under .plain = visit := rfl

/-- A schema for lists passes on the list of what its items pass on. -/
lemma validate_arrayOf {item : Schema} :
    (arrayOf .plain [] item).validate store visit v = .ok w ↔ (v = .null ∧ w = .null) ∨
      ∃ items ws, v = .list items ∧ validateItems store visit item 0 items = .ok ws ∧
        w = .list ws := by
  cases v with
  | null => simp [validate, eq_comm]
  | list items =>
    rw [validate]
    simp only [item?, settings, under_plain, bind_eq_ok, reduceCtorEq, false_and, false_or,
      Value.list.injEq, exists_eq_left', exists_and_left]
    refine exists_congr fun ws => and_congr_right fun _ => ?_
    have hfinish : (arrayOf .plain [] item).finish visit (.list ws) = .ok (.list ws) := rfl
    rw [hfinish, Except.ok.injEq, eq_comm]
  | bool | number | str | object | moment | day | pattern => simp [validate, finish, tree?]

/-- A schema for objects passes on the object of what its entries pass on. -/
lemma validate_object {tree : TreeName} :
    (object .plain [] tree).validate store visit v = .ok w ↔ (v = .null ∧ w = .null) ∨
      ∃ entries ws, v = .object entries ∧
        validateEntries store visit (store.tree tree) entries = .ok ws ∧ w = .object ws := by
  cases v with
  | null => simp [validate, eq_comm]
  | object entries =>
    rw [validate]
    simp only [tree?, settings, under_plain, bind_eq_ok, reduceCtorEq, false_and, false_or,
      Value.object.injEq, exists_eq_left', exists_and_left]
    refine exists_congr fun ws => and_congr_right fun _ => ?_
    have hfinish : (object .plain [] tree).finish visit (.object ws) = .ok (.object ws) := rfl
    rw [hfinish, Except.ok.injEq, eq_comm]
  | bool | number | str | list | moment | day | pattern => simp [validate, finish, item?]

end Schema

namespace Compiler

variable {c : Compiler} {store : Store} {field : String} {ref : TypeRef} {s : Schema}

/-- The schemas of scalar types have no parts and no settings. -/
lemma scalarSchema_whole (hs : scalarSchema name = .ok s) :
    s.item? = none ∧ s.tree? = none ∧ s.settings = .plain := by
  obtain ⟨rfl, rfl⟩ | ⟨rfl, rfl⟩ | ⟨rfl, rfl⟩ | ⟨rfl, rfl⟩ | ⟨rfl, rfl⟩ := scalarSchema_cases hs <;>
    exact ⟨rfl, rfl, rfl⟩

/-- A type that is no input type makes a schema that checks a value as a whole. -/
lemma validate_named {visit : Visit} (hvisit : visit.prefs.convert = false)
    (hinput : ∀ type, c.graph.find? name ≠ some (.input type))
    (hs : c.freshSchema field (.named name) [] = .ok s) :
    s.validate store visit v = .ok w ↔ Conforms c.graph allowUnknown (.named name) v ∧ w = v := by
  by_cases hv : v = .null
  · subst hv
    rw [Schema.validate_null]
    exact ⟨fun h => ⟨.null _, h⟩, fun h => h.2⟩
  rw [freshSchema_named] at hs
  by_cases henum : ∃ type, c.graph.find? name = some (.enum type)
  · obtain ⟨type, hfind⟩ := henum
    have hschema : enumSchema type = .ok s := by rwa [freshBase, hfind] at hs
    obtain ⟨htexts, rfl⟩ := enumSchema_eq_ok.mp hschema
    rw [conforms_enum hfind, Schema.validate_whole rfl rfl hv]
    refine (Schema.finish_texts htexts).trans ?_
    simp only [hv, false_or]
  · have henum' : ∀ type, c.graph.find? name ≠ some (.enum type) := fun type h => henum ⟨type, h⟩
    rw [freshBase_scalar hinput henum'] at hs
    obtain ⟨hitem, htree, hplain⟩ := scalarSchema_whole hs
    rw [conforms_scalar hinput henum', Schema.validate_whole hitem htree hv, hplain,
      Schema.under_plain, Schema.finish_scalar hvisit hs]
    simp only [hv, false_or]

/-- The schema of a type passes on the values of the type, if this holds of the parts of a value. -/
lemma validate_of_parts (hb : c.Bare) {visit : Visit} (hvisit : visit.prefs.convert = false)
    (hs : c.freshSchema field ref [] = .ok s)
    (hitems : ∀ items, v = .list items → ∀ item t, item.base = ref.base →
      c.freshSchema field item [] = .ok t → ∀ ws,
      (Schema.validateItems store visit t 0 items = .ok ws ↔
        (∀ v ∈ items, Conforms c.graph allowUnknown item v) ∧ ws = items))
    (hentries : ∀ entries, v = .object entries → ∀ type, c.input? ref.base = some type → ∀ ws,
      (Schema.validateEntries store visit (store.tree (.input type.name)) entries = .ok ws ↔
        (∀ e ∈ entries, EntryConforms c.graph allowUnknown type e) ∧ ws = entries)) :
    s.validate store visit v = .ok w ↔ Conforms c.graph allowUnknown ref v ∧ w = v := by
  induction ref generalizing s with
  | nonNull type ih =>
    rw [conforms_nonNull]
    exact ih hs hitems hentries
  | list item =>
    rw [freshSchema_list] at hs
    obtain ⟨t, ht, rfl⟩ := map_eq_ok.mp hs
    rw [conforms_list, Schema.validate_arrayOf]
    constructor
    · rintro (⟨rfl, rfl⟩ | ⟨items, ws, rfl, hws, rfl⟩)
      · exact ⟨Or.inl rfl, rfl⟩
      · obtain ⟨hall, rfl⟩ := (hitems items rfl item t rfl ht ws).mp hws
        exact ⟨Or.inr ⟨ws, rfl, hall⟩, rfl⟩
    · rintro ⟨rfl | ⟨items, rfl, hall⟩, rfl⟩
      · exact Or.inl ⟨rfl, rfl⟩
      · exact Or.inr ⟨items, items, rfl, (hitems items rfl item t rfl ht items).mpr ⟨hall, rfl⟩, rfl⟩
  | named name =>
    by_cases hinput : ∃ type, c.graph.find? name = some (.input type)
    · obtain ⟨type, hfind⟩ := hinput
      rw [freshSchema_named, freshBase_input hb hfind] at hs
      cases hs
      have htype : c.input? name = some type := input?_of_find? hfind
      rw [conforms_input hfind, Schema.validate_object]
      constructor
      · rintro (⟨rfl, rfl⟩ | ⟨entries, ws, rfl, hws, rfl⟩)
        · exact ⟨Or.inl rfl, rfl⟩
        · obtain ⟨hall, rfl⟩ := (hentries entries rfl type htype ws).mp hws
          exact ⟨Or.inr ⟨ws, rfl, hall⟩, rfl⟩
      · rintro ⟨rfl | ⟨entries, rfl, hall⟩, rfl⟩
        · exact Or.inl ⟨rfl, rfl⟩
        · exact Or.inr ⟨entries, entries, rfl,
            (hentries entries rfl type htype entries).mpr ⟨hall, rfl⟩, rfl⟩
    · exact validate_named hvisit (fun type h => hinput ⟨type, h⟩) hs

/-- The check of an entry against a tree with the fields of a type, if its value is checked right. -/
lemma validateEntry_of_value (hw : c.graph.WellNamed) {visit : Visit} {type : InputType}
    {key : String} (hd : c.Declares type) (hvisit : visit.prefs = ⟨false, allowUnknown⟩)
    (hfilled : c.Filled store type)
    (hvalue : ∀ f ∈ type.fields, ∀ t, c.freshSchema f.name f.type [] = .ok t → ∀ w,
      (t.validate store (visit.down (.key key)) v = .ok w ↔
        Conforms c.graph allowUnknown f.type v ∧ w = v)) :
    Schema.validateEntry store visit (store.tree (.input type.name)) key v = .ok w ↔
      EntryConforms c.graph allowUnknown type (key, v) ∧ w = v := by
  unfold Schema.validateEntry EntryConforms
  cases hlook : lookup? key (store.tree (.input type.name)) with
  | some t =>
    obtain ⟨f, hf, rfl⟩ := hfilled.only key t hlook
    obtain ⟨t', hlook', hfresh⟩ := hfilled.entry f hf
    obtain rfl : t' = t := Option.some.inj (hlook'.symm.trans hlook)
    have hfield : (∀ g ∈ type.fields, g.name = f.name → Conforms c.graph allowUnknown g.type v) ↔
        Conforms c.graph allowUnknown f.type v := by
      constructor
      · exact fun h => h f hf rfl
      · intro h g hg hname
        rwa [hd.field_eq hw hg hf hname]
    have hknown : f.name ∈ type.fields.map (·.name) := List.mem_map_of_mem hf
    simpa [hfield, hknown] using hvalue f hf t' hfresh w
  | none =>
    have hunknown : ∀ f ∈ type.fields, f.name ≠ key := by
      rintro f hf rfl
      obtain ⟨t, ht, _⟩ := hfilled.entry f hf
      cases hlook.symm.trans ht
    have hfields : ∀ f ∈ type.fields, f.name = key → Conforms c.graph allowUnknown f.type v :=
      fun f hf hname => absurd hname (hunknown f hf)
    have hkey : key ∉ type.fields.map (·.name) := by simpa using hunknown
    dsimp only
    rw [hvisit, and_iff_right hfields, forall_prop_of_true hkey]
    cases allowUnknown with
    | true => simp [eq_comm]
    | false => simp

mutual

/-- The schema of a type without directives passes on the values of the type, and no others. -/
theorem validate_bare (hw : c.graph.WellNamed) (hb : c.Bare) (visit : Visit)
    (hvisit : visit.prefs = ⟨false, allowUnknown⟩) {field : String} {ref : TypeRef} {s : Schema}
    (hs : c.freshSchema field ref [] = .ok s)
    (hfilled : ∀ type, c.Reachable ref type → c.Filled store type) (v w : Value) :
    s.validate store visit v = .ok w ↔ Conforms c.graph allowUnknown ref v ∧ w = v := by
  have hconvert : visit.prefs.convert = false := by rw [hvisit]
  match v with
  | .null | .bool _ | .number _ | .str _ | .moment _ | .day _ | .pattern _ =>
    exact validate_of_parts hb hconvert hs nofun nofun
  | .list items =>
    refine validate_of_parts hb hconvert hs ?_ nofun
    intro _ heq item t hbase ht ws
    obtain rfl := Value.list.inj heq
    have hfilled' : ∀ type, c.Reachable item type → c.Filled store type := by
      rintro type ⟨root, hroot, hpath⟩
      exact hfilled type ⟨root, hbase ▸ hroot, hpath⟩
    exact validateItems_bare hw hb visit hvisit ht hfilled' 0 items ws
  | .object entries =>
    refine validate_of_parts hb hconvert hs nofun ?_
    intro _ heq type htype ws
    obtain rfl := Value.object.inj heq
    exact validateEntries_bare hw hb visit hvisit (declares_of_input? htype)
      (fun next hpath => hfilled next ⟨type, htype, hpath⟩) entries ws

theorem validateItems_bare (hw : c.graph.WellNamed) (hb : c.Bare) (visit : Visit)
    (hvisit : visit.prefs = ⟨false, allowUnknown⟩) {field : String} {ref : TypeRef} {s : Schema}
    (hs : c.freshSchema field ref [] = .ok s)
    (hfilled : ∀ type, c.Reachable ref type → c.Filled store type) (i : Nat)
    (items ws : List Value) :
    Schema.validateItems store visit s i items = .ok ws ↔
      (∀ v ∈ items, Conforms c.graph allowUnknown ref v) ∧ ws = items := by
  match items with
  | [] => simp [Schema.validateItems, eq_comm]
  | v :: rest =>
    have hv := validate_bare hw hb (visit.down (.index i)) hvisit hs hfilled v
    have hrest := validateItems_bare hw hb visit hvisit hs hfilled (i + 1) rest
    rw [Schema.validateItems_cons_eq_ok]
    simp only [hv, hrest, List.forall_mem_cons]
    constructor
    · rintro ⟨_, _, ⟨hc, rfl⟩, ⟨hcs, rfl⟩, rfl⟩
      exact ⟨⟨hc, hcs⟩, rfl⟩
    · rintro ⟨⟨hc, hcs⟩, rfl⟩
      exact ⟨v, rest, ⟨hc, rfl⟩, ⟨hcs, rfl⟩, rfl⟩

theorem validateEntries_bare (hw : c.graph.WellNamed) (hb : c.Bare) (visit : Visit)
    (hvisit : visit.prefs = ⟨false, allowUnknown⟩) {type : InputType} (hd : c.Declares type)
    (hfilled : ∀ next, Relation.ReflTransGen c.Leads type next → c.Filled store next)
    (entries ws : Entries) :
    Schema.validateEntries store visit (store.tree (.input type.name)) entries = .ok ws ↔
      (∀ e ∈ entries, EntryConforms c.graph allowUnknown type e) ∧ ws = entries := by
  match entries with
  | [] => simp [Schema.validateEntries, eq_comm]
  | (key, v) :: rest =>
    have hrest := validateEntries_bare hw hb visit hvisit hd hfilled rest
    have hentry : ∀ w,
        Schema.validateEntry store visit (store.tree (.input type.name)) key v = .ok w ↔
          EntryConforms c.graph allowUnknown type (key, v) ∧ w = v := by
      intro w
      refine validateEntry_of_value hw hd hvisit (hfilled type .refl) fun f hf t ht w => ?_
      refine validate_bare hw hb (visit.down (.key key)) hvisit ht ?_ v w
      rintro next ⟨root, hroot, hpath⟩
      exact hfilled next (.head ⟨f, hf, hroot⟩ hpath)
    rw [Schema.validateEntries_cons_eq_ok]
    simp only [hentry, hrest, List.forall_mem_cons]
    constructor
    · rintro ⟨_, _, ⟨hc, rfl⟩, ⟨hcs, rfl⟩, rfl⟩
      exact ⟨⟨hc, hcs⟩, rfl⟩
    · rintro ⟨⟨hc, hcs⟩, rfl⟩
      exact ⟨v, rest, ⟨hc, rfl⟩, ⟨hcs, rfl⟩, rfl⟩

end

/-- A compilation without directives succeeds if and only if it leads to supported types only. The
schema then accepts, without conversion, the values of the type and no others, and it gives them back
as they are. -/
theorem compile_conforms (hw : c.graph.WellNamed) (hb : c.Bare) (ref : TypeRef) (field : String)
    (target : TreeName) (htarget : ∀ type, target ≠ .input type) :
    let result := c.compile ref [] field target .empty
    ((∃ s, result.1 = .ok s) ↔ ∀ name, c.graph.Mentions ref name → c.graph.Supports name) ∧
      ∀ s, result.1 = .ok s → ∀ allowUnknown env v w,
        attempt result.2.store ⟨false, allowUnknown⟩ env s v = .ok w ↔
          Conforms c.graph allowUnknown ref v ∧ w = v := by
  refine ⟨compile_bare_succeeds_iff hw hb ref field target, ?_⟩
  intro s hs allowUnknown env v w
  obtain ⟨after, hafter, hfresh, hfilled⟩ := compile_ok_filled hw hs
  refine validate_bare hw hb _ rfl hfresh (fun type hr => ?_) v w
  have htree : (after.put target field s).store.tree (.input type.name) =
      after.store.tree (.input type.name) :=
    (after.store.tree_put target (.input type.name) field s).trans (if_neg (htarget type.name))
  obtain ⟨hentry, honly⟩ := hfilled type hr
  rw [hafter]
  exact ⟨by rwa [htree], by rwa [htree]⟩

def modeType : EnumType := ⟨"Mode", [("FAST", .null), ("SLOW", .str "slow")]⟩

def filterType : InputType :=
  ⟨"Filter", [⟨"mode", .named "Mode", []⟩, ⟨"sizes", .list (.nonNull (.named "Int")), []⟩,
    ⟨"next", .named "Filter", []⟩], []⟩

def filters : Compiler := ⟨[.input filterType, .enum modeType], "validate"⟩

lemma filters_wellNamed : filters.graph.WellNamed := by
  constructor
  · simp [filters, filterType, modeType, TypeDefinition.name]
  · intro type ht
    simp only [filters, List.mem_cons, TypeDefinition.input.injEq, reduceCtorEq, List.not_mem_nil,
      or_false] at ht
    rw [ht]
    simp [filterType]
  · intro type ht
    simp [filters] at ht
  · intro type ht
    simp [filters] at ht

lemma filters_bare : filters.Bare := by
  intro type ht
  simp only [filters, List.mem_cons, TypeDefinition.input.injEq, reduceCtorEq, List.not_mem_nil,
    or_false] at ht
  rw [ht]
  rfl

lemma filters_find : filters.graph.find? "Filter" = some (.input filterType) := rfl

lemma filters_mode : filters.graph.find? "Mode" = some (.enum modeType) := rfl

/-- A filter is compiled. It accepts filters in filters, and unknown keys only if they are allowed. -/
theorem compile_conforms_filters :
    filters.graph.WellNamed ∧ filters.Bare ∧
      let result := filters.compile (.nonNull (.named "Filter")) [] "filter" (.shared "args") .empty
      ∃ s, result.1 = .ok s ∧
        (∀ allowUnknown env, let v := .object [("mode", .str "slow"), ("next", .object
            [("next", .null), ("sizes", .list [.int 3, .null])])]
          attempt result.2.store ⟨false, allowUnknown⟩ env s v = .ok v) ∧
        ∀ allowUnknown env, let v := .object [("depth", .int 1)]
          attempt result.2.store ⟨false, allowUnknown⟩ env s v = .ok v ↔ allowUnknown = true := by
  have hall := (compile_conforms filters_wellNamed filters_bare (.nonNull (.named "Filter")) "filter"
    (.shared "args") nofun).2 (.object .plain [] (.input "Filter")) rfl
  refine ⟨filters_wellNamed, filters_bare, .object .plain [] (.input "Filter"), rfl, ?_, ?_⟩
  · intro allowUnknown env v
    have hint : Conforms filters.graph allowUnknown (.named "Int") (.int 3) :=
      .scalar nofun nofun ⟨.int 3, 3, rfl, Number.rational?_int 3, by decide⟩
    have hmode : Conforms filters.graph allowUnknown (.named "Mode") (.str "slow") :=
      .symbol filters_mode (by simp [EnumType.values, modeType, symbolValue, Value.isNull])
    have hnull : ∀ ref, Conforms filters.graph allowUnknown ref .null := .null
    have hsizes : Conforms filters.graph allowUnknown (.list (.nonNull (.named "Int")))
        (.list [.int 3, .null]) := .list (by simp [conforms_nonNull, hint, hnull])
    have hnext : Conforms filters.graph allowUnknown (.named "Filter")
        (.object [("next", .null), ("sizes", .list [.int 3, .null])]) := by
      refine .object filters_find ?_ ?_ <;> simp [filterType, hnull, hsizes]
    refine (hall allowUnknown env v v).mpr ⟨.nonNull (.object filters_find ?_ ?_), rfl⟩ <;>
      simp [filterType, hmode, hnext]
  · intro allowUnknown env v
    rw [hall allowUnknown env v v, conforms_nonNull, conforms_input filters_find]
    simp [v, EntryConforms, filterType]

end Compiler

end InputGuard
