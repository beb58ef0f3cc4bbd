import InputGuard.Proofs.CompilationFrame
import InputGuard.Proofs.CompilationRuns
import Mathlib.Data.List.MinMax
import Mathlib.Data.List.Perm.Subperm

/-!
# The calls of a compilation

A compilation calls others: for the items of a list, and for the fields that the tree of an input
type lacks. `Compiles` and `FillsFields` are the rules by which it proceeds, without a bound on the
types under way, and with a log of the stacks of all calls. Every compilation ends by these rules,
with the result that `compile` computes. No type is on a stack twice, so stacks are not higher than
there are types and lists in them; and once a field is compiled it has an entry, so it is not
compiled again.
-/

namespace InputGuard

/-- What is done on behalf of a compilation. -/
inductive Frame
  /-- The items of a list are compiled. -/
  | item
  /-- The tree of a type is filled. -/
  | fill (type : String)
  /-- A field that the tree lacks is compiled. -/
  | field (name : String)

/-- What is under way at a time, innermost first. -/
abbrev Stack := List Frame

namespace Stack

/-- The types whose trees are being filled. -/
def entered (stack : Stack) : List String :=
  stack.filterMap fun
    | .fill type => some type
    | _ => none

/-- The number of compilations under way: the first one, those of items and those of fields. -/
def height (stack : Stack) : Nat :=
  stack.countP (fun
    | .fill _ => false
    | _ => true) + 1

/-- The type and the field that a fill compiles. -/
def bareField? : Stack → Option (String × String)
  | .field name :: .fill type :: _ => some (type, name)
  | _ => none

end Stack

/-- The fields that fills compile, with their types. -/
def bareFields (log : List Stack) : List (String × String) := log.filterMap Stack.bareField?

/-- The number of lists around a type. -/
def TypeRef.nesting : TypeRef → Nat
  | named _ => 0
  | list item => item.nesting + 1
  | nonNull type => type.nesting

namespace Compiler

variable (c : Compiler)

/-- The greatest number of lists around a type or the type of a field. -/
def deepest (ref : TypeRef) : Nat :=
  (ref.nesting :: (c.graph.inputs.flatMap (·.fields)).map (·.type.nesting)).foldr max 0

mutual

/-- How the compilation of a type proceeds from a stack and a cache: its result, and the stacks of
the calls that it makes. -/
inductive Compiles : Stack → String → TypeRef → Arguments → Cache → Compiled Schema →
    List Stack → Prop
  | nonNull {stack field type arguments cache result log} :
    Compiles stack field type arguments cache result log →
    Compiles stack field (.nonNull type) arguments cache result log
  | list {stack field type arguments cache item after log} :
    Compiles (.item :: stack) field type (arguments.filter fun a => !isArrayScoped a.1) cache
      (item, after) log →
    Compiles stack field (.list type) arguments cache
      (item >>= fun item => (Schema.arrayOf .plain [] item).applyArguments
        (arguments.filter fun a => isArrayScoped a.1) field, after)
      ((.item :: stack) :: log)
  | leaf {stack field name arguments cache} :
    c.input? name = none →
    Compiles stack field (.named name) arguments cache
      (c.freshBase field name >>= fun base => base.applyArguments arguments field, cache) []
  | underWay {stack field name arguments cache type} :
    c.input? name = some type → cache.isFilling type.name = true →
    Compiles stack field (.named name) arguments cache
      (c.freshBase field name >>= fun base => base.applyArguments arguments field,
        cache.reserve type.name) []
  | filled {stack field name arguments cache type done after log} :
    c.input? name = some type → cache.isFilling type.name = false →
    FillsFields stack type.name type.fields ((cache.reserve type.name).enter type.name)
      (done, after) log →
    Compiles stack field (.named name) arguments cache
      (done >>= fun _ => c.freshBase field name >>= fun base => base.applyArguments arguments field,
        after.leave type.name)
      ((.fill type.name :: stack) :: log)

/-- How the fields that the tree of a type lacks are compiled, up to the first error. -/
inductive FillsFields : Stack → String → List InputValue → Cache → Compiled Unit →
    List Stack → Prop
  | nil {stack type cache} : FillsFields stack type [] cache (.ok (), cache) []
  | present {stack type field rest cache result log} :
    hasKey field.name (cache.store.tree (.input type)) = true →
    FillsFields stack type rest cache result log →
    FillsFields stack type (field :: rest) cache result log
  | failed {stack type field rest cache e after log} :
    hasKey field.name (cache.store.tree (.input type)) = false →
    Compiles (.field field.name :: .fill type :: stack) field.name field.type [] cache
      (.error e, after) log →
    FillsFields stack type (field :: rest) cache (.error e, after)
      ((.field field.name :: .fill type :: stack) :: log)
  | stored {stack type field rest cache schema after log result more} :
    hasKey field.name (cache.store.tree (.input type)) = false →
    Compiles (.field field.name :: .fill type :: stack) field.name field.type [] cache
      (.ok schema, after) log →
    FillsFields stack type rest (after.put (.input type) field.name schema) result more →
    FillsFields stack type (field :: rest) cache result
      ((.field field.name :: .fill type :: stack) :: log ++ more)

end

variable {c}

mutual

theorem Compiles.unique {stack : Stack} {field : String} {ref : TypeRef} {arguments : Arguments}
    {cache : Cache} {result result' : Compiled Schema} {log log' : List Stack}
    (h : c.Compiles stack field ref arguments cache result log)
    (h' : c.Compiles stack field ref arguments cache result' log') :
    result = result' ∧ log = log' := by
  match h with
  | .nonNull h =>
    cases h' with
    | nonNull h' => exact h.unique h'
  | .list h =>
    cases h' with
    | list h' =>
      obtain ⟨hresult, rfl⟩ := h.unique h'
      cases hresult
      exact ⟨rfl, rfl⟩
  | .leaf hn =>
    cases h' with
    | leaf => exact ⟨rfl, rfl⟩
    | underWay ht | filled ht => cases hn.symm.trans ht
  | .underWay ht hb =>
    cases h' with
    | leaf hn => cases hn.symm.trans ht
    | underWay ht' =>
      cases ht.symm.trans ht'
      exact ⟨rfl, rfl⟩
    | filled ht' hi =>
      cases ht.symm.trans ht'
      cases hb.symm.trans hi
  | .filled ht hi h =>
    cases h' with
    | leaf hn => cases hn.symm.trans ht
    | underWay ht' hb =>
      cases ht.symm.trans ht'
      cases hb.symm.trans hi
    | filled ht' _ h' =>
      cases ht.symm.trans ht'
      obtain ⟨hresult, rfl⟩ := h.unique h'
      cases hresult
      exact ⟨rfl, rfl⟩
termination_by structural h

theorem FillsFields.unique {stack : Stack} {type : String} {fields : List InputValue}
    {cache : Cache} {result result' : Compiled Unit} {log log' : List Stack}
    (h : c.FillsFields stack type fields cache result log)
    (h' : c.FillsFields stack type fields cache result' log') :
    result = result' ∧ log = log' := by
  match h with
  | .nil =>
    cases h' with
    | nil => exact ⟨rfl, rfl⟩
  | .present hk h =>
    cases h' with
    | present _ h' => exact h.unique h'
    | failed hn | stored hn => cases hk.symm.trans hn
  | .failed hn h =>
    cases h' with
    | present hk => cases hk.symm.trans hn
    | failed _ h' =>
      obtain ⟨hresult, rfl⟩ := h.unique h'
      cases hresult
      exact ⟨rfl, rfl⟩
    | stored _ h' => cases (h.unique h').1
  | .stored hn h more =>
    cases h' with
    | present hk => cases hk.symm.trans hn
    | failed _ h' => cases (h.unique h').1
    | stored _ h' more' =>
      obtain ⟨hresult, rfl⟩ := h.unique h'
      cases hresult
      obtain ⟨rfl, rfl⟩ := more.unique more'
      exact ⟨rfl, rfl⟩
termination_by structural h

end

/-- Filling a type proceeds by the rules to its end if there is room for the types that are not
under way. -/
def Finishes (c : Compiler) (depth : Nat) (fill : InputType → Cache → Compiled Unit) : Prop :=
  ∀ type cache stack, c.Declares type → cache.isFilling type.name = false → c.idle cache ≤ depth →
    ∃ done after log,
      c.FillsFields stack type.name type.fields (cache.enter type.name) (done, after) log ∧
        fill type cache = (done, after.leave type.name)

variable {depth : Nat} {fill : InputType → Cache → Compiled Unit} {stack : Stack}
  {field type : String} {ref : TypeRef} {arguments : Arguments} {cache : Cache}
  {fields : List InputValue} {log : List Stack}

lemma exists_compiles (hfill : c.Finishes depth fill) (stack : Stack) (field : String)
    (ref : TypeRef) (arguments : Arguments) (hdepth : c.idle cache ≤ depth) :
    ∃ log, c.Compiles stack field ref arguments cache
      (c.refSchema fill field ref arguments cache) log := by
  induction ref generalizing stack arguments with
  | nonNull type ih =>
    obtain ⟨log, h⟩ := ih stack arguments
    exact ⟨log, .nonNull h⟩
  | list type ih =>
    obtain ⟨log, h⟩ := ih (.item :: stack) (arguments.filter fun a => !isArrayScoped a.1)
    exact ⟨_, .list h⟩
  | named name =>
    simp only [refSchema, namedSchema_eq, visitBase, bind_assoc]
    cases hname : c.input? name with
    | none => exact ⟨[], .leaf hname⟩
    | some type =>
      dsimp only
      split
      · rename_i hbusy
        exact ⟨[], .underWay hname hbusy⟩
      · rename_i hidle
        have hidle : (cache.reserve type.name).isFilling type.name = false := by simpa using hidle
        obtain ⟨done, after, log, h, heq⟩ :=
          hfill type (cache.reserve type.name) stack (declares_of_input? hname) hidle hdepth
        rw [heq]
        exact ⟨_, .filled hname hidle h⟩

lemma exists_fillsFields (hfill : c.Finishes depth fill) (hext : ExtendsBy fill) (stack : Stack)
    (type : String) (fields : List InputValue) (cache : Cache) (hdepth : c.idle cache ≤ depth) :
    ∃ log, c.FillsFields stack type fields cache (c.fillFields fill type fields cache) log := by
  induction fields generalizing cache with
  | nil => exact ⟨[], .nil⟩
  | cons field rest ih =>
    rw [fillFields]
    by_cases hkey : hasKey field.name (cache.store.tree (.input type)) = true
    · rw [if_pos hkey]
      obtain ⟨log, h⟩ := ih cache hdepth
      exact ⟨log, .present hkey h⟩
    · rw [if_neg hkey]
      have hnone : hasKey field.name (cache.store.tree (.input type)) = false := by simpa using hkey
      have hfilling : (c.refSchema fill field.name field.type [] cache).2.filling =
          cache.filling := by
        rw [refSchema_eq]
        exact (visitBase_extends hext _ cache).filling
      obtain ⟨log, h⟩ := exists_compiles hfill (.field field.name :: .fill type :: stack)
        field.name field.type [] hdepth
      generalize c.refSchema fill field.name field.type [] cache = result at h hfilling
      obtain ⟨outcome, after⟩ := result
      cases outcome with
      | error e => exact ⟨_, .failed hnone h⟩
      | ok schema =>
        obtain ⟨more, hrest⟩ := ih (after.put (.input type) field.name schema)
          (le_of_eq_of_le (idle_congr hfilling) hdepth)
        exact ⟨_, .stored hnone h hrest⟩

theorem fillType_finishes (c : Compiler) (depth : Nat) : c.Finishes depth (c.fillType depth) := by
  induction depth with
  | zero =>
    intro type cache _ hd hidle hdepth
    exact absurd (idle_pos hd hidle) (by omega)
  | succ depth ih =>
    intro type cache stack hd hidle hdepth
    have hlt : c.idle (cache.enter type.name) < c.idle cache := idle_enter hd hidle
    obtain ⟨log, h⟩ := exists_fillsFields ih (fillType_extends c depth) stack type.name type.fields
      (cache.enter type.name) (by omega)
    exact ⟨_, _, log, h, rfl⟩

/-- The rules give the results of the functions, which have a bound on the types under way. -/
lemma Compiles.result_eq {result : Compiled Schema}
    (h : c.Compiles stack field ref arguments cache result log) :
    result = c.refSchema c.fill field ref arguments cache := by
  obtain ⟨log', h'⟩ := exists_compiles (fillType_finishes c c.graph.inputs.length) stack field ref
    arguments (List.length_filter_le _ _)
  exact (h.unique h').1

lemma FillsFields.result_eq {result : Compiled Unit}
    (h : c.FillsFields stack type fields cache result log) :
    result = c.fillFields c.fill type fields cache := by
  obtain ⟨log', h'⟩ := exists_fillsFields (fillType_finishes c c.graph.inputs.length)
    (fillType_extends c _) stack type fields cache (List.length_filter_le _ _)
  exact (h.unique h').1

lemma Compiles.extends {result : Except CompileFailure Schema} {after : Cache}
    (h : c.Compiles stack field ref arguments cache (result, after) log) : Extends cache after := by
  have hvisit := visitBase_extends (c := c) (fillType_extends c c.graph.inputs.length) ref.base cache
  have heq : after = (c.refSchema c.fill field ref arguments cache).2 :=
    congrArg Prod.snd h.result_eq
  rw [heq, refSchema_eq]
  exact hvisit

lemma FillsFields.extends {result : Except CompileFailure Unit} {after : Cache}
    (h : c.FillsFields stack type fields cache (result, after) log) : Extends cache after := by
  have hfields := fillFields_extends (c := c) (fillType_extends c c.graph.inputs.length) type fields
    cache
  have heq : after = (c.fillFields c.fill type fields cache).2 := congrArg Prod.snd h.result_eq
  rw [heq]
  exact hfields

/-- A stack has no type twice and none that is unknown. With `spare` more compilations, it still is
not higher than the types on it and `k` lists for each of them make it. -/
structure Within (c : Compiler) (k spare : Nat) (stack : Stack) : Prop where
  nodup : stack.entered.Nodup
  declared : ∀ name ∈ stack.entered, name ∈ c.graph.inputs.map (·.name)
  height : stack.height + spare ≤ (stack.entered.length + 1) * (k + 1)

/-- All types on a stack are marked as being filled. -/
def Marked (cache : Cache) (stack : Stack) : Prop :=
  ∀ type ∈ stack.entered, cache.isFilling type = true

variable {k spare : Nat}

@[simp] lemma entered_item : Stack.entered (.item :: stack) = stack.entered := rfl

@[simp] lemma entered_field : Stack.entered (.field field :: stack) = stack.entered := rfl

@[simp] lemma entered_fill : Stack.entered (.fill type :: stack) = type :: stack.entered := rfl

@[simp] lemma height_item : Stack.height (.item :: stack) = stack.height + 1 := by
  simp [Stack.height]

@[simp] lemma height_field : Stack.height (.field field :: stack) = stack.height + 1 := by
  simp [Stack.height]

@[simp] lemma height_fill : Stack.height (.fill type :: stack) = stack.height := by
  simp [Stack.height]

namespace Within

lemma mono {fewer : Nat} (h : c.Within k spare stack) (hle : fewer ≤ spare) :
    c.Within k fewer stack :=
  ⟨h.nodup, h.declared, by have := h.height; omega⟩

lemma push_item (h : c.Within k (spare + 1) stack) : c.Within k spare (.item :: stack) :=
  ⟨h.nodup, h.declared, by have := h.height; simp only [height_item, entered_item]; omega⟩

lemma push_field (name : String) (h : c.Within k (spare + 1) stack) :
    c.Within k spare (.field name :: stack) :=
  ⟨h.nodup, h.declared, by have := h.height; simp only [height_field, entered_field]; omega⟩

/-- A further type makes room for a compilation and for `k` lists in it. -/
lemma push_fill {type : InputType} (h : c.Within k spare stack) (hd : c.Declares type)
    (hnew : type.name ∉ stack.entered) : c.Within k (k + 1) (.fill type.name :: stack) where
  nodup := List.nodup_cons.mpr ⟨hnew, h.nodup⟩
  declared := by
    intro name hn
    rcases List.mem_cons.mp hn with rfl | hn
    · exact List.mem_map_of_mem (mem_inputs hd)
    · exact h.declared name hn
  height := by
    have hheight := h.height
    simp only [height_fill, entered_fill, List.length_cons]
    calc stack.height + (k + 1) ≤ (stack.entered.length + 1) * (k + 1) + (k + 1) := by omega
      _ = (stack.entered.length + 1 + 1) * (k + 1) := (Nat.succ_mul _ _).symm

/-- There are not more types on a stack than there are. -/
lemma height_le (h : c.Within k spare stack) :
    stack.height ≤ (c.graph.inputs.length + 1) * (k + 1) := by
  have hlength : stack.entered.length ≤ c.graph.inputs.length := by
    simpa using (List.Nodup.subperm h.nodup h.declared).length_le
  calc stack.height ≤ (stack.entered.length + 1) * (k + 1) := by have := h.height; omega
    _ ≤ (c.graph.inputs.length + 1) * (k + 1) := Nat.mul_le_mul_right _ (by omega)

end Within

lemma Marked.congr {cache' : Cache} (h : Marked cache stack)
    (hfilling : cache'.filling = cache.filling) : Marked cache' stack := by
  intro type ht
  rw [Cache.isFilling, hfilling]
  exact h type ht

lemma isFilling_enter_reserve (hidle : cache.isFilling type = false) (name : String) :
    ((cache.reserve type).enter type).isFilling name =
      (cache.isFilling name || name == type) := by
  have hreserve : (cache.reserve type).isFilling type = false := hidle
  exact @isFilling_enter _ ⟨type, [], []⟩ hreserve name

lemma Marked.enter (h : Marked cache stack) (hidle : cache.isFilling type = false) :
    Marked ((cache.reserve type).enter type) (.fill type :: stack) := by
  intro name hn
  rw [isFilling_enter_reserve hidle]
  rcases List.mem_cons.mp hn with rfl | hn
  · simp
  · rw [h name hn, Bool.true_or]

mutual

theorem Compiles.within {k : Nat} {stack : Stack} {field : String} {ref : TypeRef}
    {arguments : Arguments} {cache : Cache} {result : Compiled Schema} {log : List Stack}
    (h : c.Compiles stack field ref arguments cache result log)
    (hk : ∀ type, c.Declares type → ∀ f ∈ type.fields, f.type.nesting ≤ k)
    (hw : c.Within k ref.nesting stack) (hm : Marked cache stack) :
    ∀ s ∈ log, c.Within k 0 s := by
  match h with
  | .nonNull h => exact h.within hk hw hm
  | .list h =>
    intro s hs
    have hitem := hw.push_item
    rcases List.mem_cons.mp hs with rfl | hs
    · exact hitem.mono (Nat.zero_le _)
    · exact h.within hk hitem hm s hs
  | .leaf _ | .underWay _ _ => exact fun s hs => nomatch hs
  | .filled ht hidle h =>
    intro s hs
    have hd := declares_of_input? ht
    have hfill := hw.push_fill hd (fun hmem => Bool.noConfusion (hidle.symm.trans (hm _ hmem)))
    rcases List.mem_cons.mp hs with rfl | hs
    · exact hfill.mono (Nat.zero_le _)
    · exact h.within hk (hk _ hd) hfill (hm.enter hidle) s hs
termination_by structural h

theorem FillsFields.within {k : Nat} {stack : Stack} {type : String} {fields : List InputValue}
    {cache : Cache} {result : Compiled Unit} {log : List Stack}
    (h : c.FillsFields stack type fields cache result log)
    (hk : ∀ type, c.Declares type → ∀ f ∈ type.fields, f.type.nesting ≤ k)
    (hf : ∀ f ∈ fields, f.type.nesting ≤ k) (hw : c.Within k (k + 1) (.fill type :: stack))
    (hm : Marked cache (.fill type :: stack)) :
    ∀ s ∈ log, c.Within k 0 s := by
  match h with
  | .nil => exact fun s hs => nomatch hs
  | .present _ h => exact h.within hk (fun f hfr => hf f (List.mem_cons_of_mem _ hfr)) hw hm
  | .failed _ h =>
    intro s hs
    rcases List.mem_cons.mp hs with rfl | hs
    · exact (hw.push_field _).mono (Nat.zero_le _)
    · exact h.within hk ((hw.push_field _).mono (hf _ List.mem_cons_self)) hm s hs
  | .stored _ h more =>
    intro s hs
    rcases List.mem_append.mp hs with hs | hs
    · rcases List.mem_cons.mp hs with rfl | hs
      · exact (hw.push_field _).mono (Nat.zero_le _)
      · exact h.within hk ((hw.push_field _).mono (hf _ List.mem_cons_self)) hm s hs
    · exact more.within hk (fun f hfr => hf f (List.mem_cons_of_mem _ hfr)) hw
        (hm.congr h.extends.filling) s hs
termination_by structural h

end

/-- The fields that fills have compiled on the way from one store to another: they have been
compiled once, and have got their entries thereby. -/
structure Once (before after : Store) (log : List Stack) : Prop where
  nodup : (bareFields log).Nodup
  lacking : ∀ p ∈ bareFields log, hasKey p.2 (before.tree (.input p.1)) = false
  stored : ∀ p ∈ bareFields log, hasKey p.2 (after.tree (.input p.1)) = true

namespace Once

variable {before middle after : Store} {more : List Stack}

lemma nil (store : Store) : Once store store [] := ⟨List.nodup_nil, nofun, nofun⟩

lemma push_item (h : Once before after log) : Once before after ((.item :: stack) :: log) :=
  ⟨h.nodup, h.lacking, h.stored⟩

/-- A field that the first part has compiled has an entry, so the second part does not compile
it. -/
lemma append (h : Once before middle log) (h' : Once middle after more)
    (hkept : ∀ name key, hasKey key (before.tree name) = true → hasKey key (middle.tree name) = true)
    (hkept' : ∀ name key, hasKey key (middle.tree name) = true →
      hasKey key (after.tree name) = true) :
    Once before after (log ++ more) := by
  have happend : bareFields (log ++ more) = bareFields log ++ bareFields more :=
    List.filterMap_append
  constructor
  · rw [happend]
    refine List.nodup_append.mpr ⟨h.nodup, h'.nodup, ?_⟩
    rintro p hp q hq rfl
    exact Bool.noConfusion ((h'.lacking p hq).symm.trans (h.stored p hp))
  · intro p hp
    rw [happend] at hp
    rcases List.mem_append.mp hp with hp | hp
    · exact h.lacking p hp
    · by_contra hk
      have hmiddle := hkept _ _ (by simpa using hk)
      exact Bool.noConfusion ((h'.lacking p hp).symm.trans hmiddle)
  · intro p hp
    rw [happend] at hp
    rcases List.mem_append.mp hp with hp | hp
    · exact hkept' _ _ (h.stored p hp)
    · exact h'.stored p hp

/-- A field that is put into its tree after its compilation has not been compiled within it, since
its type was being filled. -/
lemma put {after : Cache} (h : Once cache.store after.store log) (s : Schema)
    (hidle : ∀ p ∈ bareFields log, cache.isFilling p.1 = false)
    (hbusy : cache.isFilling type = true)
    (hnone : hasKey field (cache.store.tree (.input type)) = false) :
    Once cache.store (after.put (.input type) field s).store
      ((.field field :: .fill type :: stack) :: log) where
  nodup := by
    refine List.nodup_cons.mpr ⟨fun hmem => ?_, h.nodup⟩
    exact Bool.noConfusion ((hidle _ hmem).symm.trans hbusy)
  lacking := by
    intro p hp
    rcases List.mem_cons.mp hp with rfl | hp
    · exact hnone
    · exact h.lacking p hp
  stored := by
    intro p hp
    refine (Store.hasKey_put _ _ _ _ _ _).mpr ?_
    rcases List.mem_cons.mp hp with rfl | hp
    · exact Or.inl ⟨rfl, rfl⟩
    · exact Or.inr (h.stored p hp)

end Once

lemma Extends.hasKey {before after : Cache} (h : Extends before after) (name : TreeName)
    (key : String) (hk : hasKey key (before.store.tree name) = true) :
    InputGuard.hasKey key (after.store.tree name) = true := by
  obtain ⟨s, hs⟩ := hasKey_iff.mp hk
  exact hasKey_iff.mpr ⟨s, h.kept name key s hs⟩

mutual

/-- A compilation that succeeds compiles no field of a type that is being filled already. -/
theorem Compiles.once {stack : Stack} {field : String} {ref : TypeRef} {arguments : Arguments}
    {cache : Cache} {result : Compiled Schema} {log : List Stack}
    (h : c.Compiles stack field ref arguments cache result log)
    (hok : ∃ schema, result.1 = .ok schema) :
    Once cache.store result.2.store log ∧ ∀ p ∈ bareFields log, cache.isFilling p.1 = false := by
  match h with
  | .nonNull h => exact h.once hok
  | .list h =>
    obtain ⟨schema, hschema⟩ := hok
    obtain ⟨item, hitem, _⟩ := bind_eq_ok.mp hschema
    obtain ⟨honce, hidle⟩ := h.once ⟨item, hitem⟩
    exact ⟨honce.push_item, hidle⟩
  | .leaf _ => exact ⟨.nil _, nofun⟩
  | .underWay _ _ => exact ⟨⟨List.nodup_nil, nofun, nofun⟩, nofun⟩
  | .filled _ hidle h =>
    obtain ⟨schema, hschema⟩ := hok
    obtain ⟨_, hdone, _⟩ := bind_eq_ok.mp hschema
    obtain ⟨honce, hmarks⟩ := h.once hdone (by rw [isFilling_enter_reserve hidle]; simp)
    refine ⟨⟨honce.nodup, fun p hp => ?_, honce.stored⟩, fun p hp => ?_⟩
    · have hlacking := honce.lacking p hp
      rwa [enter_store, Store.tree_reserve, Cache.reserve, Store.tree_reserve] at hlacking
    · rcases hmarks p hp with hmark | hname
      · rw [isFilling_enter_reserve hidle, Bool.or_eq_false_iff] at hmark
        exact hmark.1
      · rw [hname]
        exact hidle
termination_by structural h

/-- A fill compiles fields of its own type, and of types that are not being filled. -/
theorem FillsFields.once {stack : Stack} {type : String} {fields : List InputValue}
    {cache : Cache} {result : Compiled Unit} {log : List Stack}
    (h : c.FillsFields stack type fields cache result log) (hok : result.1 = .ok ())
    (hbusy : cache.isFilling type = true) :
    Once cache.store result.2.store log ∧
      ∀ p ∈ bareFields log, cache.isFilling p.1 = false ∨ p.1 = type := by
  match h with
  | .nil => exact ⟨.nil _, nofun⟩
  | .present _ h => exact h.once hok hbusy
  | .failed _ _ => cases hok
  | @FillsFields.stored _ _ _ field _ _ s _ _ _ _ hnone h more =>
    obtain ⟨honce, hidle⟩ := h.once ⟨_, rfl⟩
    have hput : Extends cache (_ : Cache) := h.extends.put s hnone
    have hmark : ∀ name, Cache.isFilling _ name = cache.isFilling name :=
      fun name => congrArg (fun types => List.contains types name) hput.filling
    obtain ⟨hrest, hmarks⟩ := more.once hok ((hmark type).trans hbusy)
    refine ⟨(honce.put s hidle hbusy hnone).append hrest hput.hasKey more.extends.hasKey, ?_⟩
    intro p hp
    rw [bareFields, List.filterMap_append, List.mem_append] at hp
    rcases hp with hp | hp
    · rcases List.mem_cons.mp hp with rfl | hp
      · exact Or.inr rfl
      · exact Or.inl (hidle p hp)
    · exact (hmarks p hp).imp_left (hmark p.1).symm.trans
termination_by structural h

end

/-- How a compilation into a tree proceeds, and the stacks of all calls that it makes, itself
included. -/
inductive Ends (c : Compiler) (call : CompileCall) (cache : Cache) :
    Compiled Schema → List Stack → Prop
  | failed {e : CompileFailure} {after : Cache} {log : List Stack} :
    c.Compiles [] call.field call.type call.arguments cache (.error e, after) log →
    Ends c call cache (.error e, after) ([] :: log)
  | stored {schema : Schema} {after : Cache} {log : List Stack} :
    c.Compiles [] call.field call.type call.arguments cache (.ok schema, after) log →
    Ends c call cache (.ok schema, after.put call.target call.field schema) ([] :: log)

/-- Compilations in turn that all succeed. -/
inductive Succeeds (c : Compiler) : Cache → List CompileCall → Cache → List Stack → Prop
  | nil {cache : Cache} : Succeeds c cache [] cache []
  | cons {cache after last : Cache} {call : CompileCall} {rest : List CompileCall}
      {schema : Schema} {log more : List Stack} :
    c.Ends call (cache.withTarget call) (.ok schema, after) log →
    Succeeds c after rest last more → Succeeds c cache (call :: rest) last (log ++ more)

variable {call : CompileCall}

lemma Ends.result_eq {result : Compiled Schema} (h : c.Ends call cache result log) :
    result = c.compile call.type call.arguments call.field call.target cache := by
  cases h with
  | failed h => rw [compile, ← h.result_eq]
  | stored h => rw [compile, ← h.result_eq]

lemma exists_ends (c : Compiler) (call : CompileCall) (cache : Cache) :
    ∃ log, c.Ends call cache
      (c.compile call.type call.arguments call.field call.target cache) log := by
  have hdepth : c.idle cache ≤ c.graph.inputs.length := List.length_filter_le _ _
  obtain ⟨log, h⟩ := exists_compiles (fillType_finishes c c.graph.inputs.length) [] call.field
    call.type call.arguments hdepth
  rw [compile]
  change c.Compiles _ _ _ _ _ (c.refSchema c.fill call.field call.type call.arguments cache) _ at h
  generalize c.refSchema c.fill call.field call.type call.arguments cache = result at h
  obtain ⟨outcome, after⟩ := result
  cases outcome with
  | error e => exact ⟨_, .failed h⟩
  | ok schema => exact ⟨_, .stored h⟩

lemma nesting_le_deepest (c : Compiler) (ref : TypeRef) {type : InputType} (hd : c.Declares type)
    {f : InputValue} (hf : f ∈ type.fields) : f.type.nesting ≤ c.deepest ref := by
  refine List.le_max_of_le' 0 (List.mem_cons_of_mem _ ?_) le_rfl
  exact List.mem_map_of_mem (List.mem_flatMap.mpr ⟨type, mem_inputs hd, hf⟩)

/-- The first stack is empty; it has room for the lists of the type itself. -/
lemma within_nil (c : Compiler) (ref : TypeRef) :
    c.Within (c.deepest ref) ref.nesting [] := by
  have hle : ref.nesting ≤ c.deepest ref := List.le_max_of_le' 0 List.mem_cons_self le_rfl
  refine ⟨List.nodup_nil, nofun, ?_⟩
  simp only [Stack.height, Stack.entered, List.countP_nil, List.filterMap_nil, List.length_nil]
  omega

lemma Ends.within {result : Compiled Schema} (h : c.Ends call cache result log) :
    ∀ s ∈ log, c.Within (c.deepest call.type) 0 s := by
  have hnil := within_nil c call.type
  have hall : ∀ type, c.Declares type → ∀ f ∈ type.fields, f.type.nesting ≤ c.deepest call.type :=
    fun _ hd _ hf => nesting_le_deepest c call.type hd hf
  intro s hs
  cases h with
  | failed h | stored h =>
    rcases List.mem_cons.mp hs with rfl | hs
    · exact hnil.mono (Nat.zero_le _)
    · exact h.within hall hnil nofun s hs

lemma Ends.once {schema : Schema} {after : Cache} (h : c.Ends call cache (.ok schema, after) log) :
    Once cache.store after.store log := by
  cases h with
  | stored h =>
    have honce := (h.once ⟨schema, rfl⟩).1
    exact ⟨honce.nodup, honce.lacking, fun p hp =>
      (Store.hasKey_put _ _ _ _ _ _).mpr (Or.inr (honce.stored p hp))⟩

lemma Ends.hasKey {result : Except CompileFailure Schema} {after : Cache}
    (h : c.Ends call cache (result, after) log) (name : TreeName) (key : String)
    (hk : hasKey key (cache.store.tree name) = true) :
    InputGuard.hasKey key (after.store.tree name) = true := by
  cases h with
  | failed h => exact h.extends.hasKey name key hk
  | stored h =>
    exact (Store.hasKey_put _ _ _ _ _ _).mpr (Or.inr (h.extends.hasKey name key hk))

lemma Succeeds.once {last : Cache} {calls : List CompileCall}
    (h : c.Succeeds cache calls last log) :
    Once cache.store last.store log ∧ ∀ name key,
      hasKey key (cache.store.tree name) = true → hasKey key (last.store.tree name) = true := by
  induction h with
  | nil => exact ⟨.nil _, fun _ _ h => h⟩
  | @cons cache after last call rest schema log more hend _ ih =>
    have htree : ∀ name, (cache.withTarget call).store.tree name = cache.store.tree name :=
      fun name => Store.tree_reserve _ _ name
    have honce := hend.once
    have hkept : ∀ name key, hasKey key (cache.store.tree name) = true →
        hasKey key (after.store.tree name) = true := fun name key hk =>
      hend.hasKey name key (by rwa [htree])
    refine ⟨Once.append ⟨honce.nodup, fun p hp => ?_, honce.stored⟩ ih.1 hkept ih.2, ?_⟩
    · rw [← htree]
      exact honce.lacking p hp
    · exact fun name key hk => ih.2 name key (hkept name key hk)

lemma exists_succeeds {calls : List CompileCall} {last : Cache}
    (h : calls.foldlM c.step cache = .ok last) : ∃ log, c.Succeeds cache calls last log := by
  induction calls generalizing cache with
  | nil => exact ⟨[], pure_eq_ok.mp h ▸ .nil⟩
  | cons call rest ih =>
    rw [List.foldlM_cons] at h
    obtain ⟨after, hstep, hrest⟩ := bind_eq_ok.mp h
    obtain ⟨⟨schema, hok⟩, hafter⟩ := step_eq_ok.mp hstep
    obtain ⟨log, hend⟩ := exists_ends c call (cache.withTarget call)
    obtain ⟨more, hmore⟩ := ih hrest
    have hresult : c.perform cache call = (.ok schema, after) := Prod.ext hok hafter
    rw [perform] at hresult
    rw [hresult] at hend
    exact ⟨_, .cons hend hmore⟩

/-- Every compilation ends, from any cache. On the way, no stack has a type twice, so none is higher
than the number of types and of lists around a type allow. Compilations on one cache that all
succeed compile each field of an input type at most once on behalf of a fill. -/
theorem compile_ends (c : Compiler) :
    (∀ call cache, ∃ log,
      c.Ends call cache (c.compile call.type call.arguments call.field call.target cache) log) ∧
    (∀ call cache result log, c.Ends call cache result log →
      result = c.compile call.type call.arguments call.field call.target cache ∧
        ∀ stack ∈ log, stack.entered.Nodup ∧
          stack.height ≤ (c.graph.inputs.length + 1) * (c.deepest call.type + 1)) ∧
    (∀ cache calls last, calls.foldlM c.step cache = .ok last →
      ∃ log, c.Succeeds cache calls last log) ∧
    ∀ cache calls last log, c.Succeeds cache calls last log →
      ∀ type field, (bareFields log).count (type, field) ≤ 1 := by
  refine ⟨exists_ends c, fun call cache result log h => ?_, fun _ _ _ => exists_succeeds, ?_⟩
  · exact ⟨h.result_eq, fun stack hs => ⟨(h.within stack hs).nodup, (h.within stack hs).height_le⟩⟩
  · exact fun _ _ _ _ h type field => List.nodup_iff_count_le_one.mp h.once.1.nodup (type, field)

end Compiler

end InputGuard
