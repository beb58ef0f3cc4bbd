import InputGuard.Proofs.ListArguments
import InputGuard.Proofs.ReachedRules
import InputGuard.Proofs.SeparateArguments

/-!
# Options that are switched off

Three arguments of a directive are truth values. Where `trim` and `unsafe` are false they may as
well be left out. The value of `hex` is not looked at, so it adds its check even where it is false.
Without it that check is missing and nothing else, so that only values which the check refuses are
judged in another way.
-/

namespace InputGuard

/-- Whether an argument is one of some options and false. -/
def isSwitchedOff (options : List String) : String × Literal → Bool
  | (name, .boolean false) => options.contains name
  | _ => false

lemma isSwitchedOff_iff {options : List String} {a : String × Literal} :
    isSwitchedOff options a = true ↔ a.1 ∈ options ∧ a.2 = .boolean false := by
  obtain ⟨name, literal⟩ := a
  unfold isSwitchedOff
  split
  · rename_i heq
    obtain ⟨rfl, rfl⟩ := Prod.mk.inj heq
    simp
  · rename_i hne
    simp only [Bool.false_eq_true, false_iff, not_and]
    exact fun _ heq => hne name (by rw [heq])

/-- An argument with true for false, if it is one of some options. -/
def switchedOn (options : List String) (a : String × Literal) : String × Literal :=
  if isSwitchedOff options a then (a.1, .boolean true) else a

lemma switchedOn_fst (options : List String) (a : String × Literal) :
    (switchedOn options a).1 = a.1 := by
  unfold switchedOn
  split <;> rfl

/-- Two checks end in the same way, unless the first one ends with an issue of that code. -/
def SameUnless {α : Type} (code : String) (x y : Checked α) : Prop :=
  x = y ∨ ∃ detail, x = .error (.issue detail) ∧ detail.code = code

section SameUnless

variable {α β : Type} {code : String} {x y : Checked α}

lemma SameUnless.refl (x : Checked α) : SameUnless code x x := Or.inl rfl

lemma SameUnless.bind {f g : α → Checked β} (h : SameUnless code x y)
    (hfg : ∀ a, SameUnless code (f a) (g a)) : SameUnless code (x >>= f) (y >>= g) := by
  rcases h with rfl | ⟨detail, rfl, hcode⟩
  · cases x with
    | error e => exact .refl _
    | ok a => exact hfg a
  · exact Or.inr ⟨detail, rfl, hcode⟩

end SameUnless

namespace Arguments

/-- No two arguments have the same name. -/
def Distinct (arguments : Arguments) : Prop := (arguments.map (·.1)).Nodup

instance (arguments : Arguments) : Decidable arguments.Distinct :=
  inferInstanceAs (Decidable (List.Nodup _))

/-- The arguments without some options, where these are switched off. -/
def without (options : List String) (arguments : Arguments) : Arguments :=
  arguments.filter fun a => !isSwitchedOff options a

/-- The arguments with some options switched on, where these are switched off. -/
def switchOn (options : List String) (arguments : Arguments) : Arguments :=
  arguments.map (switchedOn options)

variable {options : List String} {arguments : Arguments}

lemma without_singleton_of_not_mem {option : String} (h : (option, .boolean false) ∉ arguments) :
    arguments.without [option] = arguments := by
  refine List.filter_eq_self.mpr fun a ha => ?_
  rw [Bool.not_eq_true', ← Bool.not_eq_true, isSwitchedOff_iff, List.mem_singleton]
  rintro ⟨rfl, hoff⟩
  exact h (hoff ▸ ha)

lemma Distinct.without (h : arguments.Distinct) (options : List String) :
    (arguments.without options).Distinct :=
  h.sublist (List.filter_sublist.map _)

lemma Distinct.forElement (h : arguments.Distinct) : arguments.forElement.Distinct :=
  h.sublist (List.filter_sublist.map _)

lemma without_append (first second : List String) (arguments : Arguments) :
    arguments.without (first ++ second) = (arguments.without first).without second := by
  rw [without, without, without, List.filter_filter]
  refine List.filter_congr fun a _ => ?_
  rw [Bool.eq_iff_iff]
  simp only [Bool.and_eq_true, Bool.not_eq_true', ← Bool.not_eq_true, isSwitchedOff_iff,
    List.mem_append]
  tauto

/-- Where names are distinct, an option is switched off in one place at most. -/
lemma without_single (hdistinct : arguments.Distinct) (option : String) :
    ((option, .boolean false) ∉ arguments ∧ arguments.without [option] = arguments) ∨
      ∃ before after, arguments = before ++ (option, .boolean false) :: after ∧
        arguments.without [option] = before ++ after ∧ ∀ a ∈ before, a.1 ≠ option := by
  by_cases hmem : (option, Literal.boolean false) ∈ arguments
  · obtain ⟨before, after, rfl⟩ := List.append_of_mem hmem
    rw [Distinct, List.map_append, List.map_cons, List.nodup_middle, ← List.map_append,
      List.nodup_cons] at hdistinct
    have hother : ∀ a ∈ before ++ after, a.1 ≠ option := by
      intro a ha heq
      have hname : a.1 ∈ (before ++ after).map (·.1) := List.mem_map_of_mem ha
      exact hdistinct.1 (heq ▸ hname)
    have hkeep : ∀ a ∈ before ++ after, (!isSwitchedOff [option] a) = true := by
      intro a ha
      simp [← Bool.not_eq_true, isSwitchedOff_iff, hother a ha]
    have hdrop : isSwitchedOff [option] (option, .boolean false) = true :=
      isSwitchedOff_iff.mpr ⟨List.mem_singleton_self _, rfl⟩
    obtain ⟨hbefore, hafter⟩ := List.forall_mem_append.mp hkeep
    refine Or.inr ⟨before, after, rfl, ?_, (List.forall_mem_append.mp hother).1⟩
    rw [without, List.filter_append, List.filter_cons_of_neg (by simp [hdrop]),
      List.filter_eq_self.mpr hbefore, List.filter_eq_self.mpr hafter]
  · exact Or.inl ⟨hmem, without_singleton_of_not_mem hmem⟩

/-- A change of arguments that is made to those about elements. It may ask something of them. -/
structure OnElements (given : Arguments → Prop) (f : Arguments → Arguments) : Prop where
  given : ∀ arguments, given arguments → given arguments.forElement
  forElement : ∀ arguments, (f arguments).forElement = f arguments.forElement
  forArray : ∀ arguments, (f arguments).forArray = arguments.forArray

lemma isSwitchedOff_of_isArrayScoped {a : String × Literal}
    (hscoped : ∀ o ∈ options, isArrayScoped o = false) (h : isArrayScoped a.1 = true) :
    isSwitchedOff options a = false := by
  rw [← Bool.not_eq_true, isSwitchedOff_iff]
  rintro ⟨hoption, -⟩
  rw [hscoped _ hoption] at h
  cases h

lemma without_onElements {given : Arguments → Prop}
    (hgiven : ∀ arguments, given arguments → given arguments.forElement)
    (hscoped : ∀ o ∈ options, isArrayScoped o = false) : OnElements given (without options) where
  given := hgiven
  forElement arguments := by
    rw [forElement, without, List.filter_comm]
    rfl
  forArray arguments := by
    rw [forArray, without, List.filter_filter]
    refine List.filter_congr fun a _ => ?_
    rw [Bool.and_eq_left_iff_imp, Bool.not_eq_true']
    exact isSwitchedOff_of_isArrayScoped hscoped

lemma without_onElements_of_distinct (hscoped : ∀ o ∈ options, isArrayScoped o = false) :
    OnElements Distinct (without options) :=
  without_onElements (fun _ => Distinct.forElement) hscoped

lemma switchOn_onElements (hscoped : ∀ o ∈ options, isArrayScoped o = false) :
    OnElements (fun _ => True) (switchOn options) where
  given _ _ := trivial
  forElement arguments := by
    rw [forElement, switchOn, List.filter_map]
    simp only [Function.comp_def, switchedOn_fst]
    rfl
  forArray arguments := by
    rw [forArray, switchOn, List.filter_map]
    simp only [Function.comp_def, switchedOn_fst]
    refine (List.map_congr_left fun a ha => ?_).trans (List.map_id _)
    have harray : isArrayScoped a.1 = true := (List.mem_filter.mp ha).2
    rw [switchedOn, isSwitchedOff_of_isArrayScoped hscoped harray, if_neg Bool.false_ne_true, id]

end Arguments

namespace Schema

variable {schema s t u : Schema} {field : String} {arguments : Arguments}

/-- What an argument between others does, and what is done without it. -/
lemma applyArguments_middle {before after : Arguments} {a : String × Literal}
    (h : schema.applyArguments (before ++ a :: after) field = .ok s) :
    (∀ b ∈ after, isCast b.1 = false) ∧
      schema.applyArguments (before ++ after) field =
        (before ++ after).foldlM (applyArgument field) schema ∧
      ∃ t u, before.foldlM (applyArgument field) schema = .ok t ∧
        t.applyArgument field a = .ok u ∧ after.foldlM (applyArgument field) u = .ok s := by
  obtain ⟨_, hcasts, hfold⟩ := bind_eq_ok.mp h
  have hcasts := isCast_of_refuseCasts hcasts
  rw [List.foldlM_append] at hfold
  obtain ⟨t, ht, hfold⟩ := bind_eq_ok.mp hfold
  rw [List.foldlM_cons] at hfold
  obtain ⟨u, hu, hafter⟩ := bind_eq_ok.mp hfold
  have hrest : ∀ b ∈ after, isCast b.1 = false := by
    intro b hb
    cases before with
    | nil => exact hcasts b hb
    | cons first before => exact hcasts b (by simp [hb])
  have htail : ∀ b ∈ (before ++ after).tail, isCast b.1 = false := by
    intro b hb
    cases before with
    | nil => exact hrest b (List.mem_of_mem_tail hb)
    | cons first before =>
      refine hcasts b ?_
      simp only [List.cons_append, List.tail_cons, List.mem_append, List.mem_cons] at hb ⊢
      tauto
  exact ⟨hrest, applyArguments_eq schema htail, t, u, ht, hu, hafter⟩

/-- An option that leaves schemas as they are where it is switched off may be left out. -/
lemma applyArguments_without_idle {option : String} (holds : Schema → Prop)
    (hkeep : ∀ t a u, a.1 ≠ option → holds t → t.applyArgument field a = .ok u → holds u)
    (hidle : ∀ t u, holds t → t.applyArgument field (option, .boolean false) = .ok u → u = t)
    (hdistinct : arguments.Distinct) (hschema : holds schema)
    (h : schema.applyArguments arguments field = .ok s) :
    schema.applyArguments (arguments.without [option]) field = .ok s := by
  rcases Arguments.without_single hdistinct option with
    ⟨-, hsame⟩ | ⟨before, after, rfl, hwithout, hbefore⟩
  · rwa [hsame]
  · obtain ⟨-, hfold, t, u, ht, hu, hafter⟩ := applyArguments_middle h
    have hholds : holds t :=
      foldlM_keeps holds (fun r a ha r' hr hr' => hkeep r a r' (hbefore a ha) hr hr') hschema ht
    rw [hidle t u hholds hu] at hafter
    rw [hwithout, hfold, List.foldlM_append]
    exact bind_eq_ok.mpr ⟨t, ht, hafter⟩

lemma applyArgument_trim (h : t.applyArgument field ("trim", .boolean false) = .ok u) : u = t := by
  cases t with
  | string s rules => exact (Except.ok.inj h).symm
  | any | number | date | boolean | array | arrayOf | object => cases h

lemma applyArgument_unsafe (h : t.applyArgument field ("unsafe", .boolean false) = .ok u) :
    ∃ settings rules anySize,
      t = .number settings rules anySize ∧ u = .number settings rules false := by
  cases t with
  | number settings rules anySize => exact ⟨settings, rules, anySize, rfl, (Except.ok.inj h).symm⟩
  | any | string | date | boolean | array | arrayOf | object => cases h

lemma applyArgument_hex {b : Bool} (h : t.applyArgument field ("hex", .boolean b) = .ok u) :
    ∃ settings rules,
      t = .string settings rules ∧ u = .string settings (rules ++ [.hex false]) := by
  cases t with
  | string settings rules => exact ⟨settings, rules, rfl, (Except.ok.inj h).symm⟩
  | any | number | date | boolean | array | arrayOf | object => cases h

/-- Numbers beyond the integers that binary numbers hold exactly are refused, if any are allowed. -/
def Exact : Schema → Prop
  | number _ _ anySize => anySize = false
  | _ => True

/-- A schema for texts, perhaps inside arrays, and the same without one of its checks for
hexadecimal digits. -/
inductive AddsHex : Schema → Schema → Prop
  | text (s : Settings) (before after : List StringRule) :
    AddsHex (.string s (before ++ .hex false :: after)) (.string s (before ++ after))
  | items (s : Settings) (rules : List ArrayRule) {item item' : Schema} :
    AddsHex item item' → AddsHex (.arrayOf s rules item) (.arrayOf s rules item')

namespace AddsHex

lemma kind_eq (h : AddsHex t u) : t.kind = u.kind := by
  cases h <;> rfl

lemma settings_eq (h : AddsHex t u) : t.settings = u.settings := by
  cases h <;> rfl

lemma withSettings (h : AddsHex t u) (s : Settings) :
    AddsHex (t.withSettings s) (u.withSettings s) := by
  cases h with
  | text _ before after => exact .text s before after
  | items _ rules hitem => exact .items s rules hitem

/-- An operation does the same to both. -/
lemma refine {operation : String} {args : List Value} {refined : Option Schema}
    (h : AddsHex t u) (ht : t.refine operation args = .ok refined) :
    ∃ refined', u.refine operation args = .ok refined' ∧
      AddsHex (refined.getD t) (refined'.getD u) := by
  unfold Schema.refine at ht ⊢
  split at ht
  · obtain ⟨v, hv, ht⟩ := bind_eq_ok.mp ht
    obtain ⟨overrides, hoverrides, hpure⟩ := bind_eq_ok.mp ht
    rw [← pure_eq_ok.mp hpure]
    refine ⟨_, bind_eq_ok.mpr ⟨v, hv, bind_eq_ok.mpr ⟨overrides, hoverrides, rfl⟩⟩, ?_⟩
    rw [Option.getD_some, Option.getD_some, prefer, prefer, h.settings_eq]
    exact h.withSettings _
  · rw [← Except.ok.inj ht]
    refine ⟨_, rfl, ?_⟩
    rw [Option.getD_some, Option.getD_some, allow, allow, h.settings_eq]
    exact h.withSettings _
  · rename_i hprefs hvalid
    cases h with
    | text settings before after =>
      obtain ⟨rule, hrule, hpure⟩ := bind_eq_ok.mp ht
      refine ⟨_, bind_eq_ok.mpr ⟨rule, hrule, rfl⟩, ?_⟩
      rw [← pure_eq_ok.mp hpure]
      cases rule with
      | none => exact .text settings before after
      | some rule => simpa using AddsHex.text settings before (after ++ [rule])
    | items settings rules hitem =>
      dsimp only at ht ⊢
      split at ht
      · obtain ⟨_, _, hrefuse⟩ := bind_eq_ok.mp ht
        cases hrefuse
      · rename_i hitems
        obtain ⟨rule, hrule, hpure⟩ := bind_eq_ok.mp ht
        rw [if_neg hitems, ← pure_eq_ok.mp hpure]
        exact ⟨_, bind_eq_ok.mpr ⟨rule, hrule, rfl⟩, .items settings (rules ++ [rule]) hitem⟩

/-- An argument that is no cast does the same to both. -/
lemma applyArgument {a : String × Literal} (h : AddsHex t u) (hcast : isCast a.1 = false)
    (ht : t.applyArgument field a = .ok s) :
    ∃ s', u.applyArgument field a = .ok s' ∧ AddsHex s s' := by
  obtain ⟨name, literal⟩ := a
  obtain ⟨v, hv, hrest⟩ := bind_eq_ok.mp ht
  rw [if_neg (by simpa using hcast)] at hrest
  obtain ⟨args, hargs, happly⟩ := bind_eq_ok.mp hrest
  have happlies : (Meaning.ofArgument name).applies t = (Meaning.ofArgument name).applies u := by
    rw [Meaning.applies, Meaning.applies, operations, operations, h.kind_eq]
  split at happly
  · rename_i hyes
    obtain ⟨refined, hrefined, hpure⟩ := bind_eq_ok.mp happly
    obtain ⟨refined', hrefined', hadds⟩ := h.refine (argumentResult_eq_ok hrefined)
    refine ⟨refined'.getD u, bind_eq_ok.mpr ⟨v, hv, ?_⟩, ?_⟩
    · rw [if_neg (by simpa using hcast)]
      refine bind_eq_ok.mpr ⟨args, hargs, ?_⟩
      rw [if_pos (happlies ▸ hyes), hrefined']
      rfl
    · rwa [← pure_eq_ok.mp hpure]
  · cases happly

/-- Arguments without casts do the same to both. -/
lemma foldlM (h : AddsHex t u) (hcasts : ∀ a ∈ arguments, isCast a.1 = false)
    (ht : arguments.foldlM (Schema.applyArgument field) t = .ok s) :
    ∃ s', arguments.foldlM (Schema.applyArgument field) u = .ok s' ∧ AddsHex s s' := by
  induction arguments generalizing t u with
  | nil =>
    rw [← pure_eq_ok.mp ht]
    exact ⟨u, rfl, h⟩
  | cons a rest ih =>
    obtain ⟨hcast, hrest⟩ := List.forall_mem_cons.mp hcasts
    rw [List.foldlM_cons] at ht
    obtain ⟨t', ht', hfold⟩ := bind_eq_ok.mp ht
    obtain ⟨u', hu', hadds⟩ := h.applyArgument hcast ht'
    obtain ⟨s', hs', hend⟩ := ih hadds hrest hfold
    rw [List.foldlM_cons]
    exact ⟨s', bind_eq_ok.mpr ⟨u', hu', hs'⟩, hend⟩

lemma finish_text (visit : Visit) (settings : Settings) (before after : List StringRule)
    (v : Value) :
    SameUnless Issue.stringHex.code
      ((string settings (before ++ .hex false :: after)).finish visit v)
      ((string settings (before ++ after)).finish visit v) := by
  cases v with
  | str text =>
    refine (SameUnless.refl _).bind fun _ => SameUnless.bind ?_ fun _ => .refl _
    rw [List.foldlM_append, List.foldlM_append]
    refine (SameUnless.refl _).bind fun text => ?_
    rw [List.foldlM_cons, StringRule.check, StringRule.checkHex]
    cases Format.isHex text.toList with
    | true => exact .refl _
    | false => exact Or.inr ⟨_, rfl, rfl⟩
  | null | bool | number | list | object | moment | day | pattern => exact .refl _

lemma validateItems {item item' : Schema} {store store' : Store}
    (h : ∀ visit v, SameUnless Issue.stringHex.code (item.validate store visit v)
      (item'.validate store' visit v)) (visit : Visit) (i : Nat) (items : List Value) :
    SameUnless Issue.stringHex.code (Schema.validateItems store visit item i items)
      (Schema.validateItems store' visit item' i items) := by
  induction items generalizing i with
  | nil =>
    rw [Schema.validateItems, Schema.validateItems]
    exact .refl _
  | cons v rest ih =>
    rw [Schema.validateItems, Schema.validateItems]
    exact (h _ v).bind fun _ => (ih (i + 1)).bind fun _ => .refl _

/-- Without the check, a value is judged in the same way unless it is the check that refuses it. -/
theorem validate (h : AddsHex t u) (store store' : Store) (visit : Visit) (v : Value) :
    SameUnless Issue.stringHex.code (t.validate store visit v) (u.validate store' visit v) := by
  induction h generalizing visit v with
  | text settings before after =>
    by_cases hv : v = .null
    · rw [hv, Schema.validate, Schema.validate]
      exact .refl _
    · rw [validate_whole rfl rfl hv, validate_whole rfl rfl hv]
      exact finish_text _ settings before after v
  | items settings rules _ ih =>
    cases v with
    | list items =>
      rw [Schema.validate, Schema.validate]
      exact (validateItems ih _ 0 items).bind fun _ => .refl _
    | null | object =>
      rw [Schema.validate, Schema.validate]
      exact .refl _
    | bool | number | str | moment | day | pattern => exact .refl _

end AddsHex

lemma exact_of_kind (h : s.kind ≠ .number) : s.Exact := by
  cases s with
  | number => exact absurd rfl h
  | any | string | date | boolean | array | arrayOf | object => trivial

lemma Exact.withSettings (h : t.Exact) (s : Settings) : (t.withSettings s).Exact := by
  cases t <;> exact h

/-- Only the operation of that name lets numbers be too large. -/
lemma Exact.refine {operation : String} {args : List Value} (h : t.Exact)
    (hne : operation ≠ "unsafe") (hu : t.refine operation args = .ok (some u)) : u.Exact := by
  cases t with
  | number s rules anySize =>
    unfold Schema.refine at hu
    split at hu
    · obtain ⟨_, _, hu⟩ := bind_eq_ok.mp hu
      obtain ⟨_, _, hu⟩ := bind_eq_ok.mp hu
      rw [← Option.some.inj (pure_eq_ok.mp hu)]
      exact h.withSettings _
    · rw [← Option.some.inj (Except.ok.inj hu)]
      exact h.withSettings _
    · dsimp only at hu
      rw [if_neg hne] at hu
      obtain ⟨_, _, hu⟩ := bind_eq_ok.mp hu
      rw [← Option.some.inj (pure_eq_ok.mp hu)]
      exact h
  | any | string | date | boolean | array | arrayOf | object =>
    refine exact_of_kind ?_
    rw [(refines_of_refine hu).kind_eq]
    exact nofun

lemma Meaning.operation_ne_unsafe {name : String} (h : name ≠ "unsafe") :
    (Meaning.ofArgument name).operation ≠ "unsafe" := by
  have htable : ∀ e ∈ Meaning.table, e.2.operation ≠ "unsafe" := by decide
  unfold Meaning.ofArgument
  cases hlook : lookup? name Meaning.table with
  | none => exact h
  | some m => exact htable _ (mem_of_lookup? hlook)

lemma Exact.applyArgument {a : String × Literal} (h : t.Exact) (hne : a.1 ≠ "unsafe")
    (hu : t.applyArgument field a = .ok u) : u.Exact := by
  obtain ⟨name, literal⟩ := a
  obtain ⟨v, -, hrest⟩ := bind_eq_ok.mp hu
  split at hrest
  · exact exact_of_kind (by rw [kind_castSchema hrest]; decide)
  · obtain ⟨args, -, happly⟩ := bind_eq_ok.mp hrest
    split at happly
    · obtain ⟨refined, hrefined, hpure⟩ := bind_eq_ok.mp happly
      rw [← pure_eq_ok.mp hpure]
      cases refined with
      | none => exact h
      | some refined =>
        exact h.refine (Meaning.operation_ne_unsafe hne) (argumentResult_eq_ok hrefined)
    · cases happly

lemma applyArguments_without_trim (hdistinct : arguments.Distinct)
    (h : schema.applyArguments arguments field = .ok s) :
    schema.applyArguments (arguments.without ["trim"]) field = .ok s :=
  applyArguments_without_idle (fun _ => True) (fun _ _ _ _ _ _ => trivial)
    (fun _ _ _ h => applyArgument_trim h) hdistinct trivial h

/-- If numbers cannot be too large at first, then it changes nothing to say so. -/
lemma applyArguments_without_unsafe (hschema : schema.Exact)
    (hdistinct : arguments.Distinct)
    (h : schema.applyArguments arguments field = .ok s) :
    schema.applyArguments (arguments.without ["unsafe"]) field = .ok s := by
  refine applyArguments_without_idle Exact (fun _ _ _ hne ht hu => ht.applyArgument hne hu)
    (fun t u ht hu => ?_) hdistinct hschema h
  obtain ⟨settings, rules, anySize, rfl, rfl⟩ := applyArgument_unsafe hu
  rw [show anySize = false from ht]

lemma applyArguments_without_hex (hdistinct : arguments.Distinct)
    (hoff : ("hex", .boolean false) ∈ arguments)
    (h : schema.applyArguments arguments field = .ok s) :
    ∃ s', schema.applyArguments (arguments.without ["hex"]) field = .ok s' ∧ AddsHex s s' := by
  rcases Arguments.without_single hdistinct "hex" with
    ⟨hnone, -⟩ | ⟨before, after, rfl, hwithout, -⟩
  · exact absurd hoff hnone
  · obtain ⟨hcasts, hfold, t, u, ht, hu, hafter⟩ := applyArguments_middle h
    obtain ⟨settings, rules, rfl, rfl⟩ := applyArgument_hex hu
    have hadds : AddsHex (.string settings (rules ++ [.hex false])) (.string settings rules) := by
      simpa using AddsHex.text settings rules []
    obtain ⟨s', hs', hend⟩ := hadds.foldlM hcasts hafter
    rw [hwithout, hfold, List.foldlM_append]
    exact ⟨s', bind_eq_ok.mpr ⟨_, ht, hs'⟩, hend⟩

/-- The value of the option is not looked at. -/
lemma applyArgument_switchedOn_hex (schema : Schema) (a : String × Literal) :
    schema.applyArgument field (switchedOn ["hex"] a) = schema.applyArgument field a := by
  obtain ⟨name, literal⟩ := a
  unfold switchedOn
  split
  · rename_i hoff
    obtain ⟨hname, hliteral⟩ := isSwitchedOff_iff.mp hoff
    obtain rfl : name = "hex" := List.mem_singleton.mp hname
    obtain rfl : literal = .boolean false := hliteral
    rfl
  · rfl

lemma applyArguments_switchOn_hex (h : schema.applyArguments arguments field = .ok s) :
    schema.applyArguments (arguments.switchOn ["hex"]) field = .ok s := by
  obtain ⟨_, hcasts, hfold⟩ := bind_eq_ok.mp h
  have hcasts' : ∀ a ∈ (arguments.switchOn ["hex"]).tail, isCast a.1 = false := by
    intro a ha
    rw [Arguments.switchOn, ← List.map_tail] at ha
    obtain ⟨b, hb, rfl⟩ := List.mem_map.mp ha
    rw [switchedOn_fst]
    exact isCast_of_refuseCasts hcasts b hb
  rw [applyArguments_eq schema hcasts', Arguments.switchOn, List.foldlM_map]
  simp only [applyArgument_switchedOn_hex]
  exact hfold

end Schema

namespace Compiler

variable {c : Compiler} {field : String}

/-- The schema of a named type never lets numbers be too large. -/
lemma exact_freshBase {name : String} {base : Schema} (h : c.freshBase field name = .ok base) :
    base.Exact := by
  unfold freshBase at h
  split at h
  · refine Schema.exact_of_kind (Schema.applyArguments_keeps (fun t => t.kind ≠ .number) ?_ ?_ h)
    · intro t a _ u ht hu
      rcases Schema.applyArgument_cases hu with ⟨-, v, hcast⟩ | ⟨-, rfl | hrefines⟩
      · rw [Schema.kind_castSchema hcast]
        exact nofun
      · exact ht
      · rwa [hrefines.kind_eq]
    · exact nofun
  · obtain ⟨texts, _, hpure⟩ := bind_eq_ok.mp h
    rw [← pure_eq_ok.mp hpure]
    trivial
  · have hscalars : ∀ e ∈ scalarSchemas, e.2.Exact := by
      simp only [scalarSchemas, List.forall_mem_cons]
      exact ⟨trivial, trivial, rfl, rfl, trivial, List.forall_mem_nil _⟩
    unfold scalarSchema at h
    split at h
    · rename_i schema hlook
      cases h
      exact hscalars _ (mem_of_lookup? hlook)
    · cases h

/-- What a change of the arguments about elements makes of the schema of the elements, it makes of
that of the lists. -/
lemma freshSchema_relates {given : Arguments → Prop} {f : Arguments → Arguments}
    {relates : Schema → Schema → Prop} (hf : Arguments.OnElements given f)
    (hbase : ∀ (base : Schema) arguments s, base.Exact → given arguments →
      base.applyArguments arguments field = .ok s →
        ∃ s', base.applyArguments (f arguments) field = .ok s' ∧ relates s s')
    (hitems : ∀ item item' arguments s, relates item item' → (∀ a ∈ arguments, isCast a.1 = false) →
      (Schema.arrayOf .plain [] item).applyArguments arguments field = .ok s →
        ∃ s', (Schema.arrayOf .plain [] item').applyArguments arguments field = .ok s' ∧
          relates s s')
    {type : TypeRef} {arguments : Arguments} {schema : Schema} (hgiven : given arguments)
    (h : c.freshSchema field type arguments = .ok schema) :
    ∃ schema', c.freshSchema field type (f arguments) = .ok schema' ∧ relates schema schema' := by
  induction type generalizing arguments schema with
  | named name =>
    obtain ⟨base, hmade, happly⟩ := bind_eq_ok.mp h
    obtain ⟨s', hs', hrelates⟩ := hbase base _ _ (exact_freshBase hmade) hgiven happly
    exact ⟨s', bind_eq_ok.mpr ⟨base, hmade, hs'⟩, hrelates⟩
  | nonNull type ih => exact ih hgiven h
  | list type ih =>
    obtain ⟨item, hitem, happly⟩ := bind_eq_ok.mp h
    obtain ⟨item', hitem', hrelates⟩ := ih (hf.given arguments hgiven) hitem
    obtain ⟨s', hs', hlist⟩ := hitems item item' _ schema hrelates
      (fun _ ha => Arguments.isCast_of_mem_forArray ha) happly
    refine ⟨s', bind_eq_ok.mpr ⟨item', ?_, ?_⟩, hlist⟩
    · change c.freshSchema field type (f arguments).forElement = .ok item'
      rw [hf.forElement]
      exact hitem'
    · change (Schema.arrayOf .plain [] item').applyArguments (f arguments).forArray field = .ok s'
      rw [hf.forArray]
      exact hs'

lemma freshSchema_unchanged {given : Arguments → Prop} {f : Arguments → Arguments}
    (hf : Arguments.OnElements given f)
    (hbase : ∀ (base : Schema) arguments s, base.Exact → given arguments →
      base.applyArguments arguments field = .ok s → base.applyArguments (f arguments) field = .ok s)
    {type : TypeRef} {arguments : Arguments} {schema : Schema} (hgiven : given arguments)
    (h : c.freshSchema field type arguments = .ok schema) :
    c.freshSchema field type (f arguments) = .ok schema := by
  have hsame : ∃ schema', c.freshSchema field type (f arguments) = .ok schema' ∧ schema = schema' :=
    freshSchema_relates hf
      (fun base arguments s hexact hgiven h => ⟨s, hbase base arguments s hexact hgiven h, rfl⟩)
      (fun _ _ _ s heq _ h => ⟨s, heq ▸ h, rfl⟩) hgiven h
  obtain ⟨_, hsame, rfl⟩ := hsame
  exact hsame

/-- Without the option, one check less is made of the elements. -/
lemma freshSchema_without_hex {type : TypeRef} {arguments : Arguments} {schema : Schema}
    (hdistinct : arguments.Distinct) (hoff : ("hex", .boolean false) ∈ arguments)
    (h : c.freshSchema field type arguments = .ok schema) :
    ∃ schema', c.freshSchema field type (arguments.without ["hex"]) = .ok schema' ∧
      schema.AddsHex schema' := by
  let given (arguments : Arguments) :=
    arguments.Distinct ∧ ("hex", Literal.boolean false) ∈ arguments
  have helement : ∀ arguments, given arguments → given arguments.forElement :=
    fun _ h => ⟨h.1.forElement, List.mem_filter.mpr ⟨h.2, rfl⟩⟩
  refine freshSchema_relates (Arguments.without_onElements helement (by decide))
    (fun base arguments s _ hgiven h => ?_) (fun item item' arguments s hadds hcasts h => ?_)
    (show given arguments from ⟨hdistinct, hoff⟩) h
  · exact Schema.applyArguments_without_hex hgiven.1 hgiven.2 h
  · have hcasts' : ∀ a ∈ arguments.tail, isCast a.1 = false :=
      fun a ha => hcasts a (List.mem_of_mem_tail ha)
    rw [Schema.applyArguments_eq _ hcasts'] at h ⊢
    exact (Schema.AddsHex.items .plain [] hadds).foldlM hcasts h

/-- Of the options that are truth values, two may be left out where they are switched off. The third
has the same effect switched off as switched on. Without it the check that it adds is missing, from
the elements of lists if the type is one, and values are judged in the same way unless this check
refuses them. -/
theorem compile_without {type : TypeRef} {arguments : Arguments} {target : TreeName}
    {cache after : Cache} {schema : Schema} (hdistinct : arguments.Distinct)
    (h : c.compile type arguments field target cache = (.ok schema, after)) :
    c.compile type (arguments.without ["trim", "unsafe"]) field target cache =
        (.ok schema, after) ∧
      c.compile type (arguments.switchOn ["hex"]) field target cache = (.ok schema, after) ∧
      ∃ schema' after',
        c.compile type (arguments.without ["trim", "unsafe", "hex"]) field target cache =
          (.ok schema', after') ∧
        (("hex", .boolean false) ∉ arguments → schema' = schema ∧ after' = after) ∧
        (("hex", .boolean false) ∈ arguments → schema.AddsHex schema') ∧
        ∀ prefs env v, SameUnless Issue.stringHex.code (attempt after.store prefs env schema v)
          (attempt after'.store prefs env schema' v) := by
  obtain ⟨hvisit, hfresh, hafter⟩ := compile_eq_ok.mp h
  have hplain : c.freshSchema field type (arguments.without ["trim", "unsafe"]) = .ok schema := by
    have htrim := freshSchema_unchanged
      (Arguments.without_onElements_of_distinct (by decide))
      (fun _ _ _ _ hdistinct h => Schema.applyArguments_without_trim hdistinct h) hdistinct hfresh
    rw [← List.singleton_append, Arguments.without_append]
    exact freshSchema_unchanged
      (Arguments.without_onElements_of_distinct (by decide))
      (fun _ _ _ hexact hdistinct h => Schema.applyArguments_without_unsafe hexact hdistinct h)
      (hdistinct.without _) htrim
  have hon : c.freshSchema field type (arguments.switchOn ["hex"]) = .ok schema :=
    freshSchema_unchanged (Arguments.switchOn_onElements (by decide))
      (fun _ _ _ _ _ h => Schema.applyArguments_switchOn_hex h) trivial hfresh
  have hall : arguments.without ["trim", "unsafe", "hex"] =
      (arguments.without ["trim", "unsafe"]).without ["hex"] :=
    arguments.without_append ["trim", "unsafe"] ["hex"]
  refine ⟨compile_eq_ok.mpr ⟨hvisit, hplain, hafter⟩, compile_eq_ok.mpr ⟨hvisit, hon, hafter⟩, ?_⟩
  rw [hall]
  by_cases hmem : ("hex", Literal.boolean false) ∈ arguments
  · have hmem' : ("hex", Literal.boolean false) ∈ arguments.without ["trim", "unsafe"] :=
      List.mem_filter.mpr ⟨hmem, rfl⟩
    obtain ⟨schema', hfresh', hadds⟩ := c.freshSchema_without_hex
      (hdistinct.without _) hmem' hplain
    exact ⟨schema', _, compile_eq_ok.mpr ⟨hvisit, hfresh', rfl⟩, absurd hmem, fun _ => hadds,
      fun _ _ _ => hadds.validate _ _ _ _⟩
  · have hmem' : ("hex", Literal.boolean false) ∉ arguments.without ["trim", "unsafe"] :=
      fun h => hmem (List.mem_of_mem_filter h)
    rw [Arguments.without_singleton_of_not_mem hmem']
    exact ⟨schema, after, compile_eq_ok.mpr ⟨hvisit, hplain, hafter⟩, fun _ => ⟨rfl, rfl⟩,
      fun h => absurd h hmem, fun _ _ _ => .refl _⟩

/-- A list of texts that are said not to be hexadecimal. -/
theorem compile_without_codes :
    let c : Compiler := ⟨[], "validate"⟩
    let type : TypeRef := .list (.named "String")
    let arguments : Arguments :=
      [("trim", .boolean false), ("arrayMax", .int "2"), ("hex", .boolean false)]
    let v : Value := .list [.str "ab", .str "xyz"]
    arguments.Distinct ∧ ∃ schema schema' after after' detail,
      c.compile type arguments "codes" (.shared "args") .empty = (.ok schema, after) ∧
      c.compile type (arguments.without ["trim", "unsafe", "hex"]) "codes" (.shared "args") .empty =
        (.ok schema', after') ∧
      attempt after.store ⟨false, false⟩ .epoch schema v = .error (.issue detail) ∧
      detail.code = "string.hex" ∧
      attempt after'.store ⟨false, false⟩ .epoch schema' v = .ok v := by
  intro c type arguments v
  have hdistinct : arguments.Distinct := by decide
  obtain ⟨schema, after, hgiven⟩ : ∃ schema after,
      c.compile type arguments "codes" (.shared "args") .empty = (.ok schema, after) := ⟨_, _, rfl⟩
  obtain ⟨-, -, schema', after', hless, -, -, hsame⟩ := compile_without hdistinct hgiven
  have hrefused : attempt after.store ⟨false, false⟩ .epoch schema v ≠ .ok v := by
    cases hgiven
    intro h
    cases h
  have haccepted : attempt after'.store ⟨false, false⟩ .epoch schema' v = .ok v := by
    cases hless
    rfl
  rcases hsame ⟨false, false⟩ .epoch v with heq | ⟨detail, hdetail, hcode⟩
  · exact absurd (heq.trans haccepted) hrefused
  · exact ⟨hdistinct, schema, schema', after, after', detail, hgiven, hless, hdetail, hcode,
      haccepted⟩

/-- A text that is said not to be hexadecimal still has to be. -/
theorem not_compile_without :
    ¬∀ (c : Compiler) (type : TypeRef) (arguments : Arguments) (field : String) (target : TreeName)
        (cache after : Cache) (schema : Schema), arguments.Distinct →
      c.compile type arguments field target cache = (.ok schema, after) →
      ∃ schema' after',
        c.compile type (arguments.without ["trim", "unsafe", "hex"]) field target cache =
          (.ok schema', after') ∧
        ∀ prefs env v, attempt after.store prefs env schema v =
          attempt after'.store prefs env schema' v := by
  intro hall
  obtain ⟨schema', after', hless, hsame⟩ := hall ⟨[], "validate"⟩ (.named "String")
    [("hex", .boolean false)] "code" (.shared "args") .empty _ _ (by decide) rfl
  cases hless
  cases hsame ⟨false, false⟩ .epoch (.str "xyz")

end Compiler

end InputGuard
