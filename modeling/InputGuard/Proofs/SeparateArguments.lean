import InputGuard.Proofs.AddedRules
import InputGuard.Proofs.CompilationCalls
import InputGuard.Proofs.IntegerNumerals

/-!
# Separate arguments

The arguments of a directive on a type that is no list are judged one by one. A cast is only allowed
in the first place. Behind it, each of the other arguments does what it does there alone: it adds
the same rules, and the first one that fails alone makes all of them fail in the same way.
-/

namespace InputGuard

namespace Arguments

/-- The cast that stands first, if there is one. -/
def leading : Arguments → Arguments
  | [] => []
  | a :: _ => if isCast a.1 then [a] else []

/-- The arguments behind a cast that stands first; all of them, if there is none. -/
def others : Arguments → Arguments
  | [] => []
  | a :: rest => if isCast a.1 then rest else a :: rest

variable {arguments : Arguments}

lemma leading_append_others (arguments : Arguments) :
    arguments.leading ++ arguments.others = arguments := by
  cases arguments with
  | nil => rfl
  | cons a rest =>
    rw [leading, others]
    split <;> rfl

/-- Behind casts that stand first there is only what may stand behind one argument. -/
lemma tail_leading_append (arguments more : Arguments) :
    ∀ a ∈ (arguments.leading ++ more).tail, a ∈ more := by
  intro a ha
  cases arguments with
  | nil => exact List.mem_of_mem_tail ha
  | cons b rest =>
    rw [leading] at ha
    split at ha
    · exact ha
    · exact List.mem_of_mem_tail ha

lemma isCast_of_mem_others (h : ∀ a ∈ arguments.tail, isCast a.1 = false) :
    ∀ a ∈ arguments.others, isCast a.1 = false := by
  cases arguments with
  | nil => exact h
  | cons a rest =>
    rw [others]
    split
    · exact h
    · rename_i hcast
      exact List.forall_mem_cons.mpr ⟨by simpa using hcast, h⟩

end Arguments

namespace Schema

variable {field : String} {arguments : Arguments}

lemma refuseCasts_eq_ok (h : ∀ a ∈ arguments, isCast a.1 = false) :
    refuseCasts field arguments = .ok () := by
  induction arguments with
  | nil => rfl
  | cons a rest ih =>
    obtain ⟨hcast, hrest⟩ := List.forall_mem_cons.mp h
    rw [refuseCasts, hcast]
    exact ih hrest

lemma isCast_of_refuseCasts (h : refuseCasts field arguments = .ok ()) :
    ∀ a ∈ arguments, isCast a.1 = false := by
  induction arguments with
  | nil => exact List.forall_mem_nil _
  | cons a rest ih =>
    rw [refuseCasts] at h
    split at h
    · obtain ⟨_, _, hthrow⟩ := bind_eq_ok.mp h
      cases hthrow
    · rename_i hcast
      exact List.forall_mem_cons.mpr ⟨by simpa using hcast, ih h⟩

/-- The first cast is refused, whatever stands around it. -/
lemma refuseCasts_eq_error {before after : Arguments} {name : String} {literal : Literal} {v : Value}
    (hbefore : ∀ b ∈ before, isCast b.1 = false) (hcast : isCast name = true)
    (hv : literal.value = .ok v) :
    refuseCasts field (before ++ (name, literal) :: after) =
      .error (.error (.castOrder v field)) := by
  induction before with
  | nil =>
    rw [List.nil_append, refuseCasts, hcast, literalValue_eq_ok hv]
    rfl
  | cons b rest ih =>
    obtain ⟨hb, hrest⟩ := List.forall_mem_cons.mp hbefore
    rw [List.cons_append, refuseCasts, hb]
    exact ih hrest

/-- Where casts are in the first place only, arguments are applied one after the other. -/
lemma applyArguments_eq (schema : Schema) (h : ∀ a ∈ arguments.tail, isCast a.1 = false) :
    schema.applyArguments arguments field = arguments.foldlM (applyArgument field) schema := by
  rw [applyArguments, refuseCasts_eq_ok h]
  rfl

end Schema

/-- What arguments lead to can be told from what each of them leads to alone, behind a cast that
stands first. -/
structure Separate (outcome : Arguments → Except CompileFailure Schema) (arguments : Arguments) :
    Prop where
  succeeds : (∃ s, outcome arguments = .ok s) ↔ (∃ s, outcome arguments.leading = .ok s) ∧
    ∀ a ∈ arguments.others, ∃ s, outcome (arguments.leading ++ [a]) = .ok s
  rules : ∀ s, outcome arguments = .ok s →
    ∃ base added, outcome arguments.leading = .ok base ∧
      List.Forall₂ (fun a more => ∃ t, outcome (arguments.leading ++ [a]) = .ok t ∧
        t.rules = base.rules ++ more) arguments.others added ∧
      s.rules = base.rules ++ added.flatten
  fails : ∀ e, outcome arguments = .error e ↔ outcome arguments.leading = .error e ∨
    (∃ base, outcome arguments.leading = .ok base) ∧
      ∃ before a after, arguments.others = before ++ a :: after ∧
        (∀ b ∈ before, ∃ s, outcome (arguments.leading ++ [b]) = .ok s) ∧
        outcome (arguments.leading ++ [a]) = .error e

namespace Separate

variable {outcome : Arguments → Except CompileFailure Schema} {arguments : Arguments}

/-- Where the leading cast fails, the other arguments fail with it. -/
lemma of_failure {e : CompileFailure}
    (h : ∀ more, more ⊆ arguments.others → outcome (arguments.leading ++ more) = .error e) :
    Separate outcome arguments := by
  have hleading : outcome arguments.leading = .error e := by
    simpa only [List.append_nil] using h [] (List.nil_subset _)
  have hall : outcome arguments = .error e := by
    simpa only [Arguments.leading_append_others] using h _ (List.Subset.refl _)
  constructor <;> simp [hleading, hall]

/-- Arguments without a cast that are applied one after the other, to what the leading cast
makes. -/
lemma of_base {base : Schema} {field : String}
    (hcasts : ∀ a ∈ arguments.others, isCast a.1 = false)
    (h : ∀ more, more ⊆ arguments.others → outcome (arguments.leading ++ more) =
      more.foldlM (Schema.applyArgument field) base) : Separate outcome arguments := by
  have hleading : outcome arguments.leading = .ok base := by
    rw [← List.append_nil arguments.leading]
    exact h [] (List.nil_subset _)
  have hadds : ∀ a ∈ arguments.others, Schema.outline <$> outcome (arguments.leading ++ [a]) =
      base.extended <$> base.kind.adds field a := by
    intro a ha
    have hsub : [a] ⊆ arguments.others := List.cons_subset.mpr ⟨ha, List.nil_subset _⟩
    rw [h [a] hsub, List.foldlM_cons]
    simp only [List.foldlM_nil, bind_pure]
    exact base.applyArgument_outline (hcasts a ha)
  have hall : Schema.outline <$> outcome arguments =
      (fun added => base.extended added.flatten) <$>
        arguments.others.mapM (base.kind.adds field) := by
    rw [← base.foldlM_applyArgument_outline hcasts, ← h _ (List.Subset.refl _),
      Arguments.leading_append_others]
  refine ⟨?_, fun s hs => ?_, fun e => ?_⟩
  · rw [exists_ok_congr hall, exists_mapM_eq_ok, and_iff_right ⟨base, hleading⟩]
    exact forall₂_congr fun a ha => (exists_ok_congr (hadds a ha)).symm
  · rw [hs] at hall
    obtain ⟨added, hadded, hrules⟩ := map_eq_ok.mp hall.symm
    have hparts := (List.forall₂_and_left _ _).mpr ⟨hadds, mapM_eq_ok.mp hadded⟩
    refine ⟨base, added, hleading, hparts.imp ?_, (Prod.mk.inj hrules).2.symm⟩
    rintro a more ⟨halone, hmore⟩
    rw [hmore] at halone
    obtain ⟨t, ht, houtline⟩ := map_eq_ok.mp halone
    exact ⟨t, ht, (Prod.mk.inj houtline).2⟩
  · have hbase : outcome arguments.leading ≠ .error e := by
      rw [hleading]
      exact nofun
    rw [eq_error_congr hall e, mapM_eq_error_iff, or_iff_right hbase,
      and_iff_right ⟨base, hleading⟩]
    refine exists_congr fun before => exists_congr fun a => exists_congr fun after =>
      and_congr_right fun hsplit => ?_
    have ha : a ∈ arguments.others := by simp [hsplit]
    have hbefore : ∀ b ∈ before, b ∈ arguments.others := fun b hb => by simp [hsplit, hb]
    rw [← eq_error_congr (hadds a ha) e]
    refine and_congr_left fun _ => forall₂_congr fun b hb => ?_
    exact (exists_ok_congr (hadds b (hbefore b hb))).symm

end Separate

namespace Literal

/-- A numeral of as many ones. -/
def ones (n : Nat) : Literal := .int (String.ofList (List.replicate n '1'))

/-- Numerals with too many digits are not read. -/
lemma value_ones {n : Nat} (h : integerDigitLimit < n) : (ones n).value = .error .badValue := by
  have hne : List.replicate n '1' ≠ [] := by
    rw [Ne, List.replicate_eq_nil_iff]
    omega
  have hdigit : Unicode.isDigit '1' = true := by decide
  have hdigits : ∀ c ∈ List.replicate n '1', Unicode.isDigit c = true := by
    intro c hc
    rwa [List.eq_of_mem_replicate hc]
  have hlength : integerDigitLimit < (List.replicate n '1').length := by
    rwa [List.length_replicate]
  have hread := (readInteger?_eq_none_iff hne hdigits).mpr (Or.inr hlength)
  rw [ones, value, hread]

end Literal

namespace Compiler

variable {c : Compiler} {type : TypeRef}

lemma freshSchema_of_base (h : type.nesting = 0) (field : String) (arguments : Arguments) :
    c.freshSchema field type arguments =
      (c.freshSchema field type [] >>= fun base => base.applyArguments arguments field) := by
  induction type with
  | nonNull type ih => exact ih h
  | list type ih => cases h
  | named name =>
    rw [freshSchema, freshSchema]
    cases c.freshBase field name <;> rfl

/-- A type that is no list takes the arguments once it is compiled. -/
lemma compile_of_base (h : type.nesting = 0) (arguments : Arguments) (field : String)
    (target : TreeName) (cache : Cache) :
    (c.compile type arguments field target cache).1 =
      (c.compile type [] field target cache).1 >>= fun base =>
        base.applyArguments arguments field := by
  rw [compile_fst, compile_fst, freshSchema_of_base h field arguments, bind_assoc]

/-- The arguments of a directive on a type that is no list are judged one by one. If the type itself
compiles, a cast behind the first argument is refused, whatever the other arguments are. Otherwise
the compilation succeeds if it does with each of the arguments alone, behind a cast that stands
first; the rules are those that each of them adds, in order; and an error is the one of the cast, or
else that of the first argument which fails alone. -/
theorem compile_separately (h : type.nesting = 0) (arguments : Arguments) (field : String)
    (target : TreeName) (cache : Cache) :
    let outcome (arguments : Arguments) := (c.compile type arguments field target cache).1
    (∀ first before name literal after v base,
      arguments = first :: (before ++ (name, literal) :: after) →
      (∀ b ∈ before, isCast b.1 = false) → isCast name = true → literal.value = .ok v →
      outcome [] = .ok base → outcome arguments = .error (.error (.castOrder v field))) ∧
    ((∀ base, outcome [] = .ok base → ∀ a ∈ arguments.tail, isCast a.1 = false) →
      Separate outcome arguments) := by
  intro outcome
  have houtcome : ∀ given, outcome given = outcome [] >>= fun base =>
      base.applyArguments given field := fun given => compile_of_base h given field target cache
  refine ⟨?_, fun hcasts => ?_⟩
  · intro first before name literal after v base hsplit hbefore hcast hv hbase
    rw [houtcome, hbase, hsplit]
    change Schema.applyArguments base _ field = _
    rw [Schema.applyArguments, List.tail_cons, Schema.refuseCasts_eq_error hbefore hcast hv]
    rfl
  · cases htype : outcome [] with
    | error e =>
      have hfails : ∀ given, outcome given = .error e := by
        intro given
        rw [houtcome, htype]
        rfl
      exact .of_failure fun more _ => hfails _
    | ok base =>
      have hothers := Arguments.isCast_of_mem_others (hcasts base htype)
      have hmore : ∀ more, more ⊆ arguments.others → outcome (arguments.leading ++ more) =
          arguments.leading.foldlM (Schema.applyArgument field) base >>= fun s =>
            more.foldlM (Schema.applyArgument field) s := by
        intro more hsub
        have htail : ∀ a ∈ (arguments.leading ++ more).tail, isCast a.1 = false := fun a ha =>
          hothers a (hsub (arguments.tail_leading_append more a ha))
        rw [houtcome, htype, ← List.foldlM_append]
        exact base.applyArguments_eq htail
      cases hfirst : arguments.leading.foldlM (Schema.applyArgument field) base with
      | error e =>
        have hfails : ∀ more, more ⊆ arguments.others →
            outcome (arguments.leading ++ more) = .error e := by
          intro more hsub
          rw [hmore more hsub, hfirst]
          rfl
        exact .of_failure hfails
      | ok s =>
        have happlied : ∀ more, more ⊆ arguments.others → outcome (arguments.leading ++ more) =
            more.foldlM (Schema.applyArgument field) s := by
          intro more hsub
          rw [hmore more hsub, hfirst]
          rfl
        exact .of_base hothers happlied

/-- Days from now on, given as texts. -/
theorem compile_separately_days :
    let c : Compiler := ⟨[], "validate"⟩
    let outcome (arguments : Arguments) :=
      (c.compile (.named "String") arguments "day" (.shared "args") .empty).1
    let cast := ("type", Literal.enum "DATE")
    let lower := ("dateMin", Literal.string "now")
    let flag := ("iso", Literal.boolean true)
    let size := ("arrayMax", Literal.int "3")
    outcome [lower, cast, size] = .error (.error (.castOrder (.str "DATE") "day")) ∧
      (∃ s, outcome [cast, lower, flag, lower] = .ok s ∧
        s.rules = [.date ⟨.min, .now⟩, .date ⟨.min, .now⟩]) ∧
      outcome [cast, flag, size, ("unit", .null)] =
        .error (.error (.onlyForLists "arrayMax" "day" (some "date"))) := by
  intro c outcome cast lower flag size
  have hseparate (arguments : Arguments) := @compile_separately c (.named "String") rfl arguments
    "day" (.shared "args") .empty
  refine ⟨?_, ?_, ?_⟩
  · exact (hseparate [lower, cast, size]).1 lower [] "type" (.enum "DATE") [size] (.str "DATE") _ rfl
      nofun rfl rfl rfl
  · have h := (hseparate [cast, lower, flag, lower]).2 fun _ _ => by decide
    have halone : ∀ a ∈ [lower, flag, lower], ∃ s, outcome [cast, a] = .ok s := by
      simp only [List.forall_mem_cons]
      exact ⟨⟨_, rfl⟩, ⟨_, rfl⟩, ⟨_, rfl⟩, nofun⟩
    obtain ⟨s, hs⟩ := h.succeeds.mpr ⟨⟨_, rfl⟩, halone⟩
    refine ⟨s, hs, ?_⟩
    cases hs
    rfl
  · have h := (hseparate [cast, flag, size, ("unit", .null)]).2 fun _ _ => by decide
    have hflag : ∀ b ∈ [flag], ∃ s, outcome [cast, b] = .ok s :=
      List.forall_mem_singleton.mpr ⟨_, rfl⟩
    exact (h.fails _).mpr
      (.inr ⟨⟨_, rfl⟩, [flag], size, [("unit", .null)], rfl, hflag, rfl⟩)

/-- A cast in the wrong place is refused with its value, so it has to have one. -/
theorem not_castOrder_of_misplaced :
    ¬∀ (c : Compiler) (type : TypeRef) (arguments : Arguments) (field : String)
        (target : TreeName) (cache : Cache) (first : String × Literal) (before : Arguments)
        (name : String) (literal : Literal) (after : Arguments) (base : Schema),
      type.nesting = 0 → arguments = first :: (before ++ (name, literal) :: after) →
      (∀ b ∈ before, isCast b.1 = false) → isCast name = true →
      (c.compile type [] field target cache).1 = .ok base →
      ∃ v, (c.compile type arguments field target cache).1 =
        .error (.error (.castOrder v field)) := by
  intro h
  have hfault : ∀ literal : Literal, literal.value = .error .badValue →
      (compile ⟨[], "validate"⟩ (.named "Int") [("max", .int "1"), ("type", literal)] "count"
        (.shared "args") .empty).1 = .error (.fault .badValue) := by
    intro literal hliteral
    rw [compile_of_base rfl]
    change Schema.applyArguments (.number .plain [.integer] false) _ "count" = _
    rw [Schema.applyArguments, List.tail_cons, Schema.refuseCasts, Schema.literalValue, hliteral]
    rfl
  have hlimit : integerDigitLimit < 4301 := by decide
  obtain ⟨v, hv⟩ := h ⟨[], "validate"⟩ (.named "Int") [("max", .int "1"), ("type", .ones 4301)]
    "count" (.shared "args") .empty ("max", .int "1") [] "type" (.ones 4301) []
    (.number .plain [.integer] false) rfl rfl (List.forall_mem_nil _) rfl rfl
  cases (hfault (.ones 4301) (Literal.value_ones hlimit)).symm.trans hv

end Compiler

end InputGuard
