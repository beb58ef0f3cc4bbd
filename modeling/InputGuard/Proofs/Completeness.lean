import InputGuard.Proofs.CompilationRuns

/-!
# Complete types

What a compilation that succeeds says about the types behind its schema, after any other
compilations on the same cache, failed ones among them. A fill skips the fields that have an entry
already, so it does not look for what a failed compilation has left out behind them.
-/

namespace InputGuard

namespace Compiler

variable {c : Compiler} {call : CompileCall} {schema : Schema} {type : InputType}

/-- From a type that is complete, fields that had no entry lead to complete types. -/
lemma holds_of_lacking {first : Store} {cache : Cache} {ref : TypeRef}
    (hs : c.Settled first cache) (hidle : cache.filling = [])
    (hroot : ∀ root, c.input? ref.base = some root → cache.Holds root)
    (h : c.Lacking first ref type) : cache.Holds type := by
  obtain ⟨root, hr, hpath⟩ := h
  induction hpath with
  | refl => exact hroot root hr
  | @tail type next hp hl ih =>
    obtain ⟨field, hf, hnone, hnext⟩ := hl
    have hd : c.Declares type := (reachable_of_lacking ⟨root, hr, hp⟩).declares
    rcases hs type hd field hf (ih.2 field hf) hnone next hnext with hh | hb
    · exact hh
    · simp [Cache.isFilling, hidle] at hb

namespace Adds

variable {before after : Cache}

lemma holds_lacking (h : c.Adds call before after schema)
    (hl : c.Lacking before.store call.type type) : after.Holds type :=
  holds_of_lacking (h.settled _ (settled_self before)) h.filling h.holds hl

/-- A type that the new schema alone would complete is complete with all that is added. -/
lemma holds_put (h : c.Adds call before after schema)
    (hh : (before.put call.target call.field schema).Holds type) :
    (after.put call.target call.field schema).Holds type := by
  constructor
  · refine (Store.has_put _ _ _ _ _).mpr ?_
    rcases (Store.has_put _ _ _ _ _).mp hh.1 with ht | hold
    · exact Or.inl ht
    · exact Or.inr (h.grows.has _ ((Store.has_reserve _ _ _).mpr (Or.inr hold)))
  · intro f hf
    refine (Store.hasKey_put _ _ _ _ _ _).mpr ?_
    rcases (Store.hasKey_put _ _ _ _ _ _).mp (hh.2 f hf) with hat | hold
    · exact Or.inl hat
    · exact Or.inr (h.grows.hasKey (by simpa using hold))

/-- Nothing but the new schema is added to the tree of a type that is reached only through fields
that had an entry. -/
lemma holds_put_of_not_lacking (h : c.Adds call before after schema) (hd : c.Declares type)
    (hl : ¬c.Lacking before.store call.type type)
    (hh : (after.put call.target call.field schema).Holds type) :
    (before.put call.target call.field schema).Holds type := by
  constructor
  · refine (Store.has_put _ _ _ _ _).mpr ?_
    rcases (Store.has_put _ _ _ _ _).mp hh.1 with htarget | hhas
    · exact Or.inl htarget
    · rcases h.grows.has_new _ hhas with hold | ⟨other, ho, hlo, hname⟩
      · exact (Store.has_reserve _ _ _).mp hold
      · obtain rfl := hd.eq_of_name ho (TreeName.input.inj hname)
        exact absurd hlo hl
  · intro f hf
    refine (Store.hasKey_put _ _ _ _ _ _).mpr ?_
    rcases (Store.hasKey_put _ _ _ _ _ _).mp (hh.2 f hf) with hat | hk
    · exact Or.inl hat
    · right
      simpa using (h.grows.hasKey_iff_of_not hd hl).mp hk

end Adds

/-- If no earlier compilation has failed, then one more that succeeds makes a longer run. -/
lemma run_append_perform {calls : List CompileCall} (hrun : ∃ cache, c.run calls = .ok cache)
    (h : (c.perform (c.after calls) call).1 = .ok schema) :
    c.run (calls ++ [call]) = .ok (c.after (calls ++ [call])) := by
  obtain ⟨before, hbefore⟩ := hrun
  refine run_append_eq_ok.mpr ⟨before, hbefore, step_eq_ok.mpr ?_⟩
  rw [← after_of_run hbefore, after_append]
  exact ⟨⟨schema, h⟩, rfl⟩

/-- What a compilation that succeeds leaves complete, after any others: the types behind fields that
had no entry, and no others, unless by the schema that is stored in the end. If no compilation has
failed, these are all types that it leads to. -/
theorem holds_after_perform (hw : c.graph.WellNamed) (calls : List CompileCall)
    (call : CompileCall) (h : (c.perform (c.after calls) call).1 = .ok schema) :
    (c.after (calls ++ [call])).filling = [] ∧
      (∀ type, c.Reachable call.type type →
        ((c.after (calls ++ [call])).Holds type ↔
          c.Lacking (c.after calls).store call.type type ∨
            ((c.after calls).put call.target call.field schema).Holds type)) ∧
      ((∀ made ∈ calls ++ [call], c.Fits made) → (∃ cache, c.run calls = .ok cache) →
        ∀ type, c.Reachable call.type type → (c.after (calls ++ [call])).Holds type) := by
  obtain ⟨after, hafter, hadds⟩ := perform_ok hw (filling_after hw calls) h
  have hcache : c.after (calls ++ [call]) = after.put call.target call.field schema := by
    rw [after_append, hafter]
  refine ⟨filling_after hw _, fun type hr => ?_, fun hfits hrun type hr => ?_⟩
  · rw [hcache]
    constructor
    · intro hh
      by_cases hl : c.Lacking (c.after calls).store call.type type
      · exact Or.inl hl
      · exact Or.inr (hadds.holds_put_of_not_lacking hr.declares hl hh)
    · rintro (hl | hh)
      · exact holds_put schema (hadds.holds_lacking hl)
      · exact hadds.holds_put hh
  · have hruns := runs_of_run hw (run_append_perform hrun h)
    exact hruns.holds hfits ⟨call, by simp, hr⟩

def outerType (leaf : String) : InputType :=
  ⟨"Outer", [⟨"inner", .named "Inner", []⟩, ⟨"leaf", .named leaf, []⟩], []⟩

def innerType : InputType :=
  ⟨"Inner", [⟨"outer", .named "Outer", []⟩, ⟨"count", .named "Int", []⟩], []⟩

/-- A compiler for two types, where the last field of the outer one is of some scalar type. -/
def ring (leaf : String) : Compiler :=
  ⟨[.input (outerType leaf), .input innerType, .scalar leaf], "validate"⟩

def compileOuter : CompileCall := ⟨.named "Outer", [], "outer", .shared "arguments"⟩

def compileInner : CompileCall := ⟨.named "Inner", [], "inner", .shared "arguments"⟩

lemma ring_wellNamed (leaf : String) (h : leaf ∉ ["Outer", "Inner"]) :
    (ring leaf).graph.WellNamed := by
  simp only [List.mem_cons, List.not_mem_nil, or_false, not_or] at h
  constructor
  · simp [ring, outerType, innerType, TypeDefinition.name, Ne.symm h.1, Ne.symm h.2]
  · intro type ht
    simp only [ring, List.mem_cons, TypeDefinition.input.injEq, reduceCtorEq, List.not_mem_nil,
      or_false] at ht
    rcases ht with rfl | rfl <;> simp [outerType, innerType]
  · intro type ht
    simp [ring] at ht
  · intro type ht
    simp [ring] at ht

lemma ring_fits (leaf : String) : ∀ call ∈ [compileOuter, compileInner], (ring leaf).Fits call := by
  intro call hc
  simp only [List.mem_cons, List.not_mem_nil, or_false] at hc
  rcases hc with rfl | rfl <;> exact nofun

theorem holds_after_ring :
    (ring "Int").graph.WellNamed ∧
      ((ring "Int").perform ((ring "Int").after [compileOuter]) compileInner).1 =
        .ok (.object .plain [] (.input "Inner")) ∧
      (∀ call ∈ [compileOuter, compileInner], (ring "Int").Fits call) ∧
      (∃ cache, (ring "Int").run [compileOuter] = .ok cache) ∧
      ((ring "Int").after [compileOuter, compileInner]).Holds (outerType "Int") := by
  have hw := ring_wellNamed "Int" (by decide)
  refine ⟨hw, rfl, ring_fits "Int", ⟨_, rfl⟩, ?_⟩
  have hall := (holds_after_perform hw [compileOuter] compileInner rfl).2.2 (ring_fits "Int")
    ⟨_, rfl⟩
  exact hall (outerType "Int") (.leads ⟨innerType, rfl, .refl⟩ ⟨_, List.mem_cons_self, rfl⟩)

/-- A compilation that succeeds may leave a type behind it incomplete: the outer type keeps only the
entry that it got before its compilation failed. -/
theorem not_holds_after_failure :
    ¬∀ (c : Compiler) (calls : List CompileCall) (call : CompileCall) (schema : Schema),
      c.graph.WellNamed → (c.perform (c.after calls) call).1 = .ok schema →
      (c.after (calls ++ [call])).filling = [] →
      ∀ type, c.Reachable call.type type → (c.after (calls ++ [call])).Holds type := by
  intro hclaim
  -- The first compilation completes the inner type before it fails at the last field of the outer
  -- one. The second one finds an entry for each field of the inner type, and looks no further.
  have hall := hclaim (ring "Time") [compileOuter] compileInner _
    (ring_wellNamed "Time" (by decide)) rfl rfl
  have hreach : (ring "Time").Reachable compileInner.type (outerType "Time") :=
    .leads ⟨innerType, rfl, .refl⟩ ⟨_, List.mem_cons_self, rfl⟩
  have hleaf := (hall (outerType "Time") hreach).2 ⟨"leaf", .named "Time", []⟩
    (List.mem_cons_of_mem _ List.mem_cons_self)
  exact absurd hleaf (by decide)

end Compiler

end InputGuard
