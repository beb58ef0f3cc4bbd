import InputGuard.Proofs.CompilationCalls
import InputGuard.Proofs.CompilationErrors

/-!
# Arguments of lists

The arguments of a directive on a list are about the list or about its elements. They are divided
between the two, each part in its order, and it does not matter how the parts are mixed. The elements
come first: they are compiled as if there were no lists around them. Then the arguments about arrays
are applied to the outermost list, and lists inside it have no rules.
-/

namespace InputGuard

namespace Arguments

/-- The arguments about arrays themselves, which go to the outermost list. -/
def forArray (arguments : Arguments) : Arguments := arguments.filter fun a => isArrayScoped a.1

/-- The other arguments, which go to the elements. -/
def forElement (arguments : Arguments) : Arguments := arguments.filter fun a => !isArrayScoped a.1

lemma forArray_forElement (arguments : Arguments) : arguments.forElement.forArray = [] := by
  simp [forArray, forElement, List.filter_filter]

lemma isCast_of_mem_forArray {arguments : Arguments} {a : String × Literal}
    (h : a ∈ arguments.forArray) : isCast a.1 = false := by
  have hscoped : isArrayScoped a.1 = true := (List.mem_filter.mp h).2
  simp only [isArrayScoped, Bool.and_eq_true, Bool.not_eq_true'] at hscoped
  exact hscoped.1

end Arguments

namespace Schema

variable {field : String}

/-- A schema inside as many arrays, none of which has rules. -/
def nested : Nat → Schema → Schema
  | 0, schema => schema
  | depth + 1, schema => .arrayOf .plain [] (schema.nested depth)

/-- A schema of arrays with a schema for the items. -/
def IsArrayOf (item schema : Schema) : Prop := ∃ settings rules, schema = .arrayOf settings rules item

lemma IsArrayOf.refines {item schema s : Schema} (harray : item.IsArrayOf schema)
    (h : schema.Refines s) : item.IsArrayOf s := by
  obtain ⟨settings, rules, rfl⟩ := harray
  cases h with
  | settings => exact ⟨_, rules, rfl⟩
  | arrayOf _ _ _ rule => exact ⟨settings, rules ++ [rule], rfl⟩

/-- Arguments without casts never touch the schema of the items. -/
lemma IsArrayOf.applyArguments {item schema s : Schema} {arguments : Arguments}
    (harray : item.IsArrayOf schema) (hcasts : ∀ a ∈ arguments, isCast a.1 = false)
    (h : schema.applyArguments arguments field = .ok s) : item.IsArrayOf s := by
  apply applyArguments_keeps item.IsArrayOf ?_ harray h
  intro t argument hargument u ht hu
  rcases applyArgument_cases hu with ⟨hcast, -⟩ | ⟨-, rfl | hrefines⟩
  · rw [hcasts argument hargument] at hcast
    cases hcast
  · exact ht
  · exact ht.refines hrefines

end Schema

namespace Compiler

variable {c : Compiler} {field : String} {ref : TypeRef}

/-- Without arguments about arrays, the lists are only put around the elements. -/
lemma freshSchema_of_elements {arguments : Arguments} (h : arguments.forArray = []) :
    c.freshSchema field ref arguments =
      Schema.nested ref.nesting <$> c.freshSchema field (.named ref.base) arguments := by
  induction ref with
  | nonNull type ih => exact ih
  | list type ih =>
    have helements : arguments.filter (fun a => !isArrayScoped a.1) = arguments := by
      simpa [Arguments.forArray] using h
    have harray : arguments.filter (fun a => isArrayScoped a.1) = [] := h
    rw [freshSchema, helements, harray, ih, TypeRef.base, TypeRef.nesting]
    cases c.freshSchema field (.named type.base) arguments <;> rfl
  | named name => exact (id_map _).symm

/-- A list takes its own arguments once its elements are made, however deep they are. -/
lemma freshSchema_of_nesting (h : 0 < ref.nesting) (arguments : Arguments) :
    c.freshSchema field ref arguments =
      (c.freshSchema field (.named ref.base) arguments.forElement >>= fun element =>
        (Schema.nested ref.nesting element).applyArguments arguments.forArray field) := by
  induction ref with
  | nonNull type ih => exact ih h
  | list type ih =>
    have hitem : c.freshSchema field type arguments.forElement =
        Schema.nested type.nesting <$> c.freshSchema field (.named type.base) arguments.forElement :=
      freshSchema_of_elements arguments.forArray_forElement
    rw [freshSchema]
    change (c.freshSchema field type arguments.forElement >>= fun item =>
      (Schema.arrayOf .plain [] item).applyArguments arguments.forArray field) = _
    rw [hitem, TypeRef.base, TypeRef.nesting]
    cases c.freshSchema field (.named type.base) arguments.forElement <;> rfl
  | named name => cases h

/-- A compilation of a list is one of its elements with the arguments that are not about arrays, and
then the other arguments are applied to the outermost of as many arrays as there are lists. An error
of the elements is the error of the list, the arrays inside the outermost one have no rules, and only
the two parts of the arguments matter, not how they are mixed. -/
theorem compile_list (h : 0 < ref.nesting) (arguments : Arguments) (field : String)
    (target spare : TreeName) (cache : Cache) :
    let element := (c.compile (.named ref.base) arguments.forElement field spare cache).1
    let list := (c.compile ref arguments field target cache).1
    (list = element >>= fun s =>
        (Schema.nested ref.nesting s).applyArguments arguments.forArray field) ∧
      (∀ e, element = .error e → list = .error e) ∧
      (∀ schema, list = .ok schema → ∃ s settings rules, element = .ok s ∧
        schema = .arrayOf settings rules (Schema.nested (ref.nesting - 1) s)) ∧
      ∀ other : Arguments, other.forElement = arguments.forElement →
        other.forArray = arguments.forArray →
          c.compile ref other field target cache = c.compile ref arguments field target cache := by
  intro element list
  have hlist : list = element >>= fun s =>
      (Schema.nested ref.nesting s).applyArguments arguments.forArray field := by
    simp only [list, element, compile_fst, TypeRef.base, freshSchema_of_nesting h, bind_assoc]
  refine ⟨hlist, fun e he => ?_, fun schema hschema => ?_, fun other helement harray => ?_⟩
  · rw [hlist, he]
    rfl
  · rw [hlist] at hschema
    obtain ⟨s, hs, happly⟩ := bind_eq_ok.mp hschema
    obtain ⟨depth, hdepth⟩ : ∃ depth, ref.nesting = depth + 1 := ⟨ref.nesting - 1, by omega⟩
    have harray : (Schema.nested depth s).IsArrayOf (Schema.nested ref.nesting s) :=
      ⟨.plain, [], by rw [hdepth]; rfl⟩
    obtain ⟨settings, rules, rfl⟩ := harray.applyArguments
      (fun _ ha => Arguments.isCast_of_mem_forArray ha) happly
    exact ⟨s, settings, rules, hs, by rw [hdepth]; rfl⟩
  · rw [compile_eq, compile_eq, freshSchema_of_nesting h other, freshSchema_of_nesting h arguments,
      helement, harray]

/-- Rows of numbers between bounds. The arguments about the rows and those about the numbers may be
mixed. -/
theorem compile_list_rows :
    let ref : TypeRef := .nonNull (.list (.list (.nonNull (.named "Int"))))
    let mixed : Arguments :=
      [("min", .int "0"), ("arrayMax", .int "3"), ("max", .int "9"), ("unique", .object [])]
    let parted : Arguments :=
      [("arrayMax", .int "3"), ("unique", .object []), ("min", .int "0"), ("max", .int "9")]
    let c : Compiler := ⟨[], "validate"⟩
    0 < ref.nesting ∧
      c.compile ref mixed "rows" (.shared "args") .empty =
        c.compile ref parted "rows" (.shared "args") .empty ∧
      (c.compile ref mixed "rows" (.shared "args") .empty).1 =
        .ok (.arrayOf .plain [.size .max 3, .unique .whole] (.arrayOf .plain []
          (.number .plain [.integer, .bound .min (.int 0), .bound .max (.int 9)] false))) := by
  intro ref mixed parted c
  obtain ⟨hlist, -, -, hsame⟩ := @compile_list c ref Nat.two_pos parted "rows" (.shared "args")
    (.shared "spare") .empty
  have hmixed := hsame mixed rfl rfl
  refine ⟨Nat.two_pos, hmixed, ?_⟩
  rw [hmixed, hlist]
  rfl

end Compiler

end InputGuard
