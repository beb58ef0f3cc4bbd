import InputGuard.Proofs.Lookup
import Mathlib.Data.Finset.Card
import Mathlib.Data.List.Induction

/-!
# Histories of a cache

What can be said of a cache from the operations on it alone, whatever they are: which types have a
tree, what is in the trees, and which types are being filled. Trees stay in the place where they
were made. A fill ends with the first exit of its type, so only where no type is entered again
while it is being filled are the types being filled those of the open fills.
-/

namespace InputGuard

/-- The type of which an operation makes sure that it has a tree. -/
def CacheEvent.type? : CacheEvent → Option String
  | reserve type | put type _ _ | enter type => some type
  | get _ | exit _ _ => none

/-- Whether an operation starts or ends the filling of a type. -/
def CacheEvent.marks (type : String) : CacheEvent → Bool
  | enter other | exit other _ => other == type
  | reserve _ | put _ _ _ | get _ => false

/-- The last operation that starts or ends the filling of a type. -/
def lastMark? (type : String) (events : List CacheEvent) : Option CacheEvent :=
  events.reverse.find? (·.marks type)

/-- The types that operations make sure of. -/
def eventTypes (events : List CacheEvent) : List String := events.filterMap CacheEvent.type?

/-- The fills that are open after some operations, the innermost first. An exit leaves the innermost
one. -/
inductive Opens : List CacheEvent → List String → Prop
  | nil : Opens [] []
  | enter {events : List CacheEvent} {fills : List String} {type : String} :
    Opens events fills → Opens (events ++ [.enter type]) (type :: fills)
  | exit {events : List CacheEvent} {fills : List String} {type : String} {byError : Bool} :
    Opens events (type :: fills) → Opens (events ++ [.exit type byError]) fills
  | other {events : List CacheEvent} {fills : List String} {event : CacheEvent} :
    Opens events fills → (∀ type, event.marks type = false) → Opens (events ++ [event]) fills

/-- No type is entered while it is being filled. -/
def EntersOnce (events : List CacheEvent) : Prop :=
  ∀ before type after, events = before ++ .enter type :: after →
    (Cache.ofEvents before).isFilling type = false

namespace Store

/-- The names of the trees, in the order in which the trees were made. -/
def names (store : Store) : List TreeName := store.trees.map (·.1)

variable (store : Store) (name : TreeName)

lemma names_set (tree : Tree) :
    (store.set name tree).names = if store.has name then store.names else store.names ++ [name] := by
  unfold Store.set names
  split
  · rw [List.map_map]
    refine List.map_congr_left fun e _ => ?_
    by_cases he : e.1 = name <;> simp [he]
  · simp

lemma names_reserve :
    (store.reserve name).names =
      if store.has name then store.names else store.names ++ [name] := by
  by_cases h : store.has name = true
  · simp [reserve, h]
  · rw [reserve, if_neg h, names_set]

lemma names_put_reserve (key : String) (schema : Schema) :
    ((store.reserve name).put name key schema).names = (store.reserve name).names := by
  have hhas : (store.reserve name).has name = true := (store.has_reserve name name).mpr (Or.inl rfl)
  rw [put, names_set, if_pos hhas]

end Store

namespace Cache

variable {cache : Cache} {event : CacheEvent} {events : List CacheEvent} {type other : String}

lemma ofEvents_append (events : List CacheEvent) (event : CacheEvent) :
    ofEvents (events ++ [event]) = (ofEvents events).act event := by
  simp [ofEvents]

lemma store_enter (cache : Cache) (type : String) :
    (cache.enter type).store = cache.store.reserve (.input type) := by
  unfold enter
  dsimp only
  split <;> rfl

/-- An operation makes a tree if it is about a type that has none, and puts it behind the others. -/
lemma names_act (cache : Cache) (event : CacheEvent) :
    (cache.act event).store.names =
      match event.type? with
      | some type =>
        if cache.contains type then cache.store.names else cache.store.names ++ [.input type]
      | none => cache.store.names := by
  cases event with
  | reserve type => exact cache.store.names_reserve (.input type)
  | put type key schema =>
    exact (cache.store.names_put_reserve (.input type) key schema).trans
      (cache.store.names_reserve (.input type))
  | enter type =>
    rw [act, store_enter]
    exact cache.store.names_reserve (.input type)
  | get type | exit type byError => rfl

lemma contains_iff_mem : cache.contains type = true ↔ .input type ∈ cache.store.names :=
  cache.store.has_iff_mem (.input type)

lemma eraseDups_append_singleton (types : List String) (type : String) :
    (types ++ [type]).eraseDups =
      if type ∈ types then types.eraseDups else types.eraseDups ++ [type] := by
  rw [List.eraseDups_append]
  by_cases h : type ∈ types
  · simp [List.removeAll, h]
  · simp [List.removeAll, h, List.eraseDups_cons]

lemma length_eraseDups (types : List String) : types.eraseDups.length = types.toFinset.card := by
  induction types using List.reverseRecOn with
  | nil => rfl
  | append_singleton types type ih =>
    rw [eraseDups_append_singleton, List.toFinset_append, List.toFinset_cons, List.toFinset_nil,
      Finset.union_insert, Finset.union_empty]
    by_cases h : type ∈ types
    · rw [if_pos h, ih, Finset.insert_eq_of_mem (List.mem_toFinset.mpr h)]
    · have hnew : type ∉ types.toFinset := mt List.mem_toFinset.mp h
      rw [if_neg h, List.length_append, ih, Finset.card_insert_of_notMem hnew, List.length_singleton]

lemma eventTypes_append (events : List CacheEvent) (event : CacheEvent) :
    eventTypes (events ++ [event]) = eventTypes events ++ event.type?.toList := by
  rw [eventTypes, List.filterMap_append, eventTypes]
  cases h : event.type? <;> simp [h]

/-- The trees are those of the types that the operations are about, in the order in which these came
up. -/
lemma names_ofEvents (events : List CacheEvent) :
    (ofEvents events).store.names = (eventTypes events).eraseDups.map .input := by
  induction events using List.reverseRecOn with
  | nil => rfl
  | append_singleton events event ih =>
    rw [ofEvents_append, names_act, eventTypes_append]
    cases event.type? with
    | none => simpa using ih
    | some type =>
      have hmem : (ofEvents events).contains type = true ↔ type ∈ eventTypes events := by
        rw [contains_iff_mem, ih]
        simp [List.mem_eraseDups]
      rw [Option.toList_some, eraseDups_append_singleton]
      dsimp only
      by_cases h : type ∈ eventTypes events
      · rw [if_pos (hmem.mpr h), if_pos h, ih]
      · rw [if_neg (mt hmem.mp h), if_neg h, ih, List.map_append]
        rfl

lemma contains_ofEvents :
    (ofEvents events).contains type = true ↔ type ∈ eventTypes events := by
  rw [contains_iff_mem, names_ofEvents]
  simp [List.mem_eraseDups]

lemma types_eq (cache : Cache) :
    cache.types = cache.store.names.filterMap fun
      | .input type => some type
      | _ => none := by
  unfold types Store.names
  rw [List.filterMap_map]
  refine List.filterMap_congr fun e _ => ?_
  obtain ⟨name, tree⟩ := e
  cases name <;> rfl

lemma types_ofEvents (events : List CacheEvent) :
    (ofEvents events).types = (eventTypes events).eraseDups := by
  rw [types_eq, names_ofEvents, List.filterMap_map]
  exact List.filterMap_some

/-- Later operations leave each tree in its place. -/
lemma names_prefix (events more : List CacheEvent) :
    (ofEvents events).store.names <+: (ofEvents (events ++ more)).store.names := by
  induction more using List.reverseRecOn with
  | nil => simp
  | append_singleton more event ih =>
    rw [← List.append_assoc, ofEvents_append, names_act]
    refine ih.trans ?_
    cases event.type? with
    | none => exact List.prefix_rfl
    | some type =>
      dsimp only
      split
      · exact List.prefix_rfl
      · exact List.prefix_append _ _

/-- The only operation that adds to a tree is to put something into it. -/
lemma hasKey_act (cache : Cache) (event : CacheEvent) (type key : String) :
    hasKey key ((cache.act event).store.tree (.input type)) = true ↔
      hasKey key (cache.store.tree (.input type)) = true ∨
        ∃ schema, event = .put type key schema := by
  cases event with
  | reserve other => simp [act, Cache.reserve]
  | enter other => simp [act, store_enter]
  | get other | exit other byError => simp [act, leave]
  | put other k schema =>
    simp only [act, Cache.put, Cache.reserve, Store.hasKey_put, Store.tree_reserve,
      TreeName.input.injEq, CacheEvent.put.injEq]
    constructor
    · rintro (⟨rfl, rfl⟩ | h)
      · exact Or.inr ⟨schema, rfl, rfl, rfl⟩
      · exact Or.inl h
    · rintro (h | ⟨_, rfl, rfl, _⟩)
      · exact Or.inr h
      · exact Or.inl ⟨rfl, rfl⟩

lemma hasKey_ofEvents (events : List CacheEvent) (type key : String) :
    hasKey key ((ofEvents events).store.tree (.input type)) = true ↔
      ∃ schema, .put type key schema ∈ events := by
  induction events using List.reverseRecOn with
  | nil => simp [ofEvents, empty, Store.empty, Store.tree, hasKey, lookup?]
  | append_singleton events event ih =>
    rw [ofEvents_append, hasKey_act, ih]
    simp only [List.mem_append, List.mem_singleton, exists_or]
    exact or_congr Iff.rfl (exists_congr fun _ => eq_comm)

lemma isFilling_enter (cache : Cache) (type other : String) :
    (cache.enter type).isFilling other = true ↔ other = type ∨ cache.isFilling other = true := by
  unfold enter isFilling
  by_cases h : cache.filling.contains type = true
  · have hmem : type ∈ cache.filling := by simpa using h
    simp only [reserve, h, if_true, List.contains_eq_mem, decide_eq_true_iff]
    constructor
    · exact Or.inr
    · rintro (rfl | ho)
      · exact hmem
      · exact ho
  · simp only [reserve, h, if_false, List.contains_eq_mem, decide_eq_true_iff, List.mem_append,
      List.mem_singleton, Bool.false_eq_true]
    exact or_comm

lemma isFilling_leave (cache : Cache) (type other : String) :
    (cache.leave type).isFilling other = true ↔ other ≠ type ∧ cache.isFilling other = true := by
  simp only [leave, isFilling, List.contains_eq_mem, decide_eq_true_iff, List.mem_filter,
    bne_iff_ne]
  exact and_comm

lemma isFilling_of_not_marks (cache : Cache) (h : event.marks type = false) :
    (cache.act event).isFilling type = cache.isFilling type := by
  rw [Bool.eq_iff_iff]
  cases event with
  | reserve other | put other key schema | get other => rfl
  | enter other =>
    have hne : type ≠ other := Ne.symm (by simpa [CacheEvent.marks] using h)
    rw [act, isFilling_enter]
    simp [hne]
  | exit other byError =>
    have hne : type ≠ other := Ne.symm (by simpa [CacheEvent.marks] using h)
    rw [act, isFilling_leave]
    simp [hne]

/-- A type is being filled if the last operation that starts or ends its filling starts it. -/
lemma isFilling_ofEvents (events : List CacheEvent) (type : String) :
    (ofEvents events).isFilling type = true ↔ lastMark? type events = some (.enter type) := by
  induction events using List.reverseRecOn with
  | nil => simp [ofEvents, empty, isFilling, lastMark?]
  | append_singleton events event ih =>
    rw [ofEvents_append, lastMark?, List.reverse_append, List.reverse_singleton,
      List.singleton_append, List.find?_cons]
    cases hmarks : event.marks type with
    | false =>
      rw [isFilling_of_not_marks _ hmarks]
      exact ih
    | true =>
      cases event with
      | reserve other | put other key schema | get other => simp [CacheEvent.marks] at hmarks
      | enter other =>
        obtain rfl : other = type := by simpa [CacheEvent.marks] using hmarks
        simp [act, isFilling_enter]
      | exit other byError =>
        obtain rfl : other = type := by simpa [CacheEvent.marks] using hmarks
        simp [act, isFilling_leave]

lemma mem_of_lastMark? (h : lastMark? type events = some event) : event ∈ events :=
  List.mem_reverse.mp (List.mem_of_find?_eq_some h)

lemma contains_of_isFilling (h : (ofEvents events).isFilling type = true) :
    (ofEvents events).contains type = true := by
  have hmem : .enter type ∈ events := mem_of_lastMark? ((isFilling_ofEvents events type).mp h)
  exact contains_ofEvents.mpr (List.mem_filterMap.mpr ⟨.enter type, hmem, rfl⟩)

lemma entersOnce_nil : EntersOnce [] := by
  intro before type after heq
  simp at heq

/-- Whether no type is entered again can be seen from each operation and the cache before it. -/
lemma entersOnce_append : EntersOnce (events ++ [event]) ↔
    EntersOnce events ∧ ∀ type, event = .enter type → (ofEvents events).isFilling type = false := by
  constructor
  · intro h
    refine ⟨fun before type after heq => ?_, fun type heq => h events type [] (by rw [heq])⟩
    exact h before type (after ++ [event]) (by rw [heq, List.append_assoc, List.cons_append])
  · rintro ⟨h, hlast⟩ before type after heq
    rcases List.append_eq_append_iff.mp heq with ⟨more, rfl, hmore⟩ | ⟨more, rfl, hmore⟩
    · obtain ⟨rfl, hevent⟩ : more = [] ∧ event = .enter type := by
        cases more with
        | nil => exact ⟨rfl, (List.cons.inj hmore).1⟩
        | cons first rest => simp at hmore
      rw [List.append_nil]
      exact hlast type hevent
    · cases more with
      | nil =>
        rw [List.append_nil] at hlast
        exact hlast type (List.cons.inj hmore).1.symm
      | cons first rest =>
        obtain ⟨rfl, _⟩ := List.cons.inj hmore
        exact h before type rest rfl

/-- Where no type is entered while it is being filled, the types being filled are those of the open
fills, each of them once. -/
lemma isFilling_of_opens {fills : List String} (ho : Opens events fills) (he : EntersOnce events) :
    fills.Nodup ∧ ∀ type, (ofEvents events).isFilling type = true ↔ type ∈ fills := by
  induction ho with
  | nil => exact ⟨List.nodup_nil, fun type => by simp [ofEvents, empty, isFilling]⟩
  | @enter events fills type _ ih =>
    obtain ⟨hnodup, hfills⟩ := ih (entersOnce_append.mp he).1
    have hidle : (ofEvents events).isFilling type = false := (entersOnce_append.mp he).2 type rfl
    have hnew : type ∉ fills := fun hmem => by
      rw [(hfills type).mpr hmem] at hidle
      exact Bool.noConfusion hidle
    refine ⟨List.nodup_cons.mpr ⟨hnew, hnodup⟩, fun other => ?_⟩
    rw [ofEvents_append, act, isFilling_enter, hfills, List.mem_cons]
  | @exit events fills type byError _ ih =>
    obtain ⟨hnodup, hfills⟩ := ih (entersOnce_append.mp he).1
    obtain ⟨hnew, hrest⟩ := List.nodup_cons.mp hnodup
    refine ⟨hrest, fun other => ?_⟩
    rw [ofEvents_append, act, isFilling_leave, hfills, List.mem_cons]
    constructor
    · rintro ⟨hne, rfl | hmem⟩
      · exact absurd rfl hne
      · exact hmem
    · intro hmem
      exact ⟨fun heq => hnew (heq ▸ hmem), Or.inr hmem⟩
  | @other events fills event _ hmarks ih =>
    obtain ⟨hnodup, hfills⟩ := ih (entersOnce_append.mp he).1
    refine ⟨hnodup, fun type => ?_⟩
    rw [ofEvents_append, isFilling_of_not_marks _ (hmarks type)]
    exact hfills type

/-- An operation that asks for the tree of a type gets what the store has under its name. -/
lemma answer_tree (cache : Cache) (type : String) :
    (cache.answer (.reserve type)).tree = some (cache.store.tree (.input type)) ∧
      (cache.answer (.enter type)).tree = some (cache.store.tree (.input type)) ∧
      (cache.answer (.get type)).tree =
        if cache.contains type then some (cache.store.tree (.input type)) else none := by
  have hreserve : (cache.reserve type).get? type = some (cache.store.tree (.input type)) := by
    have hhas : ((cache.reserve type).store.get? (.input type)).isSome = true :=
      (cache.store.has_reserve (.input type) (.input type)).mpr (Or.inl rfl)
    obtain ⟨tree, htree⟩ := Option.isSome_iff_exists.mp hhas
    have heq : (cache.reserve type).store.tree (.input type) = cache.store.tree (.input type) :=
      cache.store.tree_reserve (.input type) (.input type)
    rw [Store.tree, htree, Option.getD_some] at heq
    rw [← heq]
    exact htree
  refine ⟨hreserve, ?_, ?_⟩
  · have henter : (cache.enter type).get? type = (cache.reserve type).get? type := by
      rw [get?, store_enter]
      rfl
    exact henter.trans hreserve
  · change cache.store.get? (.input type) = _
    rw [contains, Store.has, Store.tree]
    cases cache.store.get? (.input type) <;> rfl

/-- The cache after any operations, in terms of the operations: which types have trees and how many,
when a tree is new, that trees stay in their places, what is asked for and what its keys are, and
which types are being filled. -/
theorem ofEvents_history (events : List CacheEvent) (type : String) :
    let cache := ofEvents events
    let tree := cache.store.tree (.input type)
    (cache.contains type = true ↔ ∃ event ∈ events, event.type? = some type) ∧
      cache.size = (eventTypes events).toFinset.card ∧
      ((cache.answer (.reserve type)).created = true ↔
        ¬∃ event ∈ events, event.type? = some type) ∧
      (∀ more (place : Nat), cache.store.names[place]? = some (.input type) →
        (ofEvents (events ++ more)).store.names[place]? = some (.input type)) ∧
      ((cache.answer (.reserve type)).tree = some tree ∧
        (cache.answer (.enter type)).tree = some tree ∧
        (cache.answer (.get type)).tree = if cache.contains type then some tree else none) ∧
      (∀ key, hasKey key tree = true ↔ ∃ schema, .put type key schema ∈ events) ∧
      (cache.isFilling type = true → cache.contains type = true) ∧
      (cache.isFilling type = true ↔ lastMark? type events = some (.enter type)) ∧
      ∀ fills, Opens events fills → EntersOnce events →
        (cache.isFilling type = true ↔ type ∈ fills) := by
  intro cache tree
  have hcontains : cache.contains type = true ↔ ∃ event ∈ events, event.type? = some type :=
    contains_ofEvents.trans List.mem_filterMap
  refine ⟨hcontains, ?_, ?_, ?_, answer_tree cache type, hasKey_ofEvents events type,
    contains_of_isFilling, isFilling_ofEvents events type,
    fun fills ho he => (isFilling_of_opens ho he).2 type⟩
  · rw [size, types_ofEvents, length_eraseDups]
  · rw [← hcontains]
    simp [answer]
  · intro more place hplace
    obtain ⟨rest, hrest⟩ := names_prefix events more
    have hlt : place < cache.store.names.length := (List.getElem?_eq_some_iff.mp hplace).1
    rw [← hrest, List.getElem?_append_left hlt]
    exact hplace

/-- The filling of `Query` is still open when that of `Page` has been left because of an error. -/
theorem ofEvents_history_nested :
    let events : List CacheEvent :=
      [.enter "Query", .reserve "Page", .enter "Page", .put "Page" "size" (.any .plain),
        .exit "Page" true, .get "Query"]
    Opens events ["Query"] ∧ EntersOnce events ∧
      (∀ type, (ofEvents events).isFilling type = true ↔ type ∈ ["Query"]) ∧
      (ofEvents events).size = 2 ∧
      ∀ key, hasKey key ((ofEvents events).store.tree (.input "Page")) = true ↔ key = "size" := by
  intro events
  have houter : Opens [.enter "Query", .reserve "Page"] ["Query"] :=
    .other (.enter .nil) fun _ => rfl
  have hinner : Opens (events.take 4) ["Page", "Query"] := .other (.enter houter) fun _ => rfl
  have hopens : Opens events ["Query"] := .other (.exit hinner) fun _ => rfl
  have hquery : EntersOnce [.enter "Query", .reserve "Page"] :=
    entersOnce_append.mpr ⟨entersOnce_append.mpr ⟨entersOnce_nil, fun _ _ => rfl⟩, by simp⟩
  have hpage : EntersOnce (events.take 3) := by
    refine entersOnce_append.mpr ⟨hquery, fun type heq => ?_⟩
    rw [← CacheEvent.enter.inj heq]
    rfl
  have hput : EntersOnce (events.take 4) := entersOnce_append.mpr ⟨hpage, by simp⟩
  have honce : EntersOnce events :=
    entersOnce_append.mpr ⟨entersOnce_append.mpr ⟨hput, by simp⟩, by simp⟩
  refine ⟨hopens, honce, fun type => ?_, ?_, fun key => ?_⟩
  · exact (ofEvents_history events type).2.2.2.2.2.2.2.2 ["Query"] hopens honce
  · exact (ofEvents_history events "Page").2.1
  · refine ((ofEvents_history events "Page").2.2.2.2.2.1 key).trans ?_
    simp [events, eq_comm]

end Cache

end InputGuard
