import InputGuard.Directive.Literal
import InputGuard.Guard.Declaration
import InputGuard.Proofs.Lookup
import InputGuard.Proofs.Outcomes

/-!
# Values of declared types

The declaration of the directive gives its arguments types. A literal fits a type if it may be
written for an argument of that type: null unless a value is required, a single item in place of a
list of one, for an input type an object with only declared fields and with all required ones.
What the value of such a literal can be is read off its type.
-/

namespace InputGuard

open Declaration

namespace DeclaredType

def isRequired : DeclaredType → Bool
  | required _ => true
  | _ => false

/-- The type without lists and requirements. -/
@[simp] def core : DeclaredType → DeclaredType
  | list item => item.core
  | required type => type.core
  | type => type

/-- The type of the items of a list. -/
@[simp] def item? : DeclaredType → Option DeclaredType
  | list item => some item
  | required type => type.item?
  | _ => none

/-- The symbols of an enumeration. -/
def symbols : DeclaredType → List String
  | helper name => (lookup? name enums).getD []
  | _ => []

/-- The fields of an input type. -/
def fields? : DeclaredType → Option DeclaredFields
  | helper name => lookup? name inputs
  | _ => none

end DeclaredType

/-- Whether an integer has no more than 32 bits. -/
def isShort (n : Int) : Bool := decide (-2147483648 ≤ n ∧ n < 2147483648)

namespace Literal

mutual

@[simp] def fits : Literal → DeclaredType → Bool
  | .null, type => !type.isRequired
  | .boolean _, type => type.core == .scalar "Boolean"
  | .int text, type =>
    type.core == .scalar "Float" ||
      (type.core == .scalar "Int" && ((readInteger? text).map isShort).getD false)
  | .float _, type => type.core == .scalar "Float"
  | .string _, type => type.core == .scalar "String"
  | .enum symbol, type => type.core.symbols.contains symbol
  | .list items, type =>
    match type.item? with
    | some item => fitsAll items item
    | none => false
  | .object fields, type =>
    match type.core.fields? with
    | some declared =>
      fitsFields fields declared && declared.all fun d => !d.2.isRequired || hasKey d.1 fields
    | none => false
  | .var _, _ => false

def fitsAll : List Literal → DeclaredType → Bool
  | [], _ => true
  | item :: rest, type => item.fits type && fitsAll rest type

/-- Whether fields are declared and fit their types. -/
def fitsFields : List (String × Literal) → DeclaredFields → Bool
  | [], _ => true
  | (name, item) :: rest, declared =>
    (match lookup? name declared with
      | some type => item.fits type
      | none => false) && fitsFields rest declared

end

variable {literal : Literal} {type : DeclaredType}

lemma fits_required (h : literal.fits (.required type) = true) : literal.fits type = true := by
  cases literal with
  | null => cases h
  | _ => exact h

lemma mem_of_fitsAll {items : List Literal} (h : fitsAll items type = true) :
    ∀ item ∈ items, item.fits type = true := by
  induction items with
  | nil => exact fun item hitem => nomatch hitem
  | cons item rest ih =>
    rw [fitsAll, Bool.and_eq_true] at h
    exact List.forall_mem_cons.mpr ⟨h.1, ih h.2⟩

lemma mem_of_values {items : List Literal} {vs : List Value} (h : values items = .ok vs) :
    ∀ v ∈ vs, ∃ item ∈ items, item.value = .ok v := by
  induction items generalizing vs with
  | nil =>
    cases h
    exact fun v hv => nomatch hv
  | cons item rest ih =>
    obtain ⟨w, hw, hrest⟩ := bind_eq_ok.mp h
    obtain ⟨ws, hws, hpure⟩ := bind_eq_ok.mp hrest
    cases pure_eq_ok.mp hpure
    intro v hv
    rcases List.mem_cons.mp hv with rfl | hv
    · exact ⟨item, List.mem_cons_self, hw⟩
    · obtain ⟨other, hmem, hvalue⟩ := ih hws v hv
      exact ⟨other, List.mem_cons_of_mem _ hmem, hvalue⟩

lemma entries_cons {name : String} {item : Literal} {rest : List (String × Literal)}
    {es : Entries} (h : entries ((name, item) :: rest) = .ok es) :
    ∃ v more, item.value = .ok v ∧ entries rest = .ok more ∧ es = (name, v) :: more := by
  obtain ⟨v, hv, hrest⟩ := bind_eq_ok.mp h
  obtain ⟨more, hmore, hpure⟩ := bind_eq_ok.mp hrest
  exact ⟨v, more, hv, hmore, (pure_eq_ok.mp hpure).symm⟩

lemma hasKey_of_entries {fields : List (String × Literal)} {es : Entries}
    (h : entries fields = .ok es) (key : String) : hasKey key es = hasKey key fields := by
  induction fields generalizing es with
  | nil =>
    cases h
    rfl
  | cons field rest ih =>
    obtain ⟨name, item⟩ := field
    obtain ⟨v, more, _, hmore, rfl⟩ := entries_cons h
    have hrest := ih hmore
    unfold hasKey at hrest ⊢
    by_cases hname : name = key <;> simp [lookup?, hname, hrest]

end Literal

lemma mem_insertKey {α : Type} {key : String} {v : α} {entries : List (String × α)}
    {entry : String × α} (h : entry ∈ insertKey key v entries) :
    entry = (key, v) ∨ entry ∈ entries := by
  induction entries with
  | nil => exact Or.inl (List.mem_singleton.mp h)
  | cons first rest ih =>
    rw [insertKey] at h
    split at h
    · exact (List.mem_cons.mp h).imp_right (List.mem_cons_of_mem _)
    · rcases List.mem_cons.mp h with rfl | h
      · exact Or.inr List.mem_cons_self
      · exact (ih h).imp_right (List.mem_cons_of_mem _)

lemma mem_insertKeys {α : Type} {entries new : List (String × α)} {entry : String × α}
    (h : entry ∈ insertKeys entries new) : entry ∈ new ∨ entry ∈ entries := by
  induction new generalizing entries with
  | nil => exact Or.inr h
  | cons first rest ih =>
    rcases ih h with hmem | hmem
    · exact Or.inl (List.mem_cons_of_mem _ hmem)
    · rcases mem_insertKey hmem with rfl | hold
      · exact Or.inl List.mem_cons_self
      · exact Or.inr hold

lemma hasKey_insertKeys {α : Type} {key : String} {entries new : List (String × α)}
    (h : hasKey key new = true ∨ hasKey key entries = true) :
    hasKey key (insertKeys entries new) = true := by
  induction new generalizing entries with
  | nil => exact h.resolve_left Bool.false_ne_true
  | cons entry rest ih =>
    refine ih ?_
    rw [hasKey_insertKey]
    by_cases hkey : entry.1 = key
    · exact Or.inr (Or.inl hkey)
    · refine h.imp (fun hnew => ?_) Or.inr
      simpa [hasKey, lookup?, hkey] using hnew

/-- A value of a type is the value of a literal that fits it. -/
def DeclaredType.Has (type : DeclaredType) (v : Value) : Prop :=
  ∃ literal : Literal, literal.fits type = true ∧ literal.value = .ok v

namespace DeclaredType.Has

variable {type : DeclaredType} {v : Value} {name : String} {declared : DeclaredFields}

lemma of_required (h : (required type).Has v) : type.Has v := by
  obtain ⟨literal, hfits, hvalue⟩ := h
  exact ⟨literal, Literal.fits_required hfits, hvalue⟩

lemma ne_null (h : (required type).Has v) : v ≠ .null := by
  rintro rfl
  obtain ⟨literal, hfits, hvalue⟩ := h
  cases literal with
  | null | var => cases hfits
  | int | float =>
    simp only [Literal.value] at hvalue
    split at hvalue <;> cases hvalue
  | list | object =>
    obtain ⟨_, _, hpure⟩ := bind_eq_ok.mp hvalue
    cases pure_eq_ok.mp hpure
  | _ => cases hvalue

lemma string (h : (scalar "String").Has v) : v = .null ∨ ∃ s, v = .str s := by
  obtain ⟨literal, hfits, hvalue⟩ := h
  cases literal with
  | null => exact Or.inl (Except.ok.inj hvalue).symm
  | string s => exact Or.inr ⟨s, (Except.ok.inj hvalue).symm⟩
  | _ => simp [symbols, fields?] at hfits

lemma symbol (hfields : (helper name).fields? = none) (h : (helper name).Has v) :
    v = .null ∨ ∃ s ∈ (helper name).symbols, v = .str s := by
  obtain ⟨literal, hfits, hvalue⟩ := h
  cases literal with
  | null => exact Or.inl (Except.ok.inj hvalue).symm
  | enum s => exact Or.inr ⟨s, List.contains_iff_mem.mp hfits, (Except.ok.inj hvalue).symm⟩
  | _ => simp [hfields] at hfits

/-- A list may be given by its only item. -/
lemma list (h : (DeclaredType.list type).Has v) :
    v = .null ∨ (∃ items, v = .list items ∧ ∀ w ∈ items, type.Has w) ∨ type.Has v := by
  obtain ⟨literal, hfits, hvalue⟩ := h
  cases literal with
  | null => exact Or.inl (Except.ok.inj hvalue).symm
  | list items =>
    obtain ⟨vs, hvs, hpure⟩ := bind_eq_ok.mp hvalue
    refine Or.inr (Or.inl ⟨vs, (pure_eq_ok.mp hpure).symm, fun w hw => ?_⟩)
    obtain ⟨item, hmem, hitem⟩ := Literal.mem_of_values hvs w hw
    exact ⟨item, Literal.mem_of_fitsAll hfits item hmem, hitem⟩
  | _ => exact Or.inr (Or.inr ⟨_, hfits, hvalue⟩)

lemma of_fitsFields {fields : List (String × Literal)} {es : Entries}
    (h : Literal.fitsFields fields declared = true) (hes : Literal.entries fields = .ok es) :
    ∀ k w, (k, w) ∈ es → ∃ t, lookup? k declared = some t ∧ t.Has w := by
  induction fields generalizing es with
  | nil =>
    cases hes
    exact fun k w hw => nomatch hw
  | cons field rest ih =>
    obtain ⟨name, item⟩ := field
    obtain ⟨v, more, hv, hmore, rfl⟩ := Literal.entries_cons hes
    rw [Literal.fitsFields, Bool.and_eq_true] at h
    intro k w hw
    rcases List.mem_cons.mp hw with he | hw
    · cases he
      cases hlook : lookup? name declared with
      | none => simp [hlook] at h
      | some t => exact ⟨t, rfl, item, by simpa [hlook] using h.1, hv⟩
    · exact ih h.2 hmore k w hw

/-- An object of an input type has its required fields, and others only if they are declared. -/
lemma input (hfields : (helper name).fields? = some declared)
    (hsymbols : (helper name).symbols = []) (h : (helper name).Has v) :
    v = .null ∨ ∃ entries, v = .object entries ∧
      (∀ k w, (k, w) ∈ entries → ∃ t, lookup? k declared = some t ∧ t.Has w) ∧
        ∀ k t, (k, required t) ∈ declared → hasKey k entries = true := by
  obtain ⟨literal, hfits, hvalue⟩ := h
  cases literal with
  | null => exact Or.inl (Except.ok.inj hvalue).symm
  | object fields =>
    obtain ⟨es, hes, hpure⟩ := bind_eq_ok.mp hvalue
    simp only [Literal.fits, core, hfields, Bool.and_eq_true] at hfits
    refine Or.inr ⟨insertKeys [] es, (pure_eq_ok.mp hpure).symm, fun k w hw => ?_, fun k t ht => ?_⟩
    · rcases mem_insertKeys hw with hmem | hnil
      · exact of_fitsFields hfits.1 hes k w hmem
      · cases hnil
    · have hgiven := List.all_eq_true.mp hfits.2 _ ht
      refine hasKey_insertKeys (Or.inl ?_)
      rw [Literal.hasKey_of_entries hes]
      simpa [isRequired] using hgiven
  | _ => simp [hsymbols] at hfits

end DeclaredType.Has

end InputGuard
