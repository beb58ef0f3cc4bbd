import InputGuard.Proofs.IsoForms
import InputGuard.Time.Layout
import Mathlib.Data.List.Basic

/-!
# Readings of the common layouts

The numerals of a layout are read in several ways, as a month of one digit is the start of one with
two. The separator after a numeral decides between them, so that a layout reads at most one date
where its separators stand. The layouts with the names of months need blanks between their parts.
-/

namespace InputGuard

open Unicode Reading

namespace Layout

variable {s mid : List Char} {v : ℕ}

lemma mem_digit : (v, mid) ∈ digit s ↔ ∃ c, s = c :: mid ∧ decimalValue? c = some v := by
  cases s with
  | nil => exact iff_of_false List.not_mem_nil nofun
  | cons c rest =>
    unfold digit
    rw [Option.mem_toList, Option.map_eq_some_iff]
    constructor
    · rintro ⟨n, hn, heq⟩
      obtain ⟨rfl, rfl⟩ := Prod.mk.inj heq
      exact ⟨c, rfl, hn⟩
    · rintro ⟨d, hs, hd⟩
      obtain ⟨rfl, rfl⟩ := List.cons.inj hs
      exact ⟨v, hd, rfl⟩

lemma mem_basicDigit {lo hi : Char} : (v, mid) ∈ basicDigit lo hi s ↔
    ∃ c, s = c :: mid ∧ (lo.toNat ≤ c.toNat ∧ c.toNat ≤ hi.toNat) ∧ v = c.toNat - 48 := by
  refine mem_bind.trans ⟨?_, ?_⟩
  · rintro ⟨c, rest, hc, hv⟩
    obtain ⟨rfl, hrange⟩ := mem_charThat.mp hc
    obtain ⟨rfl, rfl⟩ := mem_pure.mp hv
    rw [Bool.and_eq_true, decide_eq_true_iff, decide_eq_true_iff] at hrange
    exact ⟨c, rfl, hrange, rfl⟩
  · rintro ⟨c, rfl, hrange, rfl⟩
    refine ⟨c, mid, mem_charThat.mpr ⟨rfl, ?_⟩, mem_pure.mpr ⟨rfl, rfl⟩⟩
    rw [Bool.and_eq_true, decide_eq_true_iff, decide_eq_true_iff]
    exact hrange

lemma mem_twoDigits {first second : Reading ℕ} : (v, mid) ∈ twoDigits first second s ↔
    ∃ a b rest, (a, rest) ∈ first s ∧ (b, mid) ∈ second rest ∧ v = 10 * a + b := by
  refine mem_bind.trans ⟨?_, ?_⟩
  · rintro ⟨a, rest, ha, h⟩
    obtain ⟨b, rest', hb, hv⟩ := mem_bind.mp h
    obtain ⟨rfl, rfl⟩ := mem_pure.mp hv
    exact ⟨a, b, rest, ha, hb, rfl⟩
  · rintro ⟨a, b, rest, ha, hb, rfl⟩
    exact ⟨a, rest, ha, mem_bind.mpr ⟨b, mid, hb, mem_pure.mpr ⟨rfl, rfl⟩⟩⟩

lemma digitsValue_single (a : Char) : digitsValue [a] = a.toNat - 48 := by
  rw [digitsValue_cons]
  exact Nat.mul_one _

lemma digitsValue_pair (a b : Char) :
    digitsValue [a, b] = 10 * (a.toNat - 48) + (b.toNat - 48) := by
  rw [digitsValue_cons, digitsValue_single, Nat.mul_comm]
  rfl

/-- A reading finds the numerals of a kind at the start of a text. Other decimal digits than those
of the basic Latin block are left open. -/
structure Numbers (r : Reading ℕ) (kind : List Char → Prop) : Prop where
  sound : ∀ {s mid : List Char} {v : ℕ}, (v, mid) ∈ r s → s.head? ≠ some ' ' →
    ∃ ds, s = ds ++ mid ∧ (∀ c ∈ ds, isDecimal c = true) ∧
      ((∀ c ∈ ds, c.isDigit = true) → kind ds ∧ v = digitsValue ds)
  complete : ∀ {ds : List Char} (mid : List Char), (∀ c ∈ ds, c.isDigit = true) → kind ds →
    (digitsValue ds, mid) ∈ r (ds ++ mid)

/-- A numeral of one or two digits up to a limit. -/
def UpTo (limit : ℕ) (ds : List Char) : Prop :=
  (ds.length = 1 ∨ ds.length = 2) ∧ 1 ≤ digitsValue ds ∧ digitsValue ds ≤ limit

lemma isDecimal_of_toNat {c : Char} (h : 48 ≤ c.toNat ∧ c.toNat ≤ 57) : isDecimal c = true :=
  isDecimal_of_isDigit (isDigit_iff.mpr h)

lemma sound_pair {a b : Char} {limit : ℕ} (ha : isDecimal a = true) (hb : isDecimal b = true)
    (h : a.isDigit = true → b.isDigit = true → v = 10 * (a.toNat - 48) + (b.toNat - 48) ∧
      1 ≤ v ∧ v ≤ limit) :
    ∃ ds, a :: b :: mid = ds ++ mid ∧ (∀ c ∈ ds, isDecimal c = true) ∧
      ((∀ c ∈ ds, c.isDigit = true) → UpTo limit ds ∧ v = digitsValue ds) := by
  refine ⟨[a, b], rfl, List.forall_mem_cons.mpr ⟨ha, List.forall_mem_singleton.mpr hb⟩, ?_⟩
  intro hdigits
  obtain ⟨ha', hb'⟩ := List.forall_mem_cons.mp hdigits
  obtain ⟨hv, hrange⟩ := h ha' (hb' b List.mem_cons_self)
  rw [← digitsValue_pair] at hv
  exact ⟨⟨Or.inr rfl, hv ▸ hrange⟩, hv⟩

lemma sound_single {a : Char} {limit : ℕ} (ha : 49 ≤ a.toNat ∧ a.toNat ≤ 57) (hlimit : 9 ≤ limit) :
    ∃ ds, a :: mid = ds ++ mid ∧ (∀ c ∈ ds, isDecimal c = true) ∧
      ((∀ c ∈ ds, c.isDigit = true) → UpTo limit ds ∧ a.toNat - 48 = digitsValue ds) := by
  refine ⟨[a], rfl, List.forall_mem_singleton.mpr (isDecimal_of_toNat (by omega)), fun _ => ?_⟩
  have hvalue := digitsValue_single a
  exact ⟨⟨Or.inl rfl, by omega⟩, hvalue.symm⟩

/-- The digits of a numeral up to a limit. -/
lemma UpTo.cases {limit : ℕ} {ds : List Char} (h : UpTo limit ds)
    (hdigits : ∀ c ∈ ds, c.isDigit = true) :
    (∃ a : Char, ds = [a] ∧ (49 ≤ a.toNat ∧ a.toNat ≤ 57) ∧ digitsValue ds = a.toNat - 48) ∨
      ∃ a b : Char, ds = [a, b] ∧ (48 ≤ a.toNat ∧ a.toNat ≤ 57) ∧ (48 ≤ b.toNat ∧ b.toNat ≤ 57) ∧
        digitsValue ds = 10 * (a.toNat - 48) + (b.toNat - 48) := by
  obtain ⟨hone | htwo, hrange⟩ := h
  · obtain ⟨a, rfl⟩ := List.length_eq_one_iff.mp hone
    have ha := isDigit_iff.mp (hdigits a List.mem_cons_self)
    have hvalue := digitsValue_single a
    exact Or.inl ⟨a, rfl, by omega, hvalue⟩
  · obtain ⟨a, b, rfl⟩ := List.length_eq_two.mp htwo
    obtain ⟨ha, hb⟩ := List.forall_mem_cons.mp hdigits
    exact Or.inr ⟨a, b, rfl, isDigit_iff.mp ha, isDigit_iff.mp (hb b List.mem_cons_self),
      digitsValue_pair a b⟩

lemma mem_basicPair {lo hi lo' hi' a b : Char} (ha : lo.toNat ≤ a.toNat ∧ a.toNat ≤ hi.toNat)
    (hb : lo'.toNat ≤ b.toNat ∧ b.toNat ≤ hi'.toNat)
    (hv : v = 10 * (a.toNat - 48) + (b.toNat - 48)) :
    (v, mid) ∈ twoDigits (basicDigit lo hi) (basicDigit lo' hi') (a :: b :: mid) :=
  mem_twoDigits.mpr ⟨_, _, b :: mid, mem_basicDigit.mpr ⟨a, rfl, ha, rfl⟩,
    mem_basicDigit.mpr ⟨b, rfl, hb, rfl⟩, hv⟩

lemma exists_basicPair {lo hi lo' hi' : Char}
    (h : (v, mid) ∈ twoDigits (basicDigit lo hi) (basicDigit lo' hi') s) :
    ∃ a b : Char, s = a :: b :: mid ∧ (lo.toNat ≤ a.toNat ∧ a.toNat ≤ hi.toNat) ∧
      (lo'.toNat ≤ b.toNat ∧ b.toNat ≤ hi'.toNat) ∧
      v = 10 * (a.toNat - 48) + (b.toNat - 48) := by
  obtain ⟨n, k, rest, hn, hk, rfl⟩ := mem_twoDigits.mp h
  obtain ⟨a, rfl, ha, rfl⟩ := mem_basicDigit.mp hn
  obtain ⟨b, rfl, hb, rfl⟩ := mem_basicDigit.mp hk
  exact ⟨a, b, rfl, ha, hb, rfl⟩

lemma month_numbers : Numbers month (UpTo 12) where
  sound := by
    rintro s mid v h -
    have hzero : '0'.toNat = 48 ∧ '1'.toNat = 49 ∧ '2'.toNat = 50 ∧ '9'.toNat = 57 := by decide
    rcases mem_either.mp h with h | h
    · obtain ⟨a, b, rfl, ha, hb, hv⟩ := exists_basicPair h
      exact sound_pair (isDecimal_of_toNat (by omega)) (isDecimal_of_toNat (by omega))
        fun _ _ => by omega
    · rcases mem_either.mp h with h | h
      · obtain ⟨a, b, rfl, ha, hb, hv⟩ := exists_basicPair h
        exact sound_pair (isDecimal_of_toNat (by omega)) (isDecimal_of_toNat (by omega))
          fun _ _ => by omega
      · obtain ⟨a, rfl, ha, rfl⟩ := mem_basicDigit.mp h
        exact sound_single ha (by decide)
  complete := by
    intro ds mid hdigits h
    have hrange := h.2
    rcases h.cases hdigits with ⟨a, rfl, ha, hv⟩ | ⟨a, b, rfl, ha, hb, hv⟩
    · rw [hv]
      exact mem_either.mpr (Or.inr (mem_either.mpr (Or.inr (mem_basicDigit.mpr ⟨a, rfl, ha, rfl⟩))))
    · rcases (by omega : a.toNat = 49 ∧ b.toNat ≤ 50 ∨ a.toNat = 48 ∧ 49 ≤ b.toNat) with
        ⟨hone, htwo⟩ | ⟨hzero, hpos⟩
      · exact mem_either.mpr (Or.inl (mem_basicPair ⟨hone.ge, hone.le⟩ ⟨hb.1, htwo⟩ hv))
      · exact mem_either.mpr (Or.inr (mem_either.mpr (Or.inl
          (mem_basicPair ⟨hzero.ge, hzero.le⟩ ⟨hpos, hb.2⟩ hv))))

lemma isDecimal_of_decimalValue? {c : Char} {n : ℕ} (h : decimalValue? c = some n) :
    isDecimal c = true := by
  unfold isDecimal
  rw [h]
  rfl

lemma eq_of_decimalValue? {c : Char} {n : ℕ} (h : decimalValue? c = some n)
    (hc : c.isDigit = true) : n = c.toNat - 48 :=
  Option.some.inj (h.symm.trans (decimalValue?_of_isDigit hc))

lemma day_numbers : Numbers day (UpTo 31) where
  sound := by
    rintro s mid v h hblank
    have hcodes : '0'.toNat = 48 ∧ '1'.toNat = 49 ∧ '2'.toNat = 50 ∧ '3'.toNat = 51 ∧
        '9'.toNat = 57 := by decide
    rcases mem_either.mp h with h | h
    · obtain ⟨a, b, rfl, ha, hb, hv⟩ := exists_basicPair h
      exact sound_pair (isDecimal_of_toNat (by omega)) (isDecimal_of_toNat (by omega))
        fun _ _ => by omega
    · rcases mem_either.mp h with h | h
      · obtain ⟨n, k, rest, hn, hk, rfl⟩ := mem_twoDigits.mp h
        obtain ⟨a, rfl, ha, rfl⟩ := mem_basicDigit.mp hn
        obtain ⟨b, rfl, hb⟩ := mem_digit.mp hk
        refine sound_pair (isDecimal_of_toNat (by omega)) (isDecimal_of_decimalValue? hb) ?_
        intro _ hdigit
        obtain rfl := eq_of_decimalValue? hb hdigit
        have hrange := isDigit_iff.mp hdigit
        omega
      · rcases mem_either.mp h with h | h
        · obtain ⟨a, b, rfl, ha, hb, hv⟩ := exists_basicPair h
          exact sound_pair (isDecimal_of_toNat (by omega)) (isDecimal_of_toNat (by omega))
            fun _ _ => by omega
        · rcases mem_either.mp h with h | h
          · obtain ⟨a, rfl, ha, rfl⟩ := mem_basicDigit.mp h
            exact sound_single ha (by decide)
          · obtain ⟨c, rest, hc, -⟩ := mem_bind.mp h
            obtain ⟨rfl, -⟩ := mem_char.mp hc
            exact absurd rfl hblank
  complete := by
    rintro ds mid hdigits h
    have hrange := h.2
    rcases h.cases hdigits with ⟨a, rfl, ha, hv⟩ | ⟨a, b, rfl, ha, hb, hv⟩
    · rw [hv]
      exact mem_either.mpr (Or.inr (mem_either.mpr (Or.inr (mem_either.mpr (Or.inr
        (mem_either.mpr (Or.inl (mem_basicDigit.mpr ⟨a, rfl, ha, rfl⟩))))))))
    · rcases (by omega : a.toNat = 51 ∧ b.toNat ≤ 49 ∨ 49 ≤ a.toNat ∧ a.toNat ≤ 50 ∨
        a.toNat = 48 ∧ 49 ≤ b.toNat) with ⟨hthree, hone⟩ | hlow | ⟨hzero, hpos⟩
      · exact mem_either.mpr (Or.inl (mem_basicPair ⟨hthree.ge, hthree.le⟩ ⟨hb.1, hone⟩ hv))
      · exact mem_either.mpr (Or.inr (mem_either.mpr (Or.inl (mem_twoDigits.mpr
          ⟨_, _, b :: mid, mem_basicDigit.mpr ⟨a, rfl, hlow, rfl⟩,
            mem_digit.mpr ⟨b, rfl, decimalValue?_of_isDigit (isDigit_iff.mpr hb)⟩, hv⟩))))
      · exact mem_either.mpr (Or.inr (mem_either.mpr (Or.inr (mem_either.mpr (Or.inl
          (mem_basicPair ⟨hzero.ge, hzero.le⟩ ⟨hpos, hb.2⟩ hv))))))

lemma exists_digitPair (h : (v, mid) ∈ twoDigits digit digit s) :
    ∃ a b : Char, s = a :: b :: mid ∧ (isDecimal a = true ∧ isDecimal b = true) ∧
      (a.isDigit = true → b.isDigit = true → v = digitsValue [a, b]) := by
  obtain ⟨n, k, rest, hn, hk, rfl⟩ := mem_twoDigits.mp h
  obtain ⟨a, rfl, ha⟩ := mem_digit.mp hn
  obtain ⟨b, rfl, hb⟩ := mem_digit.mp hk
  refine ⟨a, b, rfl, ⟨isDecimal_of_decimalValue? ha, isDecimal_of_decimalValue? hb⟩, ?_⟩
  intro ha' hb'
  rw [digitsValue_pair, eq_of_decimalValue? ha ha', eq_of_decimalValue? hb hb']

lemma mem_digitPair {a b : Char} (ha : a.isDigit = true) (hb : b.isDigit = true) :
    (digitsValue [a, b], mid) ∈ twoDigits digit digit (a :: b :: mid) :=
  mem_twoDigits.mpr ⟨_, _, b :: mid, mem_digit.mpr ⟨a, rfl, decimalValue?_of_isDigit ha⟩,
    mem_digit.mpr ⟨b, rfl, decimalValue?_of_isDigit hb⟩, digitsValue_pair a b⟩

lemma year_numbers : Numbers year (·.length = 4) where
  sound := by
    rintro s mid v h -
    obtain ⟨n, rest, hn, h'⟩ := mem_bind.mp h
    obtain ⟨k, rest', hk, hv⟩ := mem_bind.mp h'
    obtain ⟨rfl, rfl⟩ := mem_pure.mp hv
    obtain ⟨a, b, rfl, ⟨ha, hb⟩, hab⟩ := exists_digitPair hn
    obtain ⟨c, d, rfl, ⟨hc, hd⟩, hcd⟩ := exists_digitPair hk
    refine ⟨[a, b] ++ [c, d], rfl, ?_, fun hdigits => ⟨rfl, ?_⟩⟩
    · simp only [List.forall_mem_append, List.forall_mem_cons, ha, hb, hc, hd, true_and]
      exact ⟨nofun, nofun⟩
    · simp only [List.forall_mem_append, List.forall_mem_cons] at hdigits
      obtain ⟨⟨ha', hb', -⟩, hc', hd', -⟩ := hdigits
      rw [hab ha' hb', hcd hc' hd', digitsValue_append, Nat.mul_comm]
      rfl
  complete := by
    rintro ds mid hdigits hlength
    match ds, hlength with
    | [a, b, c, d], _ =>
      simp only [List.forall_mem_cons] at hdigits
      obtain ⟨ha, hb, hc, hd, -⟩ := hdigits
      have hvalue : digitsValue ([a, b] ++ [c, d]) =
          100 * digitsValue [a, b] + digitsValue [c, d] := by
        rw [digitsValue_append, Nat.mul_comm]
        rfl
      exact mem_bind.mpr ⟨_, _, mem_digitPair ha hb, mem_bind.mpr ⟨_, _, mem_digitPair hc hd,
        mem_pure.mpr ⟨hvalue, rfl⟩⟩⟩

section Separators

variable {β : Type} {r : Reading ℕ} {kind : List Char → Prop} {k : ℕ → Reading β}
variable {ds rest : List Char} {c sep : Char}

/-- A numeral is read up to the separator if it is one of the kind. -/
lemma mem_number (hr : Numbers r kind) (hdigits : ∀ d ∈ ds, d.isDigit = true) (hne : ds ≠ [])
    (hc : isDecimal c = false) (hsep : isDecimal sep = false)
    (h : (v, sep :: mid) ∈ r (ds ++ c :: rest)) :
    sep = c ∧ mid = rest ∧ kind ds ∧ v = digitsValue ds := by
  obtain ⟨ds', hs, hdecimal, hkind⟩ := hr.sound h (head?_ne_of_digits hdigits hne rfl)
  obtain ⟨rfl, rfl, rfl⟩ := append_cons_inj (t := fun d => !isDecimal d) hs
    (fun d hd => by rw [isDecimal_of_isDigit (hdigits d hd)]; rfl)
    (fun d hd => by rw [hdecimal d hd]; rfl) (by rw [hc]; rfl) (by rw [hsep]; rfl)
  exact ⟨rfl, rfl, hkind hdigits⟩

/-- The only way to go on is the first. -/
lemma findSome?_of_unique {α β : Type} {l : List α} {f : α → Option β} {a : α} (ha : a ∈ l)
    (h : ∀ x ∈ l, f x ≠ none → f x = f a) : l.findSome? f = f a := by
  cases hfind : l.findSome? f with
  | none => exact (List.findSome?_eq_none_iff.mp hfind a ha).symm
  | some b =>
    obtain ⟨x, hx, hfx⟩ := List.exists_of_findSome?_eq_some hfind
    have hsame := h x hx (by rw [hfx]; exact nofun)
    rw [← hsame, hfx]

lemma mem_skip_bind {f : Unit → Reading β} {b : β} {last s : List Char} :
    (b, last) ∈ (skip sep >>= f) s ↔ ∃ mid, s = sep :: mid ∧ (b, last) ∈ f () mid :=
  IsoForm.mem_skip_bind

lemma skip_bind_self (f : Unit → Reading β) (s : List Char) :
    (skip sep >>= f) (sep :: s) = f () s := by
  have hskip : skip sep (sep :: s) = [((), s)] := by
    change (charThat (· == sep) (sep :: s)).flatMap _ = _
    unfold charThat
    dsimp only
    rw [if_pos (beq_self_eq_true sep)]
    rfl
  change (skip sep (sep :: s)).flatMap (fun read => f read.1 read.2) = _
  rw [hskip]
  exact List.append_nil _

/-- A numeral of the kind and its separator are read in one way. -/
lemma head?_number (hr : Numbers r kind) (hdigits : ∀ d ∈ ds, d.isDigit = true) (hne : ds ≠ [])
    (hsep : isDecimal sep = false) (hkind : kind ds) :
    ((r >>= fun v => skip sep >>= fun _ => k v) (ds ++ sep :: rest)).head? =
      (k (digitsValue ds) rest).head? := by
  have hbind : ((r >>= fun v => skip sep >>= fun _ => k v) (ds ++ sep :: rest)).head? =
      (r (ds ++ sep :: rest)).findSome? fun read =>
        ((skip sep >>= fun _ => k read.1) read.2).head? := List.head?_flatMap
  rw [hbind, findSome?_of_unique (hr.complete (sep :: rest) hdigits hkind), skip_bind_self]
  rintro ⟨v, mid⟩ hmem hsome
  obtain ⟨⟨b, last⟩, hb⟩ := Option.ne_none_iff_exists'.mp hsome
  obtain ⟨mid', hmid, -⟩ := mem_skip_bind.mp (List.mem_of_mem_head? hb)
  dsimp only at hmid
  subst hmid
  obtain ⟨-, rfl, -, rfl⟩ := mem_number hr hdigits hne hsep hsep hmem
  rfl

/-- Without a numeral of the kind before the separator nothing is read. -/
lemma number_eq_nil (hr : Numbers r kind) (hdigits : ∀ d ∈ ds, d.isDigit = true) (hne : ds ≠ [])
    (hc : isDecimal c = false) (hsep : isDecimal sep = false) (h : ¬(sep = c ∧ kind ds)) :
    (r >>= fun v => skip sep >>= fun _ => k v) (ds ++ c :: rest) = [] := by
  rw [List.eq_nil_iff_forall_not_mem]
  rintro ⟨b, last⟩ hmem
  obtain ⟨v, mid, hv, hskip⟩ := mem_bind.mp hmem
  obtain ⟨mid', rfl, -⟩ := mem_skip_bind.mp hskip
  obtain ⟨rfl, -, hkind, -⟩ := mem_number hr hdigits hne hc hsep hv
  exact h ⟨rfl, hkind⟩

end Separators

section Ends

variable {β : Type} {ds rest : List Char}

lemma head?_map (r : Reading ℕ) (g : ℕ → β) (s : List Char) :
    ((r >>= fun v => pure (g v)) s).head? = (r s).head?.map fun read => (g read.1, read.2) := by
  change ((r s).flatMap fun read => [(g read.1, read.2)]).head? = _
  cases r s with
  | nil => rfl
  | cons read more => rfl

lemma head?_of_unique {α : Type} {l : List α} {a : α} (ha : a ∈ l) (h : ∀ x ∈ l, x = a) :
    l.head? = some a := by
  cases l with
  | nil => cases ha
  | cons x more => exact congrArg some (h x List.mem_cons_self)

lemma head?_ne_blank (hdigits : ∀ c ∈ ds, c.isDigit = true) : ds.head? ≠ some ' ' := fun h =>
  absurd (hdigits ' ' (List.mem_of_mem_head? h)) (by decide)

lemma head?_year (hdigits : ∀ c ∈ ds, c.isDigit = true) (hlength : ds.length = 4) :
    (year ds).head? = some (digitsValue ds, []) := by
  have hmem := year_numbers.complete [] hdigits hlength
  rw [List.append_nil] at hmem
  refine head?_of_unique hmem ?_
  rintro ⟨v, mid⟩ hv
  obtain ⟨ds', rfl, -, hkind⟩ := year_numbers.sound hv (head?_ne_blank hdigits)
  obtain ⟨hfour, hvalue⟩ := hkind (List.forall_mem_append.mp hdigits).1
  rw [List.length_append] at hlength
  have hnil : mid = [] := List.length_eq_zero_iff.mp (by omega)
  rw [hnil, List.append_nil, hvalue]

/-- A day of two digits. -/
def twoDigitDay : Reading ℕ :=
  either (twoDigits (basicDigit '3' '3') (basicDigit '0' '1'))
    (either (twoDigits (basicDigit '1' '2') digit)
      (twoDigits (basicDigit '0' '0') (basicDigit '1' '9')))

/-- A day of one digit, with or without a blank in the place of the other. -/
def oneDigitDay : Reading ℕ :=
  either (basicDigit '1' '9') (do
    let _ ← char ' '
    basicDigit '1' '9')

/-- The days of two digits come before those of one. -/
lemma day_eq_append (s : List Char) : day s = twoDigitDay s ++ oneDigitDay s := by
  simp only [day, twoDigitDay, oneDigitDay, either, List.append_assoc]

lemma exists_of_twoDigitDay {v : ℕ} {s mid : List Char} (h : (v, mid) ∈ twoDigitDay s) :
    ∃ a b, s = a :: b :: mid := by
  rcases mem_either.mp h with h | h
  · obtain ⟨a, b, hs, -⟩ := exists_basicPair h
    exact ⟨a, b, hs⟩
  · rcases mem_either.mp h with h | h
    · obtain ⟨_, _, _, hn, hk, -⟩ := mem_twoDigits.mp h
      obtain ⟨a, rfl, -⟩ := mem_basicDigit.mp hn
      obtain ⟨b, rfl, -⟩ := mem_digit.mp hk
      exact ⟨a, b, rfl⟩
    · obtain ⟨a, b, hs, -⟩ := exists_basicPair h
      exact ⟨a, b, hs⟩

lemma exists_of_oneDigitDay {v : ℕ} {s mid : List Char} (h : (v, mid) ∈ oneDigitDay s)
    (hs : s.head? ≠ some ' ') : ∃ a, s = a :: mid := by
  rcases mem_either.mp h with h | h
  · obtain ⟨a, hs, -⟩ := mem_basicDigit.mp h
    exact ⟨a, hs⟩
  · obtain ⟨_, _, hc, -⟩ := mem_bind.mp h
    obtain ⟨rfl, -⟩ := mem_char.mp hc
    exact absurd rfl hs

lemma head?_day (hdigits : ∀ c ∈ ds, c.isDigit = true) (hday : UpTo 31 ds) :
    (day ds).head? = some (digitsValue ds, []) := by
  have hmem := day_numbers.complete [] hdigits hday
  have hblank := head?_ne_blank hdigits
  rw [List.append_nil, day_eq_append] at hmem
  have hunique : ∀ v, (v, []) ∈ day ds → (v, []) = (digitsValue ds, ([] : List Char)) := by
    intro v hv
    obtain ⟨ds', hs, -, hkind⟩ := day_numbers.sound hv hblank
    rw [List.append_nil] at hs
    subst hs
    rw [(hkind hdigits).2]
  rw [day_eq_append] at hunique ⊢
  rcases List.mem_append.mp hmem with htwo | hone
  · obtain ⟨a, b, rfl⟩ := exists_of_twoDigitDay htwo
    rw [List.head?_append, head?_of_unique htwo]
    · rfl
    · rintro ⟨v, mid⟩ hv
      obtain ⟨_, _, hs⟩ := exists_of_twoDigitDay hv
      obtain ⟨-, rfl⟩ := List.cons.inj (List.cons.inj hs).2
      exact hunique v (List.mem_append_left _ hv)
  · obtain ⟨a, rfl⟩ := exists_of_oneDigitDay hone hblank
    refine head?_of_unique hmem ?_
    rintro ⟨v, mid⟩ hv
    rcases List.mem_append.mp hv with htwo | hone
    · obtain ⟨_, _, hs⟩ := exists_of_twoDigitDay htwo
      cases (List.cons.inj hs).2
    · obtain ⟨_, hs⟩ := exists_of_oneDigitDay hone hblank
      obtain ⟨-, rfl⟩ := List.cons.inj hs
      exact hunique v hv

end Ends

instance {limit : ℕ} {ds : List Char} : Decidable (UpTo limit ds) :=
  inferInstanceAs (Decidable (_ ∧ _))

lemma parse?_eq_some {layout : Reading Parts} {p : Parts} (h : (layout s).head? = some (p, [])) :
    parse? layout s = some p := by
  unfold parse?
  rw [h]

lemma parse?_eq_none {layout : Reading Parts} (h : ∀ p, (layout s).head? ≠ some (p, [])) :
    parse? layout s = none := by
  unfold parse?
  split
  · rename_i p hp
    exact absurd hp (h p)
  · rfl

section Numerals

variable {year month date : List Char} {sep c : Char}
variable (hyear : ∀ c ∈ year, c.isDigit = true) (hmonth : ∀ c ∈ month, c.isDigit = true)
variable (hdate : ∀ c ∈ date, c.isDigit = true)

include hyear hmonth hdate

lemma parse?_monthDayYear (hlength : year.length = 4) (hmonthNe : month ≠ []) (hdateNe : date ≠ [])
    (hc : isDecimal c = false) (hsep : isDecimal sep = false) :
    parse? (monthDayYear sep) (month ++ c :: (date ++ c :: year)) =
      if sep = c ∧ UpTo 12 month ∧ UpTo 31 date then
        some (dateOnly (digitsValue year) (digitsValue month) (digitsValue date))
      else none := by
  by_cases hsame : sep = c ∧ UpTo 12 month
  · obtain ⟨rfl, hmonthKind⟩ := hsame
    have hhead : ∀ p, (monthDayYear sep (month ++ sep :: (date ++ sep :: year))).head? = p ↔
        ((day >>= fun d => skip sep >>= fun _ => Layout.year >>= fun y =>
          pure (dateOnly y (digitsValue month) d)) (date ++ sep :: year)).head? = p := by
      intro p
      exact Eq.congr_left (head?_number month_numbers hmonth hmonthNe hsep hmonthKind)
    by_cases hdateKind : UpTo 31 date
    · rw [if_pos ⟨rfl, hmonthKind, hdateKind⟩]
      refine parse?_eq_some ((hhead _).mpr ?_)
      rw [head?_number day_numbers hdate hdateNe hsep hdateKind, head?_map,
        head?_year hyear hlength]
      rfl
    · rw [if_neg fun h => hdateKind h.2.2]
      refine parse?_eq_none fun p hp => ?_
      rw [hhead, number_eq_nil day_numbers hdate hdateNe hsep hsep fun h => hdateKind h.2] at hp
      cases hp
  · rw [if_neg fun h => hsame ⟨h.1, h.2.1⟩]
    refine parse?_eq_none fun p hp => ?_
    have hnil : monthDayYear sep (month ++ c :: (date ++ c :: year)) = [] :=
      number_eq_nil month_numbers hmonth hmonthNe hc hsep hsame
    rw [hnil] at hp
    cases hp

lemma parse?_yearMonthDay (hlength : year.length = 4) (hmonthNe : month ≠ [])
    (hsep : isDecimal sep = false) :
    parse? (yearMonthDay sep) (year ++ sep :: (month ++ sep :: date)) =
      if UpTo 12 month ∧ UpTo 31 date then
        some (dateOnly (digitsValue year) (digitsValue month) (digitsValue date))
      else none := by
  have hyearNe : year ≠ [] := by
    rintro rfl
    cases hlength
  have hhead : (yearMonthDay sep (year ++ sep :: (month ++ sep :: date))).head? =
      ((Layout.month >>= fun m => skip sep >>= fun _ => day >>= fun d =>
        pure (dateOnly (digitsValue year) m d)) (month ++ sep :: date)).head? :=
    head?_number year_numbers hyear hyearNe hsep hlength
  by_cases hmonthKind : UpTo 12 month
  · rw [head?_number month_numbers hmonth hmonthNe hsep hmonthKind, head?_map] at hhead
    by_cases hdateKind : UpTo 31 date
    · rw [if_pos ⟨hmonthKind, hdateKind⟩]
      refine parse?_eq_some ?_
      rw [hhead, head?_day hdate hdateKind]
      rfl
    · rw [if_neg fun h => hdateKind h.2]
      refine parse?_eq_none fun p hp => ?_
      rw [hhead, Option.map_eq_some_iff] at hp
      obtain ⟨⟨v, mid⟩, hfirst, heq⟩ := hp
      obtain rfl := (Prod.mk.inj heq).2
      obtain ⟨ds, hs, -, hkind⟩ :=
        day_numbers.sound (List.mem_of_mem_head? hfirst) (head?_ne_blank hdate)
      rw [List.append_nil] at hs
      subst hs
      exact hdateKind (hkind hdate).1
  · rw [if_neg fun h => hmonthKind h.1]
    refine parse?_eq_none fun p hp => ?_
    rw [hhead, number_eq_nil month_numbers hmonth hmonthNe hsep hsep fun h => hmonthKind h.2] at hp
    cases hp

end Numerals

section Blanks

variable {β : Type}

lemma reads_basicDigit (lo hi : Char) : (basicDigit lo hi).Reads fun _ => True :=
  .bind (.charThat fun _ _ => trivial) fun _ => .pure _

lemma reads_digit : digit.Reads fun _ => True := by
  intro s v rest h
  obtain ⟨c, rfl, -⟩ := mem_digit.mp h
  exact ⟨[c], rfl, fun _ _ => trivial⟩

lemma reads_twoDigits {first second : Reading ℕ} (h : first.Reads fun _ => True)
    (h' : second.Reads fun _ => True) : (twoDigits first second).Reads fun _ => True :=
  .bind h fun _ => .bind h' fun _ => .pure _

lemma reads_day : day.Reads fun _ => True :=
  .either (reads_twoDigits (reads_basicDigit _ _) (reads_basicDigit _ _))
    (.either (reads_twoDigits (reads_basicDigit _ _) reads_digit)
      (.either (reads_twoDigits (reads_basicDigit _ _) (reads_basicDigit _ _))
        (.either (reads_basicDigit _ _)
          (.bind (.charThat fun _ _ => trivial) fun _ => reads_basicDigit _ _))))

lemma reads_word (cs : List Char) : (word cs).Reads fun _ => True := by
  induction cs with
  | nil => exact .pure ()
  | cons c rest ih => exact .bind (.charThat fun _ _ => trivial) fun _ => ih

lemma reads_oneOf (names : List (String × ℕ)) : (oneOf names).Reads fun _ => True := by
  induction names with
  | nil => exact fun _ _ _ h => absurd h List.not_mem_nil
  | cons name rest ih => exact .either (.bind (reads_word _) fun _ => .pure _) ih

/-- After a reading there is no blank where there is none in the text. -/
lemma blanks_eq_nil {r : Reading ℕ} {k : ℕ → Reading β} (hr : r.Reads fun _ => True)
    (hs : ∀ c ∈ s, isBlank c = false) : (r >>= fun v => blanks >>= fun _ => k v) s = [] := by
  rw [List.eq_nil_iff_forall_not_mem]
  rintro ⟨b, last⟩ hmem
  obtain ⟨v, mid, hv, h⟩ := mem_bind.mp hmem
  obtain ⟨front, rfl, -⟩ := hr hv
  obtain ⟨u, mid', hblanks, -⟩ := mem_bind.mp h
  obtain ⟨cs, rfl, hne, hcs⟩ := mem_oneOrMore.mp hblanks
  obtain ⟨c, more, rfl⟩ := List.exists_cons_of_ne_nil hne
  have hc := hs c (List.mem_append_right _ (List.mem_append_left _ List.mem_cons_self))
  rw [hcs c List.mem_cons_self] at hc
  cases hc

lemma bind_eq_nil {r : Reading Parts} {k : Parts → Reading β} (h : r s = []) :
    (r >>= k) s = [] := by
  change (r s).flatMap _ = []
  rw [h]
  rfl

lemma parse?_of_nil {layout : Reading Parts} (h : layout s = []) : parse? layout s = none :=
  parse?_eq_none fun p hp => by rw [h] at hp; cases hp

/-- A text without blanks is in one of the layouts of numerals, or in none. -/
theorem readLayout?_of_not_blank (hs : ∀ c ∈ s, isBlank c = false) : Moment.readLayout? s =
    [monthDayYear '-', monthDayYear '/', yearMonthDay '/'].findSome? fun layout =>
      (parse? layout s).bind Parts.moment? := by
  have hdate : dayMonthYear s = [] := blanks_eq_nil reads_day hs
  have htime : dayMonthYearTime s = [] := bind_eq_nil hdate
  have hzone : dayMonthYearTimeZone s = [] := bind_eq_nil htime
  have hnamed : namedMonthDayYear s = [] := blanks_eq_nil (reads_oneOf _) hs
  unfold Moment.readLayout? all
  simp only [List.findSome?_cons, List.findSome?_nil, parse?_of_nil hdate, parse?_of_nil htime,
    parse?_of_nil hzone, parse?_of_nil hnamed, Option.bind_none]

end Blanks

end Layout

end InputGuard
